import StyleInline.Compile
import StyleInline.FileSystem.Memory
import StyleInline.Script.Scope
import StyleInline.Script.Source
import StyleInline.Workshop

/-!
# Sessions

A session is a file system in memory with everything that lives beside it: faults, one tracker,
one visitor, one fetcher and the workshop.  It is changed and asked by steps.
-/

namespace StyleInline

open Script

inductive TrackerChoice where
  | recording
  | tracing
  deriving DecidableEq, Repr, Inhabited

inductive FetcherChoice where
  /-- The worker for trials that was built last. -/
  | trial
  | processing (processing : Processing)
  deriving DecidableEq, Repr, Inhabited

inductive Step where
  | write (path : Path) (content : String) (time : Time)
  | setCwd (path : Path)
  | setModified (path : Path) (time : Time)
  | fault (question : Question) (error : Option FileError)
  | ask (inquiry : Inquiry)
  | register (patterns : List String) (tracker : TrackerChoice)
  | askTracker
  | newTracker
  | transform (config : Config) (tracker : TrackerChoice) (filename : Path) (source : Source)
  /-- A visitor, with a fetcher of its own choice unless one is given. -/
  | newVisitor (config : Config) (filename : Path) (fetcher : Option FetcherChoice)
  /-- A visit; `take` tells to take the failure of the visitor. -/
  | visit (source : Source) (take : Bool)
  | newTrial (trial : Trial)
  | call (input : String) (source : Path)
  | askLoads
  | newFetcher (choice : FetcherChoice)
  | fetch (path origin : Path)
  | share (processing : Processing) (name : String)

/-- What a step needs, but the session does not have. -/
inductive Lack where
  | trial
  | fetcher
  | visitor
  deriving DecidableEq, Repr, Inhabited

inductive Taken where
  | taken (failure : Option InlineError)
  | notTaken
  deriving DecidableEq, Repr, Inhabited

inductive Answer where
  | done
  | reply (reply : Reply)
  | content (text : String)
  | registered (paths : List Path)
  | tracker (paths : List Path) (isInvalidated : Bool) (shown : String)
  | transformed (output : String) (failure : Option InlineError)
  | visited (output : String) (failure : Taken) (isEmpty : Bool)
  | output (text : String)
  | loads (count : Nat)
  | sameAs (names : List String)
  | lacking (lack : Lack)
  | fileError (error : FileError)
  | inlineError (error : InlineError)
  | parseError (message : String)
  | bridgeFailure (failure : Failure)
  deriving DecidableEq, Repr, Inhabited

/-- The state of a session. -/
structure Session where
  memory : Memory := {}
  faults : Faults := []
  registrations : Registrations := {}
  workshop : Workshop := {}
  visitor : Option (Visitor × Fetcher) := none
  trial : Option WorkerId := none
  fetcher : Option Fetcher := none
  /-- The shared workers that were asked for, under the names they were given. -/
  shares : List (String × WorkerId) := []

namespace Session

def system : SystemId := 0

def files (session : Session) : FileSystem := session.faults.within session.memory.fileSystem

def systems (session : Session) : Systems := fun _ => session.files

def start (cwd : Option Path) (files : List (Path × String)) : Session :=
  let memory : Memory :=
    match cwd with
    | none => {}
    | some cwd => Memory.setCwd {} cwd
  { memory := files.foldl (fun memory (path, content) => memory.write path content 0) memory }

structure Performed where
  answer : Answer
  events : List Event := []
  session : Session

def tell (session : Session) (answer : Answer) : Performed := ⟨answer, [], session⟩

def register (session : Session) (patterns : List String) : TrackerChoice → Performed
  | .recording =>
    let registered :=
      Dependency.register Registrations.tracker session.files patterns session.registrations
    { answer := answerOf registered.paths
      events := registered.events
      session := { session with registrations := registered.state } }
  | .tracing =>
    let registered := Dependency.register Tracker.tracing session.files patterns ()
    { answer := answerOf registered.paths, events := registered.events, session }
where
  answerOf : Except InlineError (List Path) → Answer
    | .ok paths => .registered paths
    | .error error => .inlineError error

def compileWith (session : Session) (config : Config) (tracker : TrackerChoice) (filename : Path)
    (module : Module) : Compiled Registrations Fetcher.World :=
  let fetch := Fetcher.fetch session.systems
  let world : Fetcher.World := (⟨system, config.processing, none⟩, session.workshop)
  match tracker with
  | .recording =>
    compile config filename session.files Registrations.tracker fetch module
      session.registrations world
  | .tracing =>
    compile config filename session.files Tracker.tracing fetch module session.registrations world

def transform (session : Session) (config : Config) (tracker : TrackerChoice) (filename : Path)
    (source : Source) : Performed :=
  match source.parse with
  | .error message => session.tell (.parseError message)
  | .ok module =>
    let compiled := session.compileWith config tracker filename module.resolve
    { answer := .transformed compiled.module.print compiled.failure
      events := compiled.events
      session :=
        { session with
          registrations := compiled.registrations
          workshop := compiled.world.2 } }

def fetcherOf (session : Session) : FetcherChoice → Except Lack Fetcher
  | .processing processing => .ok ⟨system, processing, none⟩
  | .trial =>
    match session.trial with
    | none => .error .trial
    | some id => .ok (Fetcher.ofWorker system id)

def newVisitor (session : Session) (config : Config) (filename : Path)
    (choice : Option FetcherChoice) : Performed :=
  match session.fetcherOf (choice.getD (.processing config.processing)) with
  | .error lack => session.tell (.lacking lack)
  | .ok fetcher =>
    let visitor := Visitor.ofConfig config filename session.files
    ⟨.done, [], { session with visitor := some (visitor, fetcher) }⟩

/-- Lets the visitor visit a module; a text that is no module costs the visitor. -/
def visit (session : Session) (source : Source) (take : Bool) : Performed :=
  match session.visitor with
  | none => session.tell (.lacking .visitor)
  | some (visitor, fetcher) =>
    match source.parse with
    | .error message => ⟨.parseError message, [], { session with visitor := none }⟩
    | .ok module =>
      let visit :=
        visitor.visit (Fetcher.fetch session.systems) module.resolve (fetcher, session.workshop)
      let (failure, visitor) :=
        if take then
          let (failure, visitor) := visit.visitor.takeFailure
          (Taken.taken failure, visitor)
        else (Taken.notTaken, visit.visitor)
      { answer := .visited visit.module.print failure visitor.progress.isEmpty
        events := visit.events
        session :=
          { session with
            visitor := some (visitor, visit.world.1)
            workshop := visit.world.2 } }

def fetch (session : Session) (path origin : Path) : Performed :=
  match session.fetcher with
  | none => session.tell (.lacking .fetcher)
  | some fetcher =>
    let (fetched, fetcher, workshop) :=
      Fetcher.fetch session.systems path origin (fetcher, session.workshop)
    { answer :=
        match fetched.content with
        | .ok content => .content content
        | .error error => .inlineError error
      events := fetched.events
      session := { session with fetcher := some fetcher, workshop } }

def call (session : Session) (input : String) (source : Path) : Performed :=
  match session.trial with
  | none => session.tell (.lacking .trial)
  | some id =>
    let (answer, workshop) := session.workshop.call session.systems id input source
    { answer :=
        match answer with
        | .ok output => .output output
        | .error failure => .bridgeFailure failure
      session := { session with workshop } }

/-- Asks for a shared worker, and tells under which names it was had before. -/
def share (session : Session) (processing : Processing) (name : String) : Performed :=
  let (id, events, workshop) := session.workshop.share processing system
  let names := (session.shares.filter (·.2 == id)).map Prod.fst
  let sorted := names.eraseDups.mergeSort fun left right => decide (left ≤ right)
  let shares := session.shares.filter (·.1 != name) ++ [(name, id)]
  ⟨.sameAs sorted, events, { session with workshop, shares }⟩

def perform (session : Session) : Step → Performed
  | .write path content time =>
    ⟨.done, [], { session with memory := session.memory.write path content time }⟩
  | .setCwd path => ⟨.done, [], { session with memory := session.memory.setCwd path }⟩
  | .setModified path time =>
    match session.memory.setModified path time with
    | .ok memory => ⟨.done, [], { session with memory }⟩
    | .error error => session.tell (.fileError error)
  | .fault question (some error) =>
    ⟨.done, [], { session with faults := session.faults.insert question error }⟩
  | .fault question none => ⟨.done, [], { session with faults := session.faults.remove question }⟩
  | .ask inquiry => session.tell (.reply (session.files.reply inquiry))
  | .register patterns tracker => session.register patterns tracker
  | .askTracker =>
    let registrations := session.registrations
    session.tell
      (.tracker registrations.paths (registrations.isInvalidated session.files) registrations.shown)
  | .newTracker => ⟨.done, [], { session with registrations := {} }⟩
  | .transform config tracker filename source => session.transform config tracker filename source
  | .newVisitor config filename choice => session.newVisitor config filename choice
  | .visit source take => session.visit source take
  | .newTrial trial =>
    let (id, workshop) := session.workshop.hire (.trial trial 0)
    ⟨.done, [], { session with workshop, trial := some id }⟩
  | .call input source => session.call input source
  | .askLoads =>
    session.tell <|
      match session.trial with
      | none => .lacking .trial
      | some id => .loads (session.workshop.loads id)
  | .newFetcher choice =>
    match session.fetcherOf choice with
    | .error lack => session.tell (.lacking lack)
    | .ok fetcher => ⟨.done, [], { session with fetcher := some fetcher }⟩
  | .fetch path origin => session.fetch path origin
  | .share processing name => session.share processing name

end Session

end StyleInline
