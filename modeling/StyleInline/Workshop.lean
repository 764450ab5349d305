import StyleInline.Config
import StyleInline.Event
import StyleInline.Processor.Options
import StyleInline.Processor.Trial
import StyleInline.Rewrite
import StyleInline.Stylesheet

/-!
# The workshop

All bridges that have been built, each with its processor.  Bridges to stylesheet processors
are shared: there is one for each way of processing, built when it is asked for the first
time, and it keeps the file system and the file of options of that first request.

A fetcher reads stylesheets and has them processed through a bridge of the workshop.
-/

namespace StyleInline

/-- The name of a file system; several can be in use, and each changes over time. -/
abbrev SystemId := Nat

abbrev Systems := SystemId → FileSystem

inductive Engine where
  /-- The processor of stylesheets, with the file system and the file that its options are read
  from. -/
  | stylesheets (system : SystemId) (options : Option Path)
  /-- A processor for trials, with the number of its loads. -/
  | trial (trial : Trial) (loads : Nat)
  deriving DecidableEq, Repr, Inhabited

def Stylesheet.processor (options : Option Path) : Processor FileSystem where
  loadConfig files :=
    match ProcessorConfig.load files options with
    | .ok config => (.done config, files)
    | .error failure => (.failed failure, files)
  process config input source files :=
    match Stylesheet.process config input source with
    | .ok output => (.done output, files)
    | .error failure => (.failed failure, files)

structure Worker where
  engine : Engine
  bridge : Bridge := {}
  deriving DecidableEq, Repr, Inhabited

namespace Worker

def call (systems : Systems) (input : String) (source : Path) (worker : Worker) :
    Except Failure String × Worker :=
  match worker.engine with
  | .stylesheets system options =>
    let called := worker.bridge.call (Stylesheet.processor options) input source (systems system)
    (called.answer, { worker with bridge := called.bridge })
  | .trial trial loads =>
    let called := worker.bridge.call trial.processor input source loads
    (called.answer, { engine := .trial trial called.state, bridge := called.bridge })

def loads (worker : Worker) : Nat :=
  match worker.engine with
  | .stylesheets _ _ => 0
  | .trial _ loads => loads

end Worker

abbrev WorkerId := Nat

/-- The workers, and which of them are shared. -/
structure Workshop where
  workers : List Worker := []
  shared : List (Processing × WorkerId) := []
  deriving DecidableEq, Repr, Inhabited

namespace Workshop

def hire (workshop : Workshop) (engine : Engine) : WorkerId × Workshop :=
  (workshop.workers.length, { workshop with workers := workshop.workers ++ [{ engine }] })

/-- The file of options that a way of processing names. -/
def optionsOf : Processing → Option Path
  | .configFile path => some path
  | _ => none

def shared? (workshop : Workshop) (processing : Processing) : Option WorkerId :=
  (workshop.shared.find? fun (other, _) => other.same processing).map Prod.snd

/-- The shared worker for a way of processing, which is added if it is asked for the first time. -/
def share (workshop : Workshop) (processing : Processing) (system : SystemId) :
    WorkerId × List Event × Workshop :=
  match workshop.shared? processing with
  | some id => (id, [], workshop)
  | none =>
    let (id, workshop) := workshop.hire (.stylesheets system (optionsOf processing))
    (id, [.processorStarted], { workshop with shared := workshop.shared ++ [(processing, id)] })

def call (systems : Systems) (id : WorkerId) (input : String) (source : Path)
    (workshop : Workshop) : Except Failure String × Workshop :=
  match workshop.workers[id]? with
  | none => (.error Bridge.notRunningFailure, workshop)
  | some worker =>
    let (answer, worker) := worker.call systems input source
    (answer, { workshop with workers := workshop.workers.set id worker })

def loads (workshop : Workshop) (id : WorkerId) : Nat :=
  match workshop.workers[id]? with
  | none => 0
  | some worker => worker.loads

end Workshop

/-- Reads stylesheets from one file system, and has them processed in one way. -/
structure Fetcher where
  system : SystemId
  processing : Processing
  /-- The worker, once it has been chosen. -/
  worker : Option WorkerId := none
  deriving DecidableEq, Repr, Inhabited

namespace Fetcher

def ofWorker (system : SystemId) (worker : WorkerId) : Fetcher := ⟨system, .enabled, some worker⟩

abbrev World := Fetcher × Workshop

/-- Has a text processed by the worker of a fetcher, which is chosen if there is none yet. -/
def process (systems : Systems) (path origin : Path) (content : String) :
    World → Fetched × World := fun (fetcher, workshop) =>
  let (id, events, workshop) :=
    match fetcher.worker with
    | some id => (id, [], workshop)
    | none => workshop.share fetcher.processing fetcher.system
  let (answer, workshop) := workshop.call systems id content path
  let content := answer.mapError fun failure => InlineError.process path origin failure
  (⟨content, events⟩, ({ fetcher with worker := some id }, workshop))

/-- The text of a stylesheet; `origin` is the file that asks for it. -/
def fetch (systems : Systems) : Fetch World := fun path origin (fetcher, workshop) =>
  match (systems fetcher.system).read path with
  | .error source => (⟨.error (.read path origin source), []⟩, (fetcher, workshop))
  | .ok content =>
    if fetcher.processing.isEnabled then process systems path origin content (fetcher, workshop)
    else (⟨.ok content, []⟩, (fetcher, workshop))

end Fetcher

end StyleInline
