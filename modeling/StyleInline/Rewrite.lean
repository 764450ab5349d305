import StyleInline.Event
import StyleInline.Resolution
import StyleInline.Substitution

/-!
# Rewriting a module

Imports of stylesheets are replaced item by item: by a constant with the text, by a constant
with a tagged template, or by nothing when the stylesheet is read in styles alone.  Classes
that extend the base class get the stylesheets put into their styles.  The first failure ends
the rewriting; what was rewritten before it stays.

Stylesheets are read through a `Fetch`, so that what is read, and in which order, can be
observed in the state that it works on.
-/

namespace StyleInline

open Script

structure Fetched where
  content : Except InlineError String
  events : List Event := []

/-- Asks for the text of a stylesheet, by its path and the file that imports it. -/
abbrev Fetch (σ : Type) := Path → Path → σ → Fetched × σ

structure Plan where
  config : Config
  filename : Path
  cwd : Path

namespace Plan

/-- The path of the stylesheet that a specifier names, if it names one. -/
def stylesheet? (plan : Plan) (specifier : String) : Except InlineError (Option Path) :=
  (resolveImport specifier plan.filename plan.cwd).map fun path =>
    if plan.config.test.accepts path then some path else none

def isStyle (plan : Plan) (specifier : String) : Bool :=
  match plan.stylesheet? specifier with
  | .ok (some _) => true
  | _ => false

def query (plan : Plan) : Scan.Query := ⟨plan.config.baseClass, plan.isStyle⟩

end Plan

namespace Rewrite

structure Run (σ : Type) where
  progress : Progress
  failure : Option InlineError
  events : List Event
  world : σ

abbrev Step (σ : Type) := StateM (Run σ)

variable {σ : Type}

def report (event : Event) : Step σ Unit :=
  modify fun run => { run with events := run.events ++ [event] }

def request (fetch : Fetch σ) (path origin : Path) :
    Step σ (Except InlineError String) := fun run =>
  let (fetched, world) := fetch path origin run.world
  (fetched.content, { run with world, events := run.events ++ fetched.events })

/-- The name of the tag, with an import of it when it is asked for the first time. -/
def tagName (tag : Tag) : Step σ (Ident × List Node) := fun run =>
  match run.progress.tag with
  | some name => ((name, []), run)
  | none =>
    let (text, scan) := run.progress.scan.allocate tag.localName
    let name : Ident := { name := text }
    let progress := { run.progress with tag := some name, scan }
    ((name, [Emit.tagImport name tag]), { run with progress })

/-- Remembers the text of a stylesheet for the classes that follow. -/
def remember (id : Ident) (path : Path) (content : String) : Step σ Unit :=
  modify fun run => { run with progress := run.progress.bind id ⟨id.name, path, content⟩ }

def inlineTagged (tag : Tag) (binding : Ident) (path : Path) (content : String) :
    Step σ (List Node) := do
  let (name, imports) ← tagName tag
  let scan := (← get).progress.scan
  if scan.stylesReferences.contains binding then remember binding path content
  if scan.isStylesOnly binding then
    report (.deferredToStyles path binding.name)
    return imports
  else
    report (.inlinedTemplate path binding.name)
    return imports ++ [Emit.constant binding (Emit.template name content)]

/-- The items in the place of a stylesheet import. -/
def inline (plan : Plan) (binding : Ident) (path : Path) (content : String) :
    Step σ (List Node) := do
  match plan.config.tag with
  | some tag => inlineTagged tag binding path content
  | none =>
    report (.inlinedString path binding.name)
    return [Emit.constant binding (Emit.string content)]

/-- The items in the place of an import, or nothing if the import stays. -/
def replacement (plan : Plan) (fetch : Fetch σ) (declaration : Import) :
    Step σ (Except InlineError (Option (List Node))) := do
  if declaration.typeOnly then return .ok none
  match plan.stylesheet? declaration.source.value with
  | .error error => return .error error
  | .ok none =>
    report (.notStylesheet declaration.source.value)
    return .ok none
  | .ok (some path) =>
    match (Scan.defaultBindings declaration).head? with
    | none =>
      report (.noDefaultBinding path)
      return .ok none
    | some binding =>
      match ← request fetch path plan.filename with
      | .error error => return .error error
      | .ok content => return .ok (some (← inline plan binding path content))

/-- The items in the place of an import; one that fails stays. -/
def rewriteImport (plan : Plan) (fetch : Fetch σ) (declaration : Import) (attributes : Node) :
    Step σ (List Node) := do
  match ← replacement plan fetch declaration with
  | .ok none => return [.importDecl declaration attributes]
  | .ok (some items) => return items
  | .error error =>
    modify fun run => { run with failure := some error }
    return [.importDecl declaration attributes]

def classNameOf (head : ClassHead) : String :=
  match head.name with
  | some id => id.name
  | none => "<anonymous>"

def isMatching (plan : Plan) (parent : Node) : Bool :=
  plan.config.tag.isSome && extendsBase plan.config.baseClass parent

/-- Puts stylesheets into the styles among the members of the class that is being rewritten. -/
def fillStyles (members : List Node) : Step σ (List Node) := do
  let run ← get
  match run.failure, run.progress.className with
  | none, some className =>
    let setting : Substitution.Setting := ⟨run.progress, className⟩
    let (filled, tally) := (Substitution.substituteMembers setting members).run {}
    match tally.failure with
    | some error => modify fun run => { run with failure := some error }
    | none => if 0 < tally.count then report (.inlinedStyles className tally.count)
    return filled
  | _, _ => return members

/-- Sets the name of the class that is being rewritten, and tells the name before. -/
def exchangeClassName (name : Option String) : Step σ (Option String) := fun run =>
  (run.progress.className, { run with progress := { run.progress with className := name } })

mutual

def rewriteNode (plan : Plan) (fetch : Fetch σ) : Node → Step σ Node
  | .ident role id => return .ident role id
  | .importDecl declaration attributes =>
    return .importDecl declaration (← rewriteNode plan fetch attributes)
  | .exportNames declaration attributes =>
    return .exportNames declaration (← rewriteNode plan fetch attributes)
  | .classNode head decorators members parent rest => do
    if (← get).failure.isSome then return .classNode head decorators members parent rest
    if isMatching plan parent then
      let outer ← exchangeClassName (some (classNameOf head))
      let decorators ← rewriteNodes plan fetch decorators
      let members ← rewriteNodes plan fetch members
      let parent ← rewriteNode plan fetch parent
      let rest ← rewriteNodes plan fetch rest
      let members ← fillStyles members
      let _ ← exchangeClassName outer
      return .classNode head decorators members parent rest
    else
      let decorators ← rewriteNodes plan fetch decorators
      let members ← rewriteNodes plan fetch members
      let parent ← rewriteNode plan fetch parent
      return .classNode head decorators members parent (← rewriteNodes plan fetch rest)
  | .member head key front core back => do
    let key ← rewriteNode plan fetch key
    let front ← rewriteNodes plan fetch front
    let core ← rewriteNode plan fetch core
    return .member head key front core (← rewriteNodes plan fetch back)
  | .items body => return .items (← rewriteItems plan fetch body)
  | .form shape parts => return .form shape (← rewriteNodes plan fetch parts)

def rewriteNodes (plan : Plan) (fetch : Fetch σ) : List Node → Step σ (List Node)
  | [] => return []
  | node :: rest => do
    let node ← rewriteNode plan fetch node
    return node :: (← rewriteNodes plan fetch rest)

/-- Rewrites the items of a module; behind a failure all items stay. -/
def rewriteItems (plan : Plan) (fetch : Fetch σ) : List Node → Step σ (List Node)
  | [] => return []
  | item :: rest => do
    if (← get).failure.isSome then return item :: rest
    match item with
    | .importDecl declaration attributes => do
      let attributes ← rewriteNode plan fetch attributes
      let items ← rewriteImport plan fetch declaration attributes
      return items ++ (← rewriteItems plan fetch rest)
    | other => do
      let item ← rewriteNode plan fetch other
      return item :: (← rewriteItems plan fetch rest)

end

end Rewrite

/-- A visitor rewrites modules one after another, and keeps the failure of one until it is taken. -/
structure Visitor where
  plan : Plan
  progress : Progress := {}
  failure : Option InlineError := none

structure Visit (σ : Type) where
  module : Module
  visitor : Visitor
  events : List Event
  world : σ

namespace Visitor

/-- Rewrites a module; what is remembered of it is forgotten at the end. -/
def visit {σ : Type} (visitor : Visitor) (fetch : Fetch σ) (module : Module) (world : σ) :
    Visit σ :=
  let scan := Scan.ofModule visitor.plan.query module
  let start : Rewrite.Run σ := ⟨{ scan }, visitor.failure, [], world⟩
  let (items, run) := (Rewrite.rewriteItems visitor.plan fetch module.items).run start
  { module := { module with items }
    visitor := { visitor with progress := {}, failure := run.failure }
    events := run.events
    world := run.world }

def takeFailure (visitor : Visitor) : Option InlineError × Visitor :=
  (visitor.failure, { visitor with failure := none })

end Visitor

end StyleInline
