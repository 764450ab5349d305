import StyleInline.Event
import StyleInline.FileSystem
import StyleInline.Text.Shown

/-!
# External dependencies

Files that are not imported, but whose change makes a compiled module stale.  They are given
by patterns and registered with a tracker, each with a key whose value is compared later.
-/

namespace StyleInline

/-- A key: its value is the modification time of a file. -/
structure InvalidationKey where
  path : Path
  deriving DecidableEq, Repr, Inhabited

/-- The value of a key; none if the file cannot be asked. -/
def InvalidationKey.value (key : InvalidationKey) (files : FileSystem) : Option Time :=
  (files.modified key.path).toOption

structure Tracker (τ : Type) where
  add : Path → τ → τ × List Event
  /-- A key that makes the module stale when its value changes. -/
  invalidateOn : InvalidationKey → FileSystem → τ → τ × List Event

/-- A tracker that reports registrations and forgets them. -/
def Tracker.tracing {τ : Type} : Tracker τ where
  add path state := (state, [.externalDependency path])
  invalidateOn _ _ state := (state, [.invalidationKey])

/-- The registrations that a tracker remembers: the paths, and each key with the value it had. -/
structure Registrations where
  paths : List Path := []
  keys : List (InvalidationKey × Option Time) := []
  deriving DecidableEq, Repr, Inhabited

namespace Registrations

def isInvalidated (registrations : Registrations) (files : FileSystem) : Bool :=
  registrations.keys.any fun (key, snapshot) => key.value files != snapshot

def shown (registrations : Registrations) : String :=
  "RecordingDependencyTracker \x7b paths: [" ++
    ", ".intercalate (registrations.paths.map fun path => Text.shown path.text) ++
    "], keys: " ++ toString registrations.keys.length ++ " \x7d"

def tracker : Tracker Registrations where
  add path registrations := ({ registrations with paths := registrations.paths ++ [path] }, [])
  invalidateOn key files registrations :=
    ({ registrations with keys := registrations.keys ++ [(key, key.value files)] }, [])

end Registrations

namespace Dependency

structure Expansion where
  matched : List Path := []
  /-- The paths that patterns with a `!` match. -/
  excluded : List Path := []
  events : List Event := []
  deriving DecidableEq, Repr, Inhabited

/-- The pattern behind a leading `!`. -/
def negated? (pattern : String) : Option String :=
  match pattern.toList with
  | '!' :: rest => some (String.ofList rest)
  | _ => none

def expand (files : FileSystem) (pattern : String) : Except InlineError (List Path) :=
  (files.glob pattern).mapError fun source => .glob pattern source

/-- Adds paths that are not there yet, in whatever spelling. -/
def addMissing (known added : List Path) : List Path :=
  added.foldl (fun known path => if known.any path.same then known else known ++ [path]) known

/-- What came of a list of patterns; on a failure the events tell what happened before it. -/
structure Expanded where
  failure : Option InlineError
  expansion : Expansion

/-- Expands patterns in their order, up to the first one that fails. -/
def expandAll (files : FileSystem) : List String → Expansion → Expanded
  | [], expansion => ⟨none, expansion⟩
  | pattern :: rest, expansion =>
    match negated? pattern with
    | some pattern =>
      match expand files pattern with
      | .error error => ⟨some error, expansion⟩
      | .ok paths =>
        expandAll files rest { expansion with excluded := expansion.excluded ++ paths }
    | none =>
      match expand files pattern with
      | .error error => ⟨some error, expansion⟩
      | .ok paths =>
        let events := if paths.isEmpty then [Event.patternMatchedNothing pattern] else []
        expandAll files rest
          { expansion with
            matched := addMissing expansion.matched paths
            events := expansion.events ++ events }

structure Registered (τ : Type) where
  paths : Except InlineError (List Path)
  state : τ
  events : List Event

def registerPath {τ : Type} (tracker : Tracker τ) (files : FileSystem) (path : Path) (state : τ) :
    τ × List Event :=
  let (state, added) := tracker.add path state
  let (state, keyed) := tracker.invalidateOn ⟨path⟩ files state
  (state, added ++ keyed ++ [.registeredDependency path])

/-- Registers paths in their order, but for the excluded ones. -/
def registerPaths {τ : Type} (tracker : Tracker τ) (files : FileSystem) (excluded : List Path) :
    List Path → τ → List Path × τ × List Event
  | [], state => ([], state, [])
  | path :: rest, state =>
    if excluded.any path.same then
      let (paths, state, events) := registerPaths tracker files excluded rest state
      (paths, state, .excludedDependency path :: events)
    else
      let (state, reported) := registerPath tracker files path state
      let (paths, state, events) := registerPaths tracker files excluded rest state
      (path :: paths, state, reported ++ events)

/-- Registers the files that patterns match; if one pattern fails, nothing is registered. -/
def register {τ : Type} (tracker : Tracker τ) (files : FileSystem) (patterns : List String)
    (state : τ) : Registered τ :=
  let expanded := expandAll files patterns {}
  let expansion := expanded.expansion
  match expanded.failure with
  | some error => ⟨.error error, state, expansion.events⟩
  | none =>
    let (paths, state, events) :=
      registerPaths tracker files expansion.excluded expansion.matched state
    ⟨.ok paths, state, expansion.events ++ events⟩

end Dependency

end StyleInline
