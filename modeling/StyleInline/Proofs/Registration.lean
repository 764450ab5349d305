import StyleInline.Compile
import StyleInline.FileSystem.Memory

/-!
# Registration of external dependencies

Patterns are expanded before anything is registered, so that the first pattern that cannot be
expanded leaves the tracker, the module and the stylesheets alone.  Once all of them are expanded,
the tracker gets what they stand for, whatever becomes of the module.
-/

namespace StyleInline

open Script

namespace Dependency

def bare (pattern : String) : String := (negated? pattern).getD pattern

/-- A pattern can be expanded. -/
def Expands (files : FileSystem) (pattern : String) : Prop :=
  ∃ paths, files.glob (bare pattern) = .ok paths

/-- A pattern is the first one of a list that cannot be expanded. -/
def FailsFirst (files : FileSystem) (patterns : List String) (pattern : String)
    (source : FileError) : Prop :=
  ∃ before after, patterns = before ++ pattern :: after ∧
    (∀ earlier ∈ before, Expands files earlier) ∧ files.glob (bare pattern) = .error source

/-- An expansion that has only told of patterns without a match. -/
def Expansion.IsQuiet (expansion : Expansion) : Prop :=
  ∀ event ∈ expansion.events, ∃ pattern, event = .patternMatchedNothing pattern

def Expansion.grow (expansion : Expansion) (pattern : String) (paths : List Path) : Expansion :=
  match negated? pattern with
  | some _ => { expansion with excluded := expansion.excluded ++ paths }
  | none =>
    { expansion with
      matched := addMissing expansion.matched paths
      events := expansion.events ++
        if paths.isEmpty then [.patternMatchedNothing pattern] else [] }

section Expanding

variable {files : FileSystem}

theorem not_expands_iff {pattern : String} :
    ¬ Expands files pattern ↔ ∃ source, files.glob (bare pattern) = .error source := by
  rw [Expands]
  cases files.glob (bare pattern) with
  | error source => simp
  | ok paths => simp

/-- Of patterns that cannot all be expanded, one is the first. -/
theorem exists_failsFirst (patterns : List String)
    (broken : ∃ pattern ∈ patterns, ¬ Expands files pattern) :
    ∃ pattern source, FailsFirst files patterns pattern source := by
  induction patterns with
  | nil =>
      obtain ⟨_, impossible, _⟩ := broken
      cases impossible
  | cons first rest ih =>
      by_cases expands : Expands files first
      · obtain ⟨pattern, member, broken⟩ := broken
        have later : pattern ∈ rest := by
          rcases List.mem_cons.mp member with rfl | later
          · exact absurd expands broken
          · exact later
        obtain ⟨pattern, source, before, after, rfl, earlier, failed⟩ :=
          ih ⟨pattern, later, broken⟩
        exact ⟨pattern, source, first :: before, after, rfl,
          List.forall_mem_cons.mpr ⟨expands, earlier⟩, failed⟩
      · obtain ⟨source, failed⟩ := not_expands_iff.mp expands
        exact ⟨first, source, [], rest, rfl, List.forall_mem_nil _, failed⟩

theorem expand_ok {pattern : String} {paths : List Path}
    (expanded : files.glob pattern = .ok paths) : expand files pattern = .ok paths := by
  rw [expand, expanded]
  rfl

theorem expand_error {pattern : String} {source : FileError}
    (failed : files.glob pattern = .error source) :
    expand files pattern = .error (.glob pattern source) := by
  rw [expand, failed]
  rfl

theorem expandAll_cons_ok {pattern : String} {paths : List Path}
    (expanded : files.glob (bare pattern) = .ok paths) (rest : List String)
    (expansion : Expansion) :
    expandAll files (pattern :: rest) expansion =
      expandAll files rest (expansion.grow pattern paths) := by
  cases negated : negated? pattern with
  | none =>
      rw [bare, negated, Option.getD_none] at expanded
      simp only [expandAll, Expansion.grow, negated, expand_ok expanded]
  | some positive =>
      rw [bare, negated, Option.getD_some] at expanded
      simp only [expandAll, Expansion.grow, negated, expand_ok expanded]

theorem expandAll_cons_error {pattern : String} {source : FileError}
    (failed : files.glob (bare pattern) = .error source) (rest : List String)
    (expansion : Expansion) :
    expandAll files (pattern :: rest) expansion = ⟨some (.glob (bare pattern) source), expansion⟩ := by
  cases negated : negated? pattern with
  | none =>
      rw [bare, negated, Option.getD_none] at failed
      simp only [expandAll, bare, negated, expand_error failed, Option.getD_none]
  | some positive =>
      rw [bare, negated, Option.getD_some] at failed
      simp only [expandAll, bare, negated, expand_error failed, Option.getD_some]

theorem Expansion.IsQuiet.grow {expansion : Expansion} (quiet : expansion.IsQuiet)
    (pattern : String) (paths : List Path) : (expansion.grow pattern paths).IsQuiet := by
  intro event member
  rw [Expansion.grow] at member
  split at member
  next => exact quiet event member
  next =>
    rcases List.mem_append.mp member with known | new
    · exact quiet event known
    · split at new
      · exact ⟨pattern, List.mem_singleton.mp new⟩
      · cases new

/-- Patterns that can be expanded are left behind. -/
theorem expandAll_append {before : List String}
    (expands : ∀ earlier ∈ before, Expands files earlier) (rest : List String)
    (expansion : Expansion) (quiet : expansion.IsQuiet) :
    ∃ reached : Expansion, reached.IsQuiet ∧
      expandAll files (before ++ rest) expansion = expandAll files rest reached := by
  induction before generalizing expansion with
  | nil => exact ⟨expansion, quiet, rfl⟩
  | cons first before ih =>
      obtain ⟨⟨paths, expanded⟩, later⟩ := List.forall_mem_cons.mp expands
      obtain ⟨reached, still, same⟩ := ih later _ (quiet.grow first paths)
      exact ⟨reached, still, (expandAll_cons_ok expanded _ _).trans same⟩

/-- The first pattern that cannot be expanded ends the expansion. -/
theorem expandAll_failsFirst {patterns : List String} {pattern : String} {source : FileError}
    (first : FailsFirst files patterns pattern source) :
    ∃ reached : Expansion, reached.IsQuiet ∧
      expandAll files patterns {} = ⟨some (.glob (bare pattern) source), reached⟩ := by
  obtain ⟨before, after, rfl, expands, failed⟩ := first
  obtain ⟨reached, quiet, same⟩ :=
    expandAll_append expands (pattern :: after) {} (List.forall_mem_nil _)
  exact ⟨reached, quiet, same.trans (expandAll_cons_error failed after reached)⟩

theorem expandAll_expands {patterns : List String}
    (expands : ∀ pattern ∈ patterns, Expands files pattern) :
    (expandAll files patterns {}).failure = none := by
  obtain ⟨reached, _, same⟩ := expandAll_append expands [] {} (List.forall_mem_nil _)
  rw [← List.append_nil patterns, same]
  rfl

end Expanding

section Tracking

variable {τ : Type} (tracker : Tracker τ) {files : FileSystem}

/-- A tracker gets what is not excluded, in order, each path with a key for it. -/
theorem registerPaths_state (excluded paths : List Path) (state : τ) :
    (registerPaths tracker files excluded paths state).2.1 =
      (registerPaths tracker files excluded paths state).1.foldl
        (fun state path => (registerPath tracker files path state).1) state := by
  induction paths generalizing state with
  | nil => rfl
  | cons path rest ih =>
      rw [registerPaths]
      split
      · exact ih state
      · exact ih (registerPath tracker files path state).1

theorem register_failsFirst {patterns : List String} {pattern : String} {source : FileError}
    (first : FailsFirst files patterns pattern source) (state : τ) :
    ∃ events, (∀ event ∈ events, ∃ pattern, event = .patternMatchedNothing pattern) ∧
      register tracker files patterns state =
        ⟨.error (.glob (bare pattern) source), state, events⟩ := by
  obtain ⟨reached, quiet, same⟩ := expandAll_failsFirst first
  refine ⟨reached.events, quiet, ?_⟩
  rw [register, same]

theorem register_expands {patterns : List String}
    (expands : ∀ pattern ∈ patterns, Expands files pattern) (state : τ) :
    ∃ paths, (register tracker files patterns state).paths = .ok paths ∧
      (register tracker files patterns state).state =
        paths.foldl (fun state path => (registerPath tracker files path state).1) state := by
  have complete := expandAll_expands expands
  simp only [register, complete]
  exact ⟨_, rfl, registerPaths_state _ _ _ state⟩

/-- A registration fails for a pattern that cannot be expanded, and for nothing else. -/
theorem exists_glob_of_register {patterns : List String} {state : τ} {error : InlineError}
    (failed : (register tracker files patterns state).paths = .error error) :
    ∃ pattern source, error = .glob pattern source := by
  by_cases expands : ∀ pattern ∈ patterns, Expands files pattern
  · obtain ⟨paths, complete, _⟩ := register_expands tracker expands state
    rw [complete] at failed
    cases failed
  · obtain ⟨pattern, source, first⟩ :=
      exists_failsFirst patterns (by simpa only [Classical.not_forall, exists_prop] using expands)
    obtain ⟨events, _, same⟩ := register_failsFirst tracker first state
    rw [same] at failed
    cases failed
    exact ⟨bare pattern, source, rfl⟩

end Tracking

end Dependency

open Dependency (FailsFirst Expands bare)

/-- External dependencies are registered all or not at all, and before the module is rewritten: the
first pattern that cannot be expanded ends the compilation before anything has been registered or
fetched, and patterns that can all be expanded are registered whatever comes of the module. -/
theorem compile_registration {τ : Type} (config : Config) (files : FileSystem)
    (tracker : Tracker τ) (registrations : τ) :
    let patterns := config.externalDependencies
    let registered := Dependency.register tracker files patterns registrations
    ((∃ pattern ∈ patterns, ¬ Expands files pattern) →
      ∃ pattern source, FailsFirst files patterns pattern source) ∧
    (∀ pattern source, FailsFirst files patterns pattern source →
      registered.paths = .error (.glob (bare pattern) source) ∧
      registered.state = registrations ∧
      (∀ event ∈ registered.events, ∃ other, event = .patternMatchedNothing other) ∧
      ∀ (σ : Type) (filename : Path) (fetch : Fetch σ) (module : Module) (world : σ),
        compile config filename files tracker fetch module registrations world =
          ⟨module, some (.glob (bare pattern) source), registrations, world,
            registered.events⟩) ∧
    ((∀ pattern ∈ patterns, Expands files pattern) →
      ∃ paths, registered.paths = .ok paths ∧
        registered.state = paths.foldl
          (fun state path => (Dependency.registerPath tracker files path state).1)
          registrations ∧
        ∀ (σ : Type) (filename : Path) (fetch : Fetch σ) (module : Module) (world : σ),
          let compiled :=
            compile config filename files tracker fetch module registrations world
          compiled.registrations = registered.state ∧
            ∃ later, compiled.events = registered.events ++ later) := by
  intro patterns registered
  refine ⟨Dependency.exists_failsFirst patterns, fun pattern source first => ?_,
    fun expands => ?_⟩
  · obtain ⟨events, quiet, same⟩ :=
      Dependency.register_failsFirst tracker first registrations
    simp only [registered, patterns, same]
    refine ⟨trivial, trivial, quiet, fun σ filename fetch module world => ?_⟩
    simp only [compile, patterns, same]
  · obtain ⟨paths, complete, gained⟩ :=
      Dependency.register_expands tracker expands registrations
    refine ⟨paths, complete, gained, fun σ filename fetch module world => ?_⟩
    simp only [compile, patterns, complete]
    exact ⟨rfl, _, rfl⟩

/-- A negated pattern that cannot be expanded, behind one that matches. -/
theorem compile_registration_negated :
    let error : FileError := ⟨.invalidInput, "range"⟩
    let files : FileSystem :=
      { Memory.fileSystem {} with
        glob := fun pattern =>
          if pattern = "[" then .error error else .ok [⟨"/theme/a.css"⟩] }
    let config : Config := { externalDependencies := ["theme/*.css", "![", "*.css"] }
    let module : Module := ⟨none, []⟩
    let fetch : Fetch (List Path) := fun path _ asked => (⟨.ok "", []⟩, path :: asked)
    compile config ⟨"/index.js"⟩ files Registrations.tracker fetch module {} [] =
      ⟨module, some (.glob "[" error), {}, [], []⟩ := by
  intro error files config module fetch
  have first : FailsFirst files config.externalDependencies "![" error := by
    refine ⟨["theme/*.css"], ["*.css"], rfl, ?_, rfl⟩
    intro earlier member
    obtain rfl := List.mem_singleton.mp member
    exact ⟨_, rfl⟩
  obtain ⟨_, fails, _⟩ := compile_registration config files Registrations.tracker {}
  obtain ⟨_, _, _, same⟩ := fails "![" error first
  exact same _ ⟨"/index.js"⟩ fetch module []

end StyleInline
