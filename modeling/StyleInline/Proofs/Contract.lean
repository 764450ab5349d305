import StyleInline.Proofs.Registration
import StyleInline.Proofs.Visit

/-!
# Violations of the order of items

A class may ask in its styles for stylesheets that are imported before it.  Compiling a module
fails for the order of its items exactly when the first sight that ends the rewriting is a class
that asks too early, and no import whose attributes hold the class is refused afterwards.
-/

namespace StyleInline

open Script Rewrite

/-- A failure that the order of items is not to blame for is none of its violations. -/
theorem InlineError.ne_of_blameless {failure : Option InlineError} {error : InlineError}
    (failed : failure = some error) (blameless : error.isContractViolation = false) :
    (∀ className, failure ≠ some (.missingTagImport className)) ∧
      ∀ className localName, failure ≠ some (.stylesBeforeImport className localName) := by
  subst failed
  constructor
  · rintro className same
    cases same
    cases blameless
  · rintro className localName same
    cases same
    cases blameless

/-- Patterns of dependencies fail for themselves alone. -/
theorem Dependency.register_error {τ : Type} {tracker : Tracker τ} {files : FileSystem}
    {patterns : List String} {state : τ} {error : InlineError}
    (failed : (register tracker files patterns state).paths = .error error) :
    error.isContractViolation = false := by
  obtain ⟨pattern, source, rfl⟩ := exists_glob_of_register tracker failed
  rfl

namespace Forecast

/-- Every import of a stylesheet stands among items and binds one name. -/
def IsPlain (forecast : Forecast) (seen : List Sight) : Prop :=
  ∀ sight ∈ seen, ∀ id, sight.ImportsStyle forecast.plan.query id →
    ∃ path, forecast.sheetAt? sight = some (id, path)

theorem isEarly_passedIn (forecast : Forecast) (before : List Sight) (id : Ident) :
    forecast.isEarly (forecast.passedIn before) id = true ↔
      id ∈ forecast.scan.styleImports ∧
        ∀ sight ∈ before, ∀ path, forecast.sheetAt? sight ≠ some (id, path) := by
  rw [isEarly, Bool.and_eq_true, List.contains_iff_mem, Option.isNone_iff_eq_none,
    List.lookup_eq_none_iff]
  refine and_congr_right fun _ => ?_
  constructor
  · intro missing sight member path found
    simpa using missing (id, path) (mem_passedIn.mpr ⟨sight, member, found⟩)
  · rintro missing ⟨other, path⟩ member
    rw [bne_iff_ne]
    rintro rfl
    obtain ⟨sight, inside, found⟩ := mem_passedIn.mp member
    exact missing sight inside path found

/-- What is asked for too early is imported later. -/
theorem isEarly_iff {plan : Plan} {module : Module} {answer : Path → Except InlineError String}
    {before after : List Sight}
    (plain : (ofModule plan module answer).IsPlain (before ++ after))
    (seen : (ofModule plan module answer).seenIn module = before ++ after) (id : Ident) :
    (ofModule plan module answer).isEarly ((ofModule plan module answer).passedIn before) id =
        true ↔
      (∃ sight ∈ after, ∃ path,
          (ofModule plan module answer).sheetAt? sight = some (id, path)) ∧
        ∀ sight ∈ before, ∀ path,
          (ofModule plan module answer).sheetAt? sight ≠ some (id, path) := by
  rw [isEarly_passedIn]
  refine and_congr_left fun missing => ?_
  have records := (Scan.records_ofModule plan.query module).imports id
  change _ ↔ _ ∨ ∃ sight ∈ (ofModule plan module answer).seenIn module, _ at records
  rw [seen] at records
  constructor
  · intro member
    rcases records.mp member with impossible | ⟨sight, inside, imports⟩
    · cases impossible
    · obtain ⟨path, found⟩ := plain sight inside id imports
      rcases List.mem_append.mp inside with earlier | later
      · exact absurd found (missing sight earlier path)
      · exact ⟨sight, later, path, found⟩
  · rintro ⟨sight, later, path, found⟩
    refine records.mpr (.inr ⟨sight, List.mem_append_right _ later, ?_⟩)
    cases sight with
    | imported spot declaration isItem =>
        cases isItem with
        | false => cases found
        | true => exact Plan.of_sheet? found
    | _ => cases found

/-- The rewriting is ended by a class if it is the first to end it. -/
theorem judgeAll_eq_unmet_iff (forecast : Forecast) (seen : List Sight) (className : String)
    (id : Ident) (hosts : List Import) :
    forecast.judgeAll seen [] = .unmet className id hosts ↔
      forecast.plan.config.tag.isSome = true ∧
        ∃ before spot head members after,
          seen = before ++ .styled spot head members :: after ∧ forecast.Passes before [] ∧
          (forecast.uses members).find? (forecast.isEarly (forecast.passedIn before)) = some id ∧
          hosts = spot.hosts ∧ className = classNameOf head := by
  rw [forecast.judgeAll_eq_iff seen [] (by intro _ same; cases same)]
  constructor
  · rintro ⟨before, sight, after, same, passes, judged⟩
    rw [List.append_nil] at judged
    cases sight with
    | name spot role other => cases judged
    | exported spot other => cases judged
    | imported spot declaration isItem =>
        cases isItem with
        | false => cases judged
        | true =>
            rw [judge] at judged
            split at judged <;> cases judged
    | styled spot head members =>
        rw [judge] at judged
        split at judged
        next => cases judged
        next tagged =>
          split at judged
          next found =>
            cases judged
            refine ⟨?_, before, spot, head, members, after, same, passes, found, rfl, rfl⟩
            exact Option.isSome_iff_ne_none.mpr fun none => tagged (by rw [none]; rfl)
          next => cases judged
  · rintro ⟨tagged, before, spot, head, members, after, same, passes, found, rfl, rfl⟩
    refine ⟨before, .styled spot head members, after, same, passes, ?_⟩
    rw [List.append_nil, judge, found, if_neg]
    intro untagged
    rw [Option.isNone_iff_eq_none] at untagged
    rw [untagged] at tagged
    cases tagged

/-- A class asks too early, and the imports around it are not refused afterwards. -/
theorem exists_unmet_iff (forecast : Forecast) (seen : List Sight) (className localName : String) :
    (∃ id hosts, forecast.judgeAll seen [] = .unmet className id hosts ∧
        hosts.any forecast.refuses = false ∧ localName = id.name) ↔
      forecast.plan.config.tag.isSome = true ∧
        ∃ before spot head members after id,
          seen = before ++ .styled spot head members :: after ∧ forecast.Passes before [] ∧
          (forecast.uses members).find? (forecast.isEarly (forecast.passedIn before)) = some id ∧
          (∀ host ∈ spot.hosts, forecast.refuses host = false) ∧
          className = classNameOf head ∧ localName = id.name := by
  simp only [forecast.judgeAll_eq_unmet_iff, List.any_eq_false, Bool.not_eq_true]
  constructor
  · rintro ⟨id, hosts, ⟨tagged, before, spot, head, members, after, same, passes, found, rfl,
      called⟩, unhosted, named⟩
    exact ⟨tagged, before, spot, head, members, after, id, same, passes, found, unhosted, called,
      named⟩
  · rintro ⟨tagged, before, spot, head, members, after, id, same, passes, found, unhosted, called,
      named⟩
    exact ⟨id, spot.hosts, ⟨tagged, before, spot, head, members, after, same, passes, found, rfl,
      called⟩, unhosted, named⟩

/-- What ends in a verdict blames the order of items only for a class that asks too early. -/
theorem Tells.violation {forecast : Forecast} {announced result : List Node}
    {failure : Option InlineError} {verdict : Verdict}
    (tells : forecast.Tells announced result failure verdict) :
    (∀ className, failure ≠ some (.missingTagImport className)) ∧
      ∀ className localName, failure = some (.stylesBeforeImport className localName) ↔
        ∃ id hosts, verdict = .unmet className id hosts ∧ hosts.any forecast.refuses = false ∧
          localName = id.name := by
  cases verdict with
  | clear passed =>
      rw [tells.1]
      simp
  | refused =>
      obtain ⟨error, failed, blameless⟩ := tells
      obtain ⟨unlacking, unordered⟩ := InlineError.ne_of_blameless failed blameless
      exact ⟨unlacking, by simpa using unordered⟩
  | unmet name id hosts =>
      rw [Tells] at tells
      split at tells
      next hosted =>
        obtain ⟨error, failed, blameless⟩ := tells
        obtain ⟨unlacking, unordered⟩ := InlineError.ne_of_blameless failed blameless
        refine ⟨unlacking, fun className localName => ⟨fun same => ?_, ?_⟩⟩
        · exact absurd same (unordered className localName)
        · rintro ⟨other, others, same, unhosted, _⟩
          cases same
          cases hosted.symm.trans unhosted
      next unhosted =>
        rw [tells]
        refine ⟨fun className same => (by cases same), fun className localName => ?_⟩
        constructor
        · intro same
          cases same
          exact ⟨id, hosts, rfl, by simpa using unhosted, rfl⟩
        · rintro ⟨other, others, same, _, rfl⟩
          cases same
          rfl

end Forecast

/-- Compiling a module never lacks the import of the tag, and it blames the order of items exactly
when the first sight that ends the rewriting is a class whose styles ask too early, and the imports
around that class are not refused. -/
theorem compile_contractViolation {τ : Type} (config : Config) (filename : Path)
    (files : FileSystem) (tracker : Tracker τ) (systems : Systems) (module : Module)
    (registrations : τ) (world : Fetcher.World) :
    let compiled :=
      compile config filename files tracker (Fetcher.fetch systems) module registrations world
    let forecast :=
      Forecast.ofModule (Visitor.ofConfig config filename files).plan module
        ((Fetcher.fetch systems).answers filename world)
    (∀ className, compiled.failure ≠ some (.missingTagImport className)) ∧
    (∀ className localName,
      compiled.failure = some (.stylesBeforeImport className localName) ↔
        (∃ paths,
          (Dependency.register tracker files config.externalDependencies registrations).paths =
            .ok paths) ∧
        config.tag.isSome = true ∧
        ∃ before spot head members after id,
          forecast.seenIn module = before ++ .styled spot head members :: after ∧
          forecast.Passes before [] ∧
          (forecast.uses members).find? (forecast.isEarly (forecast.passedIn before)) = some id ∧
          (∀ host ∈ spot.hosts, forecast.refuses host = false) ∧
          className = classNameOf head ∧ localName = id.name) ∧
    (forecast.IsPlain (forecast.seenIn module) →
      ∀ before after, forecast.seenIn module = before ++ after →
        ∀ id, forecast.isEarly (forecast.passedIn before) id = true ↔
          (∃ sight ∈ after, ∃ path, forecast.sheetAt? sight = some (id, path)) ∧
            ∀ sight ∈ before, ∀ path, forecast.sheetAt? sight ≠ some (id, path)) := by
  intro compiled forecast
  refine and_assoc.mp ⟨?_, fun plain before after seen => Forecast.isEarly_iff (seen ▸ plain) seen⟩
  cases registered :
      (Dependency.register tracker files config.externalDependencies registrations).paths with
  | error error =>
      have failed : compiled.failure = some error := by
        simp only [compiled, compile, registered]
      obtain ⟨unlacking, unordered⟩ :=
        InlineError.ne_of_blameless failed (Dependency.register_error registered)
      refine ⟨unlacking, fun className localName => ⟨fun same => ?_, ?_⟩⟩
      · exact absurd same (unordered className localName)
      · rintro ⟨⟨_, impossible⟩, _⟩
        cases impossible
  | ok paths =>
      have failure : compiled.failure = ((Visitor.ofConfig config filename files).visit
          (Fetcher.fetch systems) module world).visitor.failure := by
        simp only [compiled, compile, registered]
      have ends := (Visitor.ofConfig config filename files).ends_visit
        (Fetcher.fetch_isSteady systems filename) (Fetcher.fetch_isProper systems filename) rfl
        module world forecast rfl
      rw [← failure] at ends
      obtain ⟨unlacking, ordered⟩ := ends.violation
      refine ⟨unlacking, fun className localName => (ordered className localName).trans ?_⟩
      rw [forecast.exists_unmet_iff]
      exact (and_iff_right ⟨paths, rfl⟩).symm

/-- A class reads the stylesheet of a later import.  Its module is plain, so the class asks too early
for what is imported behind it, and compiling fails for that. -/
theorem compile_contractViolation_later :
    let id : Ident := ⟨"b", .declared 0⟩
    let base : Ident := { name := "LitElement" }
    let files := Memory.fileSystem { entries := [(⟨"/b.css"⟩, .file ".b {}" 0)] }
    let field : Node :=
      .member { kind := .field, isStatic := true, before := [], after := [], mark := "" }
        (.form (.key "styles") []) [] (.ident .use id) [.absent, .form .decorators []]
    let styled : Node :=
      .classNode ⟨true, false, false, some ⟨"A", .declared 0⟩⟩ [] [field] (.ident .use base)
        [.absent, .absent, .typing (.group [])]
    let declaration : Import := ⟨.evaluation, false, [.default id], ⟨"./b.css", none⟩, false⟩
    let module : Module := ⟨none, [styled, .importDecl declaration .absent]⟩
    let config : Config := { tag := some ⟨"css", "lit"⟩ }
    let world : Fetcher.World := (⟨0, .disabled, none⟩, {})
    let forecast :=
      Forecast.ofModule (Visitor.ofConfig config ⟨"/index.js"⟩ files).plan module
        ((Fetcher.fetch fun _ => files).answers ⟨"/index.js"⟩ world)
    forecast.IsPlain (forecast.seenIn module) ∧
      (compile config ⟨"/index.js"⟩ files (@Tracker.tracing Unit)
        (Fetcher.fetch fun _ => files) module () world).failure =
          some (.stylesBeforeImport "A" "b") := by
  intro id base files field styled declaration module config world forecast
  let names : List Sight := [.name (({} : Spot).within .filled) .use id, .name {} .use base]
  let asking : List Sight :=
    [.styled {} ⟨true, false, false, some ⟨"A", .declared 0⟩⟩ [field],
      .imported {} declaration true]
  have seen : forecast.seenIn module = names ++ asking := rfl
  have found : forecast.plan.sheet? declaration = some (id, ⟨"/b.css"⟩) := by decide +kernel
  have plain : forecast.IsPlain (forecast.seenIn module) := by
    rw [seen]
    intro sight member other imports
    simp only [names, asking, List.mem_append, List.mem_cons, List.not_mem_nil, or_false] at member
    rcases member with (rfl | rfl) | rfl | rfl
    · exact imports.elim
    · exact imports.elim
    · exact imports.elim
    · obtain rfl : other = id := by simpa [Scan.defaultBindings, declaration] using imports.2.2
      exact ⟨_, found⟩
  have passes : forecast.Passes names [] := by
    refine Forecast.passes_cons.mpr ⟨not_false, Forecast.passes_cons.mpr ⟨not_false, ?_⟩⟩
    intro before sight after split
    cases before <;> cases split
  obtain ⟨-, blamed, early⟩ := compile_contractViolation config ⟨"/index.js"⟩ files
    (@Tracker.tracing Unit) (fun _ => files) module () world
  have asked : forecast.isEarly (forecast.passedIn names) id = true := by
    refine (early plain names asking seen id).mpr ⟨?_, ?_⟩
    · exact ⟨.imported {} declaration true, by simp [asking], ⟨"/b.css"⟩, found⟩
    · simp [names, Forecast.sheetAt?]
  have first : (forecast.uses [field]).find? (forecast.isEarly (forecast.passedIn names)) =
      some id := by
    rw [show forecast.uses [field] = [id] from rfl, List.find?_cons_of_pos asked]
  exact ⟨plain, (blamed "A" "b").mpr ⟨⟨_, rfl⟩, rfl, names, {}, _, [field], _, id, seen, passes,
    first, List.forall_mem_nil _, rfl, rfl⟩⟩

end StyleInline
