import StyleInline.Proofs.Hygiene
import StyleInline.Proofs.RemainingImports
import StyleInline.Proofs.UnchangedNodes

/-!
# Compiling twice

A compiled module holds no stylesheet to make room for, and where styles are filled in it reads
none.  A rewriting of such a module changes nothing.
-/

namespace StyleInline

open Script Rewrite

variable {σ : Type}

/-- The styles among some members ask for none of these stylesheets. -/
def AsksForNone (base : String) (imports : List Ident) (members : List Node) : Prop :=
  ∀ id ∈ readsOf (sightsOfAll base {} false (stylesCores members)), id ∉ imports

/-- At the start of a module, members that ask for none of its stylesheets stay as they are. -/
theorem Rewrite.still_fillStyles (base : String) {run : Run σ} (active : run.failure = none)
    (unnamed : run.progress.tag = none) (unbound : run.progress.bindings = []) {members : List Node}
    (unasked : AsksForNone base run.progress.scan.styleImports members) :
    Still members run (fillStyles members run) := by
  cases called : run.progress.className with
  | none => exact ⟨run.events, fillStyles_uncalled members called⟩
  | some className =>
      let setting : Substitution.Setting := ⟨run.progress, className⟩
      obtain ⟨events, same⟩ := fillStyles_eq members active called
      have faultless : (readsOf (sightsOfAll base {} false (stylesCores members))).findSome?
          (Substitution.fault setting) = none := by
        refine List.findSome?_eq_none_iff.mpr fun id member => ?_
        have bare : setting.progress.binding? id = none := by
          rw [Progress.binding?, unbound]
          rfl
        have unlisted : setting.progress.scan.styleImports.contains id = false := by
          simpa using unasked id member
        simp only [Substitution.fault, Substitution.outcome, bare, unlisted, Bool.false_eq_true,
          ↓reduceIte]
      have failure := Substitution.substituteMembers_failure setting base members {}
      rw [faultless, Option.or_none] at failure
      have fills : (Substitution.rules setting base false).Fills members
          (Substitution.substituteMembers setting members {}).1 :=
        Substitution.fills_substituteMembers members {}
          fun impossible => absurd impossible Bool.false_ne_true
      have unchanged := unchanged_of_fills unnamed fills
      refine ⟨events, ?_⟩
      rw [same, active]
      simp only [setting] at unchanged failure
      simp only [unchanged, failure]

/-- Whether registration succeeds does not depend on what was registered before. -/
theorem Dependency.register_again {τ : Type} {tracker : Tracker τ} {files : FileSystem}
    {patterns : List String} {state : τ} {paths : List Path}
    (registered : (register tracker files patterns state).paths = .ok paths) (other : τ) :
    ∃ paths', (register tracker files patterns other).paths = .ok paths' := by
  simp only [register] at registered ⊢
  cases failed : (expandAll files patterns {}).failure with
  | none => exact ⟨_, rfl⟩
  | some error =>
      simp only [failed] at registered
      cases registered

/-- A specifier that names something is no fault. -/
theorem Plan.fault?_of_named (plan : Plan) {declaration : Import}
    (named : namesNothing declaration.source.value = false) :
    plan.fault? declaration = none := by
  have resolved : plan.stylesheet? declaration.source.value =
      .ok (if plan.config.test.accepts
          ((directoryOf plan.filename plan.cwd).join ⟨declaration.source.value⟩).normalize then
        some ((directoryOf plan.filename plan.cwd).join ⟨declaration.source.value⟩).normalize
        else none) := by
    rw [stylesheet?, resolveImport, named]
    rfl
  rw [fault?, resolved]
  exact ite_self none

namespace Forecast

variable {forecast : Forecast}

/-- An import that a rewriting passes is not refused. -/
theorem Passes.fault? {seen : List Sight} {passed : List (Ident × Path)}
    (passes : forecast.Passes seen passed) {spot : Spot} {declaration : Import}
    (member : .imported spot declaration true ∈ seen) :
    forecast.plan.fault? declaration = none := by
  obtain ⟨before, after, same⟩ := List.append_of_mem member
  have accepted : forecast.refuses declaration ≠ true := passes before _ after same
  rw [refuses, Plan.refusal?] at accepted
  cases failed : forecast.plan.fault? declaration with
  | none => rfl
  | some error =>
      rw [failed] at accepted
      exact absurd rfl accepted

/-- An import of a stylesheet with a default binding makes room for it. -/
theorem isSheet_of_importsStyle {spot : Spot} {declaration : Import} {isItem : Bool} {id : Ident}
    (imports : (Sight.imported spot declaration isItem).ImportsStyle forecast.plan.query id) :
    forecast.isSheet declaration = true := by
  obtain ⟨valued, style, member⟩ := imports
  have named : forecast.plan.isStyle declaration.source.value = true := style
  rw [Plan.isStyle] at named
  cases found : forecast.plan.stylesheet? declaration.source.value with
  | error error =>
      rw [found] at named
      cases named
  | ok path? =>
      cases path? with
      | none =>
          rw [found] at named
          cases named
      | some path =>
          rw [isSheet, Plan.sheet?, valued, if_neg Bool.false_ne_true, found]
          cases bindings : Scan.defaultBindings declaration with
          | nil =>
              rw [bindings] at member
              cases member
          | cons first rest => rfl

/-- What is let stay where styles are filled in is no stylesheet, and neither is the tag. -/
theorem promises_rules (fresh : forecast.IsFresh) (sheets : List (Ident × Path))
    (tagged : forecast.plan.config.tag.isSome = true) :
    (forecast.rules sheets).Promises forecast.plan.config.baseClass
      (· ∉ forecast.scan.styleImports) where
  fills := by
    funext parent
    simp [rules, isMatching, tagged]
  kept _ stays := stays
  tags id name content read := by
    obtain ⟨⟨tag, _, rfl⟩, _⟩ := read
    exact (fresh tag).1
  items := by
    rintro declaration items ⟨binding, path, content, _, _, rfl⟩ spot
    rw [inlined]
    split
    · exact Rules.readsFilled_unread fun sight member => by
        cases List.mem_singleton.mp member
        rfl
    next tag _ =>
      split
      · exact Rules.readsFilled_unread fun _ impossible => absurd impossible List.not_mem_nil
      · rw [Rules.sightsOfItems_constant, ← List.singleton_append, Rules.readsFilled_append]
        exact ⟨Rules.readsFilled_name fun _ impossible => absurd impossible Bool.false_ne_true,
          Rules.readsFilled_name fun _ _ => (fresh tag).1⟩

end Forecast

/-- What a module is after it was compiled without a failure gives a rewriting nothing to do. -/
theorem quiet_of_compile {τ : Type} {config : Config} {filename : Path} {files : FileSystem}
    {tracker : Tracker τ} {systems : Systems} {module : Module} {registrations : τ}
    {world : Fetcher.World}
    (named : ∀ tag, config.tag = some tag → namesNothing tag.moduleName = false)
    (success : (compile config filename files tracker (Fetcher.fetch systems) module registrations
      world).failure = none) :
    let plan := (Visitor.ofConfig config filename files).plan
    let compiled :=
      compile config filename files tracker (Fetcher.fetch systems) module registrations world
    Quiet plan
      (AsksForNone plan.config.baseClass (Scan.ofModule plan.query compiled.module).styleImports)
      (sightsOfItems plan.config.baseClass {} compiled.module.items) := by
  intro plan compiled
  let forecast := Forecast.ofModule plan module ((Fetcher.fetch systems).answers filename world)
  obtain ⟨_, tells⟩ := tells_of_compile success forecast rfl
  have fresh : forecast.IsFresh := Forecast.isFresh_ofModule plan module _
  have remains (declaration : Import) (isItem : Bool) :=
    Forecast.imported_of_allowed tells.allowed declaration isItem
  constructor
  · intro spot declaration member
    obtain ⟨stays, left⟩ := (remains declaration true).mp ⟨spot, member⟩
    have unmade : plan.sheet? declaration = none := by
      have kept := stays rfl
      rwa [Forecast.isSheet, Option.isSome_eq_false_iff, Option.isNone_iff_eq_none] at kept
    refine ⟨?_, unmade⟩
    by_cases synthetic : ∃ tag, config.tag = some tag ∧
        declaration = Emit.tagDeclaration (forecast.tagIdent tag) tag
    · obtain ⟨tag, tagged, rfl⟩ := synthetic
      exact plan.fault?_of_named (named tag tagged)
    · have before : forecast.Remains (forecast.seenIn module) declaration true :=
        (forecast.remains_announced module fun tag tagged _ same =>
          synthetic ⟨tag, tagged, same⟩).mp ⟨stays, left⟩
      obtain ⟨_, spot', inside, _⟩ := before
      exact tells.passes.fault? inside
  · intro tagged spot head members member id asked imported
    have promised := (Forecast.promises_rules fresh _ tagged).among tells.allowed {} nofun
    obtain ⟨sight, core, read⟩ := List.mem_filterMap.mp asked
    have inside := members_of_styledItems _ _ _ member (sights_stylesCores _ spot core)
    refine promised _ inside ?_ id ?_ ?_
    · simp [Spot.within, Spot.join]
    · rw [Sight.read?_seenFrom]
      exact read
    have records := Scan.records_ofModule plan.query compiled.module
    rcases (records.imports id).mp imported with impossible | ⟨other, inside, imports⟩
    · cases impossible
    · cases other with
      | imported spot declaration isItem =>
          obtain ⟨stays, left⟩ := (remains declaration isItem).mp ⟨spot, inside⟩
          have sheet : forecast.isSheet declaration = true :=
            Forecast.isSheet_of_importsStyle imports
          cases isItem with
          | true => cases sheet.symm.trans (stays rfl)
          | false =>
              have before : forecast.Remains (forecast.seenIn module) declaration false :=
                (forecast.remains_announced module fun _ _ impossible =>
                  absurd impossible Bool.false_ne_true).mp ⟨stays, left⟩
              obtain ⟨_, spot', also, _⟩ := before
              exact ((Scan.records_ofModule plan.query module).imports id).mpr
                (.inr ⟨_, also, imports⟩)
      | name spot role other | exported spot other | styled spot head members => cases imports

/-- A module that was compiled without a failure is compiled again without a failure, and without
any change; no stylesheet is fetched for that. -/
theorem compile_idempotent {τ : Type} (config : Config) (filename : Path) (files : FileSystem)
    (tracker : Tracker τ) (systems : Systems) (module : Module) (registrations registrations' : τ)
    (world world' : Fetcher.World)
    (named : ∀ tag, config.tag = some tag → namesNothing tag.moduleName = false)
    (success : (compile config filename files tracker (Fetcher.fetch systems) module registrations
      world).failure = none) :
    let compiled :=
      compile config filename files tracker (Fetcher.fetch systems) module registrations world
    let again := compile config filename files tracker (Fetcher.fetch systems) compiled.module
      registrations' world'
    again.failure = none ∧ again.module = compiled.module ∧ again.world = world' := by
  intro compiled again
  have registered : ∃ paths,
      (Dependency.register tracker files config.externalDependencies registrations').paths =
        .ok paths := by
    cases first : (Dependency.register tracker files config.externalDependencies
        registrations).paths with
    | error error =>
        rw [compile, first] at success
        cases success
    | ok paths => exact Dependency.register_again first registrations'
  obtain ⟨paths, registered⟩ := registered
  let visitor := Visitor.ofConfig config filename files
  let start := visitor.start compiled.module world'
  have idle : start.Idle (AsksForNone visitor.plan.config.baseClass
      (Scan.ofModule visitor.plan.query compiled.module).styleImports) :=
    ⟨rfl, fun _ _ _ unasked =>
      still_fillStyles visitor.plan.config.baseClass rfl rfl rfl unasked⟩
  obtain ⟨events, same⟩ := @still_items _ visitor.plan (Fetcher.fetch systems) _ {}
    compiled.module.items start idle (quiet_of_compile named success)
  have visited : visitor.visit (Fetcher.fetch systems) compiled.module world' =
      ⟨compiled.module, visitor, events, world'⟩ := by
    rw [Visitor.visit_eq, same]
    rfl
  simp only [again, compile, registered]
  rw [visited]
  exact ⟨rfl, rfl, rfl⟩

/-- A stylesheet that is put into the styles of a class. -/
theorem compile_idempotent_class :
    let tag : Tag := ⟨"css", "lit"⟩
    let files := Memory.fileSystem { entries := [(⟨"/a.css"⟩, .file ".a {}" 0)] }
    let style : Node := .importDecl
      ⟨.evaluation, false, [.default ⟨"a", .declared 0⟩], ⟨"./a.css", none⟩, false⟩ .absent
    let styles : Node := .member ⟨.field, true, [], [], ""⟩ (.form (.key "styles") []) []
      (.ident .use ⟨"a", .declared 0⟩) []
    let element : Node := .classNode ⟨true, false, false, some ⟨"A", .declared 0⟩⟩ [] [styles]
      (.ident .use ⟨"LitElement", .free⟩) []
    let compiled := compile { tag := some tag } ⟨"/index.js"⟩ files (@Tracker.tracing Unit)
      (Fetcher.fetch fun _ => files) ⟨none, [style, element]⟩ () (⟨0, .disabled, none⟩, {})
    let again := compile { tag := some tag } ⟨"/index.js"⟩ files (@Tracker.tracing Unit)
      (Fetcher.fetch fun _ => files) compiled.module () (⟨0, .disabled, none⟩, {})
    compiled.failure = none ∧ again.failure = none ∧ again.module = compiled.module := by
  intro tag files style styles element compiled again
  have named : ∀ other, some tag = some other → namesNothing other.moduleName = false := by
    intro other same
    cases same
    decide +kernel
  have success : compiled.failure = none := by decide +kernel
  obtain ⟨succeeds, same, _⟩ := compile_idempotent { tag := some tag } _ _ _ _ _ _ () _
    (⟨0, .disabled, none⟩, {}) named success
  exact ⟨success, succeeds, same⟩

end StyleInline
