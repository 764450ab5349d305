import StyleInline.FileSystem.Memory
import StyleInline.Proofs.Visit

/-!
# What a compiled module is

A module that was compiled without a failure is determined by rules that know no order, applied
to the module with the import of the tag in front of its first stylesheet.  That import is lost
where it stands in the attributes of an import that makes room for its own stylesheet.
-/

namespace StyleInline

open Script Rewrite

namespace Forecast

/-- Stylesheets of one name have one text. -/
def Agrees (forecast : Forecast) (sheets : List (Ident × Path)) : Prop :=
  ∀ id first second, (id, first) ∈ sheets → (id, second) ∈ sheets →
    forecast.answer first = forecast.answer second

theorem isDeterministic_rules {forecast : Forecast} {sheets : List (Ident × Path)}
    (agrees : forecast.Agrees sheets)
    (imported : ∀ sheet ∈ sheets, sheet.1 ∈ forecast.scan.styleImports) :
    (forecast.rules sheets).IsDeterministic where
  keeps declaration items kept replaced := by
    obtain ⟨binding, path, content, found, _⟩ := replaced
    have other : forecast.isSheet declaration = false := kept
    rw [isSheet, found] at other
    cases other
  replaces declaration first second left right := by
    obtain ⟨binding, path, content, found, answered, rfl⟩ := left
    obtain ⟨_, _, _, found', answered', rfl⟩ := right
    cases found.symm.trans found'
    cases answered.symm.trans answered'
    rfl
  reads id first second left right := by
    cases first with
    | none =>
        cases second with
        | none => rfl
        | some template =>
            obtain ⟨_, _, path, member, _⟩ := right
            exact absurd (imported _ member) left
    | some template =>
        obtain ⟨⟨tag, tagged, named⟩, _, path, member, answered⟩ := left
        cases second with
        | none => exact absurd (imported _ member) right
        | some other =>
            obtain ⟨⟨_, tagged', named'⟩, _, path', member', answered'⟩ := right
            cases tagged.symm.trans tagged'
            have same := agrees id path path' member member'
            rw [answered, answered'] at same
            rw [Prod.ext (named.trans named'.symm) (Except.ok.inj same)]

/-- The stylesheets that a visit comes upon have been scanned. -/
theorem passedIn_imported (plan : Plan) (module : Module)
    (answer : Path → Except InlineError String) :
    ∀ sheet ∈ (ofModule plan module answer).passedIn ((ofModule plan module answer).seenIn module),
      sheet.1 ∈ (ofModule plan module answer).scan.styleImports := by
  intro sheet member
  obtain ⟨sight, inside, found⟩ := mem_passedIn.mp member
  refine (Scan.records_ofModule plan.query module).imports sheet.1 |>.mpr
    (.inr ⟨sight, inside, ?_⟩)
  cases sight with
  | imported spot declaration isItem =>
      cases isItem with
      | false => cases found
      | true => exact Plan.of_sheet? found
  | _ => cases found

/-- An import that makes no room is found in a result where it was before, less the attributes of
imports that made room. -/
theorem traces_importsOf {forecast : Forecast} {sheets : List (Ident × Path)} {tag : Tag}
    (tagged : forecast.plan.config.tag = some tag) {lead : Import}
    (stays : forecast.isSheet lead = false) :
    (forecast.rules sheets).Traces forecast.plan.config.baseClass forecast.isSheet
      (Sight.importsOf lead) (Sight.importsOf lead) := by
  refine ⟨?_, fun _ _ _ _ _ => rfl, fun _ _ _ _ _ _ _ _ _ => rfl, fun _ _ _ => rfl,
    fun _ _ _ => rfl, fun _ _ _ kept => ⟨kept, rfl⟩, ?_, fun _ _ _ => ⟨rfl, rfl⟩⟩
  · funext parent
    simp [rules, isMatching, tagged]
  · rintro spot spot' declaration items ⟨binding, path, content, found, _, rfl⟩
    have sheet : forecast.isSheet declaration = true := by rw [isSheet, found]; rfl
    have other : declaration ≠ lead := by
      rintro rfl
      cases sheet.symm.trans stays
    refine ⟨sheet, ?_⟩
    rw [Sight.importsOf, if_neg other, inlined, tagged]
    dsimp only
    split <;> rfl

end Forecast

/-- A module that was compiled without a failure is what the rules leave of the announced module;
they leave no choice if stylesheets of one name have one text.  The import of the tag is there
exactly when the first stylesheet is not imported in the attributes of another one. -/
theorem compile_success {τ : Type} (config : Config) (filename : Path) (files : FileSystem)
    (tracker : Tracker τ) (systems : Systems) (module : Module) (registrations : τ)
    (world : Fetcher.World)
    (success : (compile config filename files tracker (Fetcher.fetch systems) module registrations
      world).failure = none) :
    let compiled :=
      compile config filename files tracker (Fetcher.fetch systems) module registrations world
    let forecast :=
      Forecast.ofModule (Visitor.ofConfig config filename files).plan module
        ((Fetcher.fetch systems).answers filename world)
    let sheets := forecast.passedIn (forecast.seenIn module)
    compiled.module.interpreter = module.interpreter ∧
    (forecast.rules sheets).AllowsItems false (forecast.announced module) compiled.module.items ∧
    (forecast.Agrees sheets →
      ∀ items, (forecast.rules sheets).AllowsItems false (forecast.announced module) items →
        items = compiled.module.items) ∧
    ∀ tag, config.tag = some tag →
      ((∃ spot, .imported spot (Emit.tagDeclaration (forecast.tagIdent tag) tag) true ∈
          forecast.seenIn compiled.module) ↔
        ∃ spot, asked? forecast.isSheet (forecast.seenIn module) = some spot ∧
          ∀ host ∈ spot.hosts, forecast.isSheet host = false) := by
  intro compiled forecast sheets
  obtain ⟨interpreter, allowed⟩ := allowed_of_compile success forecast rfl
  refine ⟨interpreter, allowed, fun agrees items other => ?_, fun tag tagged => ?_⟩
  · exact (Forecast.isDeterministic_rules agrees
      (Forecast.passedIn_imported _ module _)).allowsItems other allowed
  · have stays := forecast.isSheet_tagDeclaration (forecast.tagIdent tag) tag
    have traced := (Forecast.traces_importsOf tagged stays).items {} (by simp) rfl allowed {}
    have announced (spot : Spot) :
        .imported spot (Emit.tagDeclaration (forecast.tagIdent tag) tag) true ∈
            sightsOfItems forecast.plan.config.baseClass {} (forecast.announced module) ↔
          asked? forecast.isSheet (forecast.seenIn module) = some spot :=
      Forecast.mem_announced _ module _ tagged spot
    rw [← mem_flatMap_importsOf,
      show (forecast.seenIn compiled.module).flatMap _ = _ from traced,
      Rules.left_eq_flatMap_filter, mem_flatMap_importsOf]
    refine exists_congr fun spot => ?_
    rw [List.mem_filter, announced]
    simp only [Sight.spot, Bool.not_eq_true', List.any_eq_false, Bool.not_eq_true]

/-- One stylesheet, imported by an item. -/
theorem compile_success_item :
    let tag : Tag := ⟨"css", "lit"⟩
    let files := Memory.fileSystem { entries := [(⟨"/a.css"⟩, .file ".a {}" 0)] }
    let module : Module :=
      ⟨none, [.importDecl
        ⟨.evaluation, false, [.default ⟨"a", .declared 0⟩], ⟨"./a.css", none⟩, false⟩ .absent]⟩
    let compiled := compile { tag := some tag } ⟨"/index.js"⟩ files (@Tracker.tracing Unit)
      (Fetcher.fetch fun _ => files) module () (⟨0, .disabled, none⟩, {})
    let forecast := Forecast.ofModule
      (Visitor.ofConfig { tag := some tag } ⟨"/index.js"⟩ files).plan module
      ((Fetcher.fetch fun _ => files).answers ⟨"/index.js"⟩ (⟨0, .disabled, none⟩, {}))
    compiled.failure = none ∧
      ∃ spot, .imported spot (Emit.tagDeclaration (forecast.tagIdent tag) tag) true ∈
        forecast.seenIn compiled.module := by
  intro tag files module compiled forecast
  have success : compiled.failure = none := by decide +kernel
  obtain ⟨_, _, _, imports⟩ := compile_success _ _ _ _ _ _ _ _ success
  refine ⟨success, (imports tag rfl).mpr ⟨{}, ?_, nofun⟩⟩
  decide +kernel

end StyleInline
