import StyleInline.Compile
import StyleInline.Proofs.Fetching
import StyleInline.Proofs.FreshNames
import StyleInline.Proofs.RewriteOutcome

/-!
# The visit of a module

The forecast of a module tells how a visit of it ends, and what a visit without a failure leaves.
-/

namespace StyleInline

open Script Rewrite

namespace Scan

open Substitution (identsOf identsOfAll)

/-- What styles ask for is an identifier of the module. -/
theorem stylesReferences_subset (query : Query) (module : Module) :
    (ofModule query module).stylesReferences ⊆ identsOfAll module.items := by
  intro id member
  rcases (records_ofModule query module).styles id |>.mp member with impossible | seen
  · cases impossible
  · obtain ⟨sight, inside, read, _⟩ := seen
    refine ids_of_sightsOfItems _ _ _ _ inside ?_
    cases sight with
    | name spot role other =>
        rw [Sight.read?] at read
        split at read
        · cases read
          exact List.mem_singleton_self _
        · cases read
    | _ => cases read

end Scan

namespace Forecast

variable {σ : Type}

/-- What the rewriting of a module is going to meet. -/
def ofModule (plan : Plan) (module : Module) (answer : Path → Except InlineError String) :
    Forecast where
  plan
  scan := Scan.ofModule plan.query module
  answer

/-- What a visit of the module comes upon. -/
def seenIn (forecast : Forecast) (module : Module) : List Sight :=
  Scan.seenOf forecast.plan.query module

theorem isFresh_ofModule (plan : Plan) (module : Module)
    (answer : Path → Except InlineError String) : (ofModule plan module answer).IsFresh := by
  intro tag
  have unborne (id : Ident) (member : id ∈ Substitution.identsOfAll module.items) :
      id ≠ (ofModule plan module answer).tagIdent tag := by
    rintro rfl
    exact Scan.freshName_ne plan.query module tag.localName member rfl
  exact ⟨fun member => unborne _ (Scan.styleImports_subset plan.query module member) rfl,
    fun member => unborne _ (Scan.stylesReferences_subset plan.query module member) rfl⟩

theorem covers_ofModule (plan : Plan) (module : Module)
    (answer : Path → Except InlineError String) :
    (ofModule plan module answer).Covers
      (sightsOfItems plan.config.baseClass {} module.items) := by
  intro sight inside id read
  exact (Scan.records_ofModule plan.query module).styles id |>.mpr (.inr ⟨sight, inside, read⟩)

/-- At the start of a module nothing has been passed. -/
theorem standing_start (plan : Plan) (fetch : Fetch σ) (module : Module) (world : σ) :
    (ofModule plan module (fetch.answers plan.filename world)).Standing fetch [] none
      ⟨{ scan := Scan.ofModule plan.query module }, none, [], world⟩ where
  active := rfl
  called := rfl
  tag := by
    rw [tagBehind]
    split <;> rfl
  imports := rfl
  styles := rfl
  others := rfl
  names _ := rfl
  texts id := by
    rw [known?]
    split <;> rfl
  answers := rfl
  had := nofun

/-- What a verdict tells of the failure and the result of a rewriting. -/
def Tells (forecast : Forecast) (announced result : List Node) (failure : Option InlineError) :
    Verdict → Prop
  | .clear passed =>
    failure = none ∧ (forecast.rules passed).AllowsItems false announced result
  | .refused => ∃ error, failure = some error ∧ error.isContractViolation = false
  | .unmet className id hosts =>
    if hosts.any forecast.refuses then
      ∃ error, failure = some error ∧ error.isContractViolation = false
    else failure = some (.stylesBeforeImport className id.name)

theorem Ends.tells {forecast : Forecast} {fetch : Fetch σ} {name : Option String}
    {passed : List (Ident × Path)} {announced : List Node × Bool} {result : List Node} {run : Run σ}
    {verdict : Verdict}
    (ends : forecast.Ends fetch name
      (forecast.Gains passed (fun rules => rules.AllowsItems false) announced result) run
      verdict) :
    forecast.Tells announced.1 result run.failure verdict := by
  cases verdict with
  | clear later => exact ⟨ends.1.active, ends.2.allowed⟩
  | refused => exact ends
  | unmet className id hosts =>
      simp only [Ends, Tells] at ends ⊢
      split at ends
      next hosted =>
        rw [if_pos hosted]
        exact ends
      next unhosted =>
        rw [if_neg unhosted]
        exact ends.1

/-- A rewriting without a failure comes to the end. -/
theorem Tells.clear {forecast : Forecast} {announced result : List Node} {verdict : Verdict}
    (tells : forecast.Tells announced result none verdict) : ∃ passed, verdict = .clear passed := by
  cases verdict with
  | clear passed => exact ⟨passed, rfl⟩
  | refused =>
      obtain ⟨_, impossible, _⟩ := tells
      cases impossible
  | unmet className id hosts =>
      rw [Tells] at tells
      split at tells
      · obtain ⟨_, impossible, _⟩ := tells
        cases impossible
      · cases tells

/-- A rewriting without a failure has passed all that it came upon. -/
theorem Tells.passes {forecast : Forecast} {announced result : List Node} {seen : List Sight}
    (tells : forecast.Tells announced result none (forecast.judgeAll seen [])) :
    forecast.Passes seen [] := by
  obtain ⟨passed, verdict⟩ := tells.clear
  exact ((forecast.judgeAll_eq_clear_iff seen [] passed).mp verdict).1

/-- A rewriting without a failure has passed all stylesheets. -/
theorem Tells.allowed {forecast : Forecast} {announced result : List Node} {seen : List Sight}
    (tells : forecast.Tells announced result none (forecast.judgeAll seen [])) :
    (forecast.rules (forecast.passedIn seen)).AllowsItems false announced result := by
  obtain ⟨passed, verdict⟩ := tells.clear
  rw [verdict] at tells
  obtain ⟨_, same⟩ := (forecast.judgeAll_eq_clear_iff seen [] passed).mp verdict
  rw [List.append_nil] at same
  rw [← same]
  exact tells.2

/-- The module with the import of the tag in front of the first stylesheet. -/
def announced (forecast : Forecast) (module : Module) : List Node :=
  match forecast.plan.config.tag with
  | none => module.items
  | some tag =>
    (announceItems forecast.isSheet (Emit.tagImport (forecast.tagIdent tag) tag) module.items
      false).1

theorem announced_eq (forecast : Forecast) (module : Module) :
    forecast.announced module =
      (announceItems forecast.isSheet forecast.lead module.items (forecast.isLed [])).1 := by
  rw [announced, lead, isLed]
  cases forecast.plan.config.tag with
  | none => exact (congrArg Prod.fst (announceItems_put forecast.isSheet .absent module.items)).symm
  | some tag => rfl

theorem announced_of_tagged {forecast : Forecast} {tag : Tag}
    (tagged : forecast.plan.config.tag = some tag) (module : Module) :
    forecast.announced module =
      (announceItems forecast.isSheet
        (.importDecl (Emit.tagDeclaration (forecast.tagIdent tag) tag) .absent) module.items
        false).1 := by
  rw [announced, tagged]
  rfl

/-- The name of the tag is nowhere in the module. -/
theorem tagIdent_unseen (plan : Plan) (module : Module)
    (answer : Path → Except InlineError String) (tag : Tag) {sight : Sight}
    (member : sight ∈ (ofModule plan module answer).seenIn module) :
    (ofModule plan module answer).tagIdent tag ∉ sight.ids := by
  intro borne
  have inside := ids_of_sightsOfItems _ _ _ _ member borne
  exact Scan.freshName_ne plan.query module tag.localName inside rfl

/-- In the announced module the tag is imported where a stylesheet is imported first. -/
theorem mem_announced (plan : Plan) (module : Module)
    (answer : Path → Except InlineError String) {tag : Tag} (tagged : plan.config.tag = some tag)
    (spot : Spot) :
    .imported spot (Emit.tagDeclaration ((ofModule plan module answer).tagIdent tag) tag) true ∈
        sightsOfItems plan.config.baseClass {} ((ofModule plan module answer).announced module) ↔
      asked? (ofModule plan module answer).isSheet
        ((ofModule plan module answer).seenIn module) = some spot := by
  rw [announced_of_tagged tagged, (announced_sightsOfItems _ {} module.items false).lead spot]
  constructor
  · rintro (seen | ⟨_, asked⟩)
    · refine absurd ?_ (tagIdent_unseen plan module answer tag seen)
      simp [Sight.ids, Scan.idsOfImport, Emit.tagDeclaration]
    · exact asked
  · exact fun asked => .inr ⟨rfl, asked⟩

end Forecast

namespace Visitor

variable {σ : Type} {fetch : Fetch σ} {visitor : Visitor}

/-- A visit ends as its forecast tells. -/
theorem ends_visit (steady : fetch.IsSteady visitor.plan.filename)
    (proper : fetch.IsProper visitor.plan.filename) (ready : visitor.failure = none)
    (module : Module) (world : σ) (forecast : Forecast)
    (made : forecast =
      Forecast.ofModule visitor.plan module (fetch.answers visitor.plan.filename world)) :
    forecast.Tells (forecast.announced module) (visitor.visit fetch module world).module.items
      (visitor.visit fetch module world).visitor.failure
      (forecast.judgeAll (forecast.seenIn module) []) := by
  subst made
  have ends := Forecast.courseItems
    ⟨steady, proper, Forecast.isFresh_ofModule visitor.plan module _⟩ .outside module.items
    (Forecast.covers_ofModule visitor.plan module _)
    (Forecast.standing_start visitor.plan fetch module world)
  have run : (visitor.visit fetch module world).module.items =
        (rewriteItems visitor.plan fetch module.items
          ⟨{ scan := Scan.ofModule visitor.plan.query module }, none, [], world⟩).1 ∧
      (visitor.visit fetch module world).visitor.failure =
        (rewriteItems visitor.plan fetch module.items
          ⟨{ scan := Scan.ofModule visitor.plan.query module }, none, [], world⟩).2.failure := by
    rw [visit, ready]
    exact ⟨rfl, rfl⟩
  rw [run.1, run.2, Forecast.announced_eq]
  exact ends.tells

end Visitor

section Compile

variable {τ : Type} {config : Config} {filename : Path} {files : FileSystem} {tracker : Tracker τ}
  {systems : Systems} {module : Module} {registrations : τ} {world : Fetcher.World}

/-- Without a failure the forecast tells what a compiled module is. -/
theorem tells_of_compile
    (success : (compile config filename files tracker (Fetcher.fetch systems) module registrations
      world).failure = none) (forecast : Forecast)
    (made : forecast = Forecast.ofModule (Visitor.ofConfig config filename files).plan module
      ((Fetcher.fetch systems).answers filename world)) :
    (compile config filename files tracker (Fetcher.fetch systems) module registrations
        world).module.interpreter = module.interpreter ∧
      forecast.Tells (forecast.announced module)
        (compile config filename files tracker (Fetcher.fetch systems) module registrations
          world).module.items none (forecast.judgeAll (forecast.seenIn module) []) := by
  have ends := (Visitor.ofConfig config filename files).ends_visit
    (Fetcher.fetch_isSteady systems filename) (Fetcher.fetch_isProper systems filename) rfl
    module world forecast made
  rw [compile] at success ⊢
  dsimp only at success ⊢
  split at success
  next => cases success
  next registered =>
    dsimp only at success
    rw [success] at ends
    exact ⟨rfl, ends⟩

/-- A module that was compiled without a failure is allowed by the rules for its stylesheets. -/
theorem allowed_of_compile
    (success : (compile config filename files tracker (Fetcher.fetch systems) module registrations
      world).failure = none) (forecast : Forecast)
    (made : forecast = Forecast.ofModule (Visitor.ofConfig config filename files).plan module
      ((Fetcher.fetch systems).answers filename world)) :
    (compile config filename files tracker (Fetcher.fetch systems) module registrations
        world).module.interpreter = module.interpreter ∧
      (forecast.rules (forecast.passedIn (forecast.seenIn module))).AllowsItems false
        (forecast.announced module)
        (compile config filename files tracker (Fetcher.fetch systems) module registrations
          world).module.items := by
  obtain ⟨interpreter, tells⟩ := tells_of_compile success forecast made
  exact ⟨interpreter, tells.allowed⟩

end Compile

end StyleInline
