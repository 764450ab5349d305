import StyleInline.FileSystem.Memory
import StyleInline.Proofs.BreakingPoint
import StyleInline.Proofs.Hygiene
import StyleInline.Proofs.PartialResult
import StyleInline.Proofs.UnchangedNodes
import StyleInline.Proofs.Visit

/-!
# Visits that fail

A visit that ends with a failure has been broken off at one item of the module, the first one that
fails.  What stands before that item is rewritten as the rules tell, what stands behind it stays,
and the failure is that of the item.
-/

namespace StyleInline

open Script Rewrite

variable {σ : Type}

namespace Forecast

/-- A rewriting without a failure has passed all that it came upon. -/
theorem Ends.passes {forecast : Forecast} {fetch : Fetch σ} {name : Option String}
    {yields : List (Ident × Path) → Prop} {run : Run σ} {seen : List Sight}
    {passed : List (Ident × Path)}
    (ends : forecast.Ends fetch name yields run (forecast.judgeAll seen passed))
    (active : run.failure = none) :
    forecast.Passes seen passed ∧
      forecast.Standing fetch (forecast.passedIn seen ++ passed) name run ∧
      yields (forecast.passedIn seen ++ passed) := by
  cases verdict : forecast.judgeAll seen passed with
  | clear later =>
      obtain ⟨passes, same⟩ := (forecast.judgeAll_eq_clear_iff seen passed later).mp verdict
      rw [verdict, same] at ends
      exact ⟨passes, ends⟩
  | refused =>
      rw [verdict] at ends
      obtain ⟨error, failed, _⟩ := ends
      cases active.symm.trans failed
  | unmet className id hosts =>
      rw [verdict] at ends
      simp only [Ends] at ends
      split at ends
      · obtain ⟨error, failed, _⟩ := ends
        cases active.symm.trans failed
      · cases active.symm.trans ends.1

/-- A rewriting that has failed has not passed all that it came upon. -/
theorem Ends.fails {forecast : Forecast} {fetch : Fetch σ} {name : Option String}
    {yields : List (Ident × Path) → Prop} {run : Run σ} {seen : List Sight}
    {passed : List (Ident × Path)}
    (ends : forecast.Ends fetch name yields run (forecast.judgeAll seen passed))
    {error : InlineError} (failed : run.failure = some error) : ¬ forecast.Passes seen passed := by
  intro passes
  rw [(forecast.judgeAll_eq_clear_iff seen passed _).mpr ⟨passes, rfl⟩] at ends
  cases ends.1.active.symm.trans failed

/-- A rewriting that starts with the first of some items breaks off at one of them. -/
structure BreaksOff (forecast : Forecast) (fetch : Fetch σ) (run : Run σ) (before : List Node)
    (item : Node) (back : List Node) (error : InlineError) : Prop where
  passes : forecast.Passes (sightsOfItems forecast.plan.config.baseClass {} before) []
  /-- What stands before the item is rewritten by the rules for its own stylesheets. -/
  allowed :
    (forecast.rules
        (forecast.passedIn (sightsOfItems forecast.plan.config.baseClass {} before))).AllowsItems
      false (forecast.announced ⟨none, before⟩) (rewriteItems forecast.plan fetch before run).1
  fails : ¬ forecast.Passes (sightsOfItems forecast.plan.config.baseClass {} [item])
    (forecast.passedIn (sightsOfItems forecast.plan.config.baseClass {} before))
  /-- This is where it fails, with which error, and what it leaves. -/
  breaks : BreaksAt forecast.plan fetch (rewriteItems forecast.plan fetch before run).2 item back
    error
  /-- What is left of the item differs from it in styles that are filled in with the texts of the
  stylesheets up to here, and where stylesheets have made room. -/
  halfway :
    (forecast.halfway (forecast.passedIn
        (sightsOfItems forecast.plan.config.baseClass {} (before ++ [item])))).AllowsItems
      false [item] back
  /-- An import is left as it is, if there is nothing to rewrite in its attributes. -/
  verbatim : ∀ declaration attributes, item = .importDecl declaration attributes →
    Quiet forecast.plan (fun _ => False)
      (sights forecast.plan.config.baseClass {} false attributes) → back = [item]

end Forecast

namespace Rewrite

variable {plan : Plan} {fetch : Fetch σ}

/-- An import that fails stays as it is, if there is nothing to rewrite in its attributes. -/
theorem rewriteItems_verbatim {declaration : Import} {attributes : Node} {run : Run σ}
    {error : InlineError} (active : run.failure = none)
    (quiet : Quiet plan (fun _ => False) (sights plan.config.baseClass {} false attributes))
    (failed : (rewriteItems plan fetch [.importDecl declaration attributes] run).2.failure =
      some error) :
    (rewriteItems plan fetch [.importDecl declaration attributes] run).1 =
      [.importDecl declaration attributes] := by
  have idle : run.Idle fun _ => False := ⟨active, fun _ _ _ => False.elim⟩
  obtain ⟨events, still⟩ := @still_node σ plan fetch _ {} false attributes run idle quiet
  rw [rewriteItems_alone run declaration attributes active, still] at failed ⊢
  have told := @rewriteImport_failure σ plan fetch declaration attributes { run with events }
  rw [failed, active, Option.or_none] at told
  exact rewriteImport_stays _ _ _ told.symm

end Rewrite

namespace Visitor

/-- A visit that fails breaks off at the first item that fails, with the error of that item.  The
items before it are rewritten as they are without it, and those behind it stay. -/
theorem visit_failing (systems : Systems) (visitor : Visitor) (module : Module)
    (world : Fetcher.World) {error : InlineError} (ready : visitor.failure = none)
    (failed : (visitor.visit (Fetcher.fetch systems) module world).visitor.failure =
      some error) :
    let fetch := Fetcher.fetch systems
    let result := visitor.visit fetch module world
    let run := visitor.start module world
    let forecast :=
      Forecast.ofModule visitor.plan module (fetch.answers visitor.plan.filename world)
    ∃ before item after back, module.items = before ++ item :: after ∧
      result.module =
        { module with items := (rewriteItems visitor.plan fetch before run).1 ++ back ++ after } ∧
      forecast.BreaksOff fetch run before item back error := by
  intro fetch result run forecast
  have fits : forecast.Fits fetch :=
    ⟨Fetcher.fetch_isSteady systems _, Fetcher.fetch_isProper systems _,
      Forecast.isFresh_ofModule visitor.plan module _⟩
  obtain ⟨before, item, after, split, complete, broken, same⟩ :=
    @rewriteItems_breaking _ visitor.plan fetch module.items run error ready failed
  let back := (rewriteItems visitor.plan fetch [item]
    (rewriteItems visitor.plan fetch before run).2).1
  refine ⟨before, item, after, back, split, ?_, ?_⟩
  · simp only [result, visit_eq]
    rw [same]
  have covers := Forecast.covers_ofModule visitor.plan module
    (fetch.answers visitor.plan.filename world)
  rw [split, ← List.singleton_append, ← List.append_assoc, sightsOfItems_append,
    Forecast.covers_append, sightsOfItems_append, Forecast.covers_append] at covers
  obtain ⟨⟨first, second⟩, _⟩ := covers
  have begins : forecast.Standing fetch [] none run := by
    have standing := Forecast.standing_start visitor.plan fetch module world
    rw [← ready] at standing
    exact standing
  -- The items before come to their end, and the item behind them does not.
  obtain ⟨passes, standing, gains⟩ :=
    (Forecast.courseItems fits .outside before first begins).passes complete
  rw [List.append_nil] at standing gains
  have fails := (Forecast.courseItems fits .outside [item] second standing).fails broken
  -- What is left of that item is made with the stylesheets up to its end.
  let sheets := forecast.passedIn
    (sightsOfItems visitor.plan.config.baseClass {} (before ++ [item]))
  have upTo : sheets =
      forecast.passedIn (sightsOfItems visitor.plan.config.baseClass {} [item]) ++
        forecast.passedIn (sightsOfItems visitor.plan.config.baseClass {} before) := by
    rw [← Forecast.passedIn_append, ← sightsOfItems_append]
  have told : forecast.Told fetch sheets (rewriteItems visitor.plan fetch before run).2 := by
    rw [upTo]
    exact standing.told (List.subset_append_right _ _)
  have lists : forecast.Lists sheets
      (sightsOfItems visitor.plan.config.baseClass {} [item]) := by
    rw [upTo]
    exact (forecast.lists_passedIn _).mono (List.subset_append_left _ _)
  have halfway := (Forecast.halfway_items fits {} [item] told lists).2
  constructor
  · exact passes
  · rw [Forecast.announced_eq]
    exact gains.allowed
  · exact fails
  · exact breaks_item item complete broken
  · exact halfway
  · rintro declaration attributes rfl quiet
    exact rewriteItems_verbatim complete quiet broken

/-- A stylesheet that is missing: its import stays, and so does the stylesheet behind it. -/
theorem visit_failing_missing :
    let files := Memory.fileSystem { entries := [(⟨"/a.css"⟩, .file ".a {}" 0)] }
    let visitor : Visitor := { plan := ⟨{}, ⟨"/index.js"⟩, ⟨"/"⟩⟩ }
    let world : Fetcher.World := (⟨0, .disabled, none⟩, {})
    let style (name specifier : String) : Node := .importDecl
      ⟨.evaluation, false, [.default ⟨name, .declared 0⟩], ⟨specifier, none⟩, false⟩ .absent
    let module : Module := ⟨none, [style "b" "./b.css", style "a" "./a.css"]⟩
    visitor.failure = none ∧
      (visitor.visit (Fetcher.fetch fun _ => files) module world).visitor.failure.isSome = true ∧
      (visitor.visit (Fetcher.fetch fun _ => files) module world).module = module := by
  intro files visitor world style module
  have broken : (visitor.visit (Fetcher.fetch fun _ => files) module
      world).visitor.failure.isSome = true := by
    decide +kernel
  obtain ⟨error, failed⟩ := Option.isSome_iff_exists.mp broken
  obtain ⟨before, item, after, back, split, same, breaksOff⟩ :=
    visit_failing (fun _ => files) visitor module world rfl failed
  refine ⟨rfl, broken, ?_⟩
  let declaration : Import :=
    ⟨.evaluation, false, [.default ⟨"b", .declared 0⟩], ⟨"./b.css", none⟩, false⟩
  let answer := (Fetcher.fetch fun _ => files).answers visitor.plan.filename world
  have refused : (Forecast.ofModule visitor.plan module answer).refuses declaration = true := by
    decide +kernel
  cases before with
  | nil =>
      obtain ⟨rfl, rfl⟩ := List.cons_eq_cons.mp split
      have stays := breaksOff.verbatim declaration .absent rfl ⟨nofun, nofun⟩
      rw [same, stays]
      rfl
  | cons first rest =>
      -- The first import is refused, so nothing stands before the item that fails.
      obtain ⟨rfl, _⟩ := List.cons_eq_cons.mp split
      exact absurd refused (breaksOff.passes [] (.imported {} declaration true) _ rfl)

end Visitor

end StyleInline
