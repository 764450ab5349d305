import StyleInline.FileSystem.Memory
import StyleInline.Proofs.FetchProgram
import StyleInline.Proofs.Fetching

/-!
# A visitor that is used again

Two runs over the same nodes go alike if they have come equally far and get the same answers.  A
visit forgets all that it remembers, so a visitor that has visited other modules goes on like a new
one, unless a failure is left in it.
-/

namespace StyleInline

open Script

variable {σ : Type}

/-- Without processing a fetcher gives what the files hold. -/
theorem Fetcher.gives_plain (systems : Systems) (origin : Path) (world : Fetcher.World)
    (plain : world.1.processing.isEnabled = false) :
    (Fetcher.fetch systems).Gives origin
      (fun path => ((systems world.1.system).read path).mapError (.read path origin)) world := by
  have still (path : Path) : (Fetcher.fetch systems path origin world).2 = world := by
    cases found : (systems world.1.system).read path with
    | error source => rw [fetch_missing found]
    | ok content => rw [fetch_plain found plain]
  have unmoved (paths : List Path) : (Fetcher.fetch systems).after origin paths world = world := by
    induction paths with
    | nil => rfl
    | cons path rest ih => rw [Fetch.after, List.foldl_cons, still]; exact ih
  intro paths
  rw [unmoved]
  funext path
  rw [Fetch.answers]
  cases found : (systems world.1.system).read path with
  | error source => rw [fetch_missing found]; rfl
  | ok content => rw [fetch_plain found plain]; rfl

namespace Rewrite

/-- Two runs have come equally far and get the same answers from here on. -/
structure Run.Alike (fetch : Fetch σ) (origin : Path) (answer : Path → Except InlineError String)
    (run run' : Run σ) : Prop where
  progress : run.progress = run'.progress
  failure : run.failure = run'.failure
  gives : fetch.Gives origin answer run.world
  gives' : fetch.Gives origin answer run'.world

/-- Two steps lead to the same result, and to runs that are alike. -/
structure Concur {α : Type} (fetch : Fetch σ) (origin : Path)
    (answer : Path → Except InlineError String) (first second : α × Run σ) : Prop where
  result : first.1 = second.1
  alike : first.2.Alike fetch origin answer second.2

section Concur

variable {plan : Plan} {fetch : Fetch σ} {answer : Path → Except InlineError String}
  {run run' : Run σ}

/-- Runs that are alike treat items alike. -/
theorem concur_items (items : List Node) (alike : run.Alike fetch plan.filename answer run') :
    Concur fetch plan.filename answer (rewriteItems plan fetch items run)
      (rewriteItems plan fetch items run') := by
  obtain ⟨course, takes⟩ := @driven_items plan answer items run.progress run.failure
  obtain ⟨events, same⟩ := takes σ fetch run rfl rfl (alike.gives.along _)
  obtain ⟨events', same'⟩ :=
    takes σ fetch run' alike.progress.symm alike.failure.symm (alike.gives'.along _)
  dsimp only at same same'
  rw [same, same']
  exact ⟨rfl, rfl, rfl, alike.gives.after _, alike.gives'.after _⟩

end Concur

end Rewrite

namespace Visitor

open Rewrite

/-- What becomes of a new visitor that visits modules and whose failures are taken, with what is
left to fetch from. -/
inductive Reached (plan : Plan) (fetch : Fetch σ) (world : σ) : Visitor → σ → Prop
  | new : Reached plan fetch world { plan } world
  | visit {visitor : Visitor} {later : σ} (module : Module)
      (reached : Reached plan fetch world visitor later) :
      Reached plan fetch world (visitor.visit fetch module later).visitor
        (visitor.visit fetch module later).world
  | take {visitor : Visitor} {later : σ} (reached : Reached plan fetch world visitor later) :
      Reached plan fetch world visitor.takeFailure.2 later

variable {plan : Plan} {fetch : Fetch σ} {answer : Path → Except InlineError String}
  {world later : σ} {visitor : Visitor}

/-- A visitor remembers nothing of a module but its failure, and all answers are still the same. -/
theorem Reached.clean (reached : Reached plan fetch world visitor later)
    (gives : fetch.Gives plan.filename answer world) :
    visitor = { plan, failure := visitor.failure } ∧ fetch.Gives plan.filename answer later := by
  induction reached with
  | new => exact ⟨rfl, gives⟩
  | @visit visitor later module reached ih =>
      obtain ⟨same, still⟩ := ih
      have planned : visitor.plan = plan := by rw [same]
      subst planned
      have alike : (visitor.start module later).Alike fetch visitor.plan.filename answer
          (visitor.start module later) := ⟨rfl, rfl, still, still⟩
      have both := concur_items module.items alike
      rw [visit_eq]
      exact ⟨rfl, both.alike.gives⟩
  | @take visitor later reached ih =>
      obtain ⟨same, still⟩ := ih
      refine ⟨?_, still⟩
      rw [takeFailure, same]

/-- A visitor that has been used goes on like a new one; only a failure that has not been taken
keeps it from going on at all. -/
theorem visit_memoryless (plan : Plan) (fetch : Fetch σ)
    (answer : Path → Except InlineError String) (world world' : σ)
    (gives : fetch.Gives plan.filename answer world)
    (gives' : fetch.Gives plan.filename answer world') (visitor : Visitor) (later : σ)
    (reached : Reached plan fetch world visitor later) (module : Module) :
    let result := visitor.visit fetch module later
    let new := ({ plan } : Visitor).visit fetch module world'
    (visitor.failure = none → result.module = new.module ∧ result.visitor = new.visitor) ∧
      (∀ error, visitor.failure = some error →
        result.module = module ∧ result.visitor = visitor ∧ result.visitor.failure = some error) ∧
      result.visitor.progress.isEmpty = true := by
  intro result new
  obtain ⟨same, still⟩ := reached.clean gives
  refine ⟨fun ready => ?_, fun error pending => ?_, rfl⟩
  · rw [ready] at same
    subst same
    have alike : (({ plan } : Visitor).start module later).Alike fetch plan.filename answer
        (({ plan } : Visitor).start module world') := ⟨rfl, rfl, still, gives'⟩
    have both := concur_items module.items alike
    simp only [result, new, visit_eq]
    rw [both.result, both.alike.failure]
    exact ⟨rfl, rfl⟩
  · have failed : (visitor.start module later).failure.isSome = true := by
      rw [start, pending]
      rfl
    have unmoved := @rewriteItems_failed σ visitor.plan fetch _ module.items failed
    simp only [result, visit_eq, unmoved]
    refine ⟨trivial, ?_, pending⟩
    rw [same]
    rfl

/-- A visitor whose first module has failed, and whose failure has been taken. -/
theorem visit_memoryless_failed :
    let tag : Tag := ⟨"css", "lit"⟩
    let files := Memory.fileSystem { entries := [(⟨"/a.css"⟩, .file ".a {}" 0)] }
    let visitor : Visitor := { plan := ⟨{ tag := some tag }, ⟨"/index.js"⟩, ⟨"/"⟩⟩ }
    let fetch := Fetcher.fetch fun _ => files
    let world : Fetcher.World := (⟨0, .disabled, none⟩, {})
    let style (name specifier : String) : Node := .importDecl
      ⟨.evaluation, false, [.default ⟨name, .declared 0⟩], ⟨specifier, none⟩, false⟩ .absent
    let broken : Module := ⟨none, [style "a" "./a.css", style "b" "./b.css"]⟩
    let module : Module := ⟨none, [style "a" "./a.css"]⟩
    let failed := visitor.visit fetch broken world
    failed.visitor.failure.isSome = true ∧
      (failed.visitor.takeFailure.2.visit fetch module failed.world).module =
        (visitor.visit fetch module world).module := by
  intro tag files visitor fetch world style broken module failed
  have gives := Fetcher.gives_plain (fun _ => files) ⟨"/index.js"⟩ world rfl
  have reached : Reached visitor.plan fetch world failed.visitor.takeFailure.2 failed.world :=
    .take (.visit broken .new)
  obtain ⟨ready, _, _⟩ :=
    visit_memoryless visitor.plan fetch _ world world gives gives _ _ reached module
  have same := ready rfl
  exact ⟨by decide +kernel, same.1⟩

end Visitor

end StyleInline
