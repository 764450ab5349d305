import StyleInline.Proofs.Hygiene

/-!
# A rewriting as a program that fetches

A rewriting is made of a few operations, and only by one of them, which asks for a stylesheet, does
it learn of stylesheets.  So runs that get the same answers to what they ask for go alike, whatever
else could be asked for, and wherever the answers come from.
-/

namespace StyleInline

open Script

namespace Fetch

variable {σ : Type}

/-- What is left to fetch from after stylesheets have been asked for, one after the other. -/
def after (fetch : Fetch σ) (origin : Path) (paths : List Path) (world : σ) : σ :=
  paths.foldl (fun world path => (fetch path origin world).2) world

/-- The answers are these, whatever is asked for before. -/
def Gives (fetch : Fetch σ) (origin : Path) (answer : Path → Except InlineError String)
    (world : σ) : Prop :=
  ∀ paths, fetch.answers origin (fetch.after origin paths world) = answer

/-- Asked for these paths one after another, a fetch gives these answers. -/
def Along (fetch : Fetch σ) (origin : Path) (answer : Path → Except InlineError String) :
    List Path → σ → Prop
  | [], _ => True
  | path :: rest, world =>
    fetch.answers origin world path = answer path ∧
      fetch.Along origin answer rest (fetch path origin world).2

variable {fetch : Fetch σ} {origin : Path} {answer : Path → Except InlineError String}

theorem after_append (first second : List Path) (world : σ) :
    fetch.after origin (first ++ second) world =
      fetch.after origin second (fetch.after origin first world) :=
  List.foldl_append

theorem along_append {first second : List Path} {world : σ} :
    fetch.Along origin answer (first ++ second) world ↔
      fetch.Along origin answer first world ∧
        fetch.Along origin answer second (fetch.after origin first world) := by
  induction first generalizing world with
  | nil => exact (iff_of_eq (true_and _)).symm
  | cons path rest ih =>
      rw [List.cons_append, Along, Along, ih, and_assoc]
      rfl

section Gives

variable {world : σ} (gives : fetch.Gives origin answer world)
include gives

theorem Gives.answers : fetch.answers origin world = answer := gives []

/-- The answers are still the same after more questions. -/
theorem Gives.after (paths : List Path) :
    fetch.Gives origin answer (fetch.after origin paths world) := by
  intro others
  rw [← after_append]
  exact gives (paths ++ others)

theorem Gives.along (paths : List Path) : fetch.Along origin answer paths world := by
  induction paths generalizing world with
  | nil => trivial
  | cons path rest ih => exact ⟨congrFun gives.answers path, ih (gives.after [path])⟩

end Gives

end Fetch

namespace Rewrite

abbrev Program (α : Type) := (σ : Type) → Fetch σ → Step σ α

namespace Program

variable {α : Type}

def look (body : Progress → Option InlineError → Program α) : Program α :=
  fun σ fetch run => body run.progress run.failure σ fetch run

def put (progress : Progress) (failure : Option InlineError) : Program Unit :=
  fun _ _ run => ((), { run with progress, failure })

/-- A program that looks at nothing but how far it has come, and reaches what lies behind a fetch
only by asking for a stylesheet of this file.  It does not tell that a processor was started. -/
inductive IsMade (origin : Path) : {α : Type} → Program α → Prop
  | pure {α : Type} (value : α) : IsMade origin fun _ _ => Pure.pure value
  | bind {α β : Type} {first : Program α} {second : α → Program β} (one : IsMade origin first)
      (two : ∀ value, IsMade origin (second value)) :
      IsMade origin fun σ fetch => first σ fetch >>= fun value => second value σ fetch
  | look {α : Type} {body : Progress → Option InlineError → Program α}
      (each : ∀ progress failure, IsMade origin (body progress failure)) :
      IsMade origin (look body)
  | put (progress : Progress) (failure : Option InlineError) : IsMade origin (put progress failure)
  | report (event : Event) (other : event ≠ .processorStarted) :
      IsMade origin fun _ _ => Rewrite.report event
  | request (path : Path) : IsMade origin fun _ fetch => Rewrite.request fetch path origin

namespace IsMade

variable {origin : Path}

/-- What a program does may be told apart by how far it has come. -/
theorem byProgress {program : Program α}
    (each : ∀ progress failure,
      IsMade origin fun σ fetch run => program σ fetch { run with progress, failure }) :
    IsMade origin program :=
  look each

/-- A program that does nothing behind a failure. -/
theorem guard {program : Program α} (value : α) (made : IsMade origin program) :
    IsMade origin
      (fun σ fetch => do
        if (← get).failure.isSome then return value
        program σ fetch) := by
  refine byProgress fun progress failure => ?_
  cases failure with
  | none => exact (put progress none).bind fun _ => made
  | some error => exact (put progress (some error)).bind fun _ => pure value

end IsMade

end Program

section Made

variable {plan : Plan} {origin : Path}

theorem made_exchangeClassName (name : Option String) :
    Program.IsMade origin fun _ _ => exchangeClassName name :=
  .byProgress fun progress failure =>
    .bind (.put { progress with className := name } failure) fun _ => .pure progress.className

theorem made_fillStyles (members : List Node) :
    Program.IsMade origin fun _ _ => fillStyles members := by
  refine .byProgress fun progress failure => ?_
  cases failure with
  | some error => exact .bind (.put progress (some error)) fun _ => .pure members
  | none =>
      simp only [fillStyles, bind, StateT.bind, get, getThe, MonadStateOf.get, StateT.get, pure,
        StateT.run]
      cases progress.className with
      | none => exact .bind (.put progress none) fun _ => .pure members
      | some className =>
          dsimp only
          generalize Substitution.substituteMembers ⟨progress, className⟩ members {} = substituted
          obtain ⟨filled, tally⟩ := substituted
          cases broken : tally.failure with
          | some error =>
              simp only [broken]
              exact .bind (.put progress (some error)) fun _ => .pure filled
          | none =>
              by_cases some : 0 < tally.count
              · simp only [broken, if_pos some]
                exact .bind (.put progress none) fun _ =>
                  .bind (.report (.inlinedStyles className tally.count) (by simp)) fun _ =>
                    .pure filled
              · simp only [broken, if_neg some]
                exact .bind (.put progress none) fun _ => .pure filled

theorem made_tagName (tag : Tag) : Program.IsMade origin fun _ _ => tagName tag := by
  refine .byProgress fun progress failure => ?_
  simp only [tagName_eq]
  exact .bind (.put (progress.named tag) failure) fun _ =>
    .pure (progress.tagIdent tag, progress.lead tag)

theorem made_inline (binding : Ident) (path : Path) (content : String) :
    Program.IsMade origin fun _ _ => inline plan binding path content := by
  cases tagged : plan.config.tag with
  | none =>
      simp only [inline, tagged]
      exact .bind (.report _ (by simp)) fun _ => .pure _
  | some tag =>
      simp only [inline, tagged, inlineTagged]
      refine .bind (made_tagName tag) ?_
      rintro ⟨name, imports⟩
      dsimp only
      refine .byProgress fun progress failure => ?_
      simp only [bind, StateT.bind, get, getThe, MonadStateOf.get, StateT.get, pure]
      have items : Program.IsMade origin fun _ _ =>
          (if progress.scan.isStylesOnly binding then do
            report (.deferredToStyles path binding.name)
            return imports
          else do
            report (.inlinedTemplate path binding.name)
            return imports ++ [Emit.constant binding (Emit.template name content)]) := by
        cases progress.scan.isStylesOnly binding
        · exact .bind (.report _ (by simp)) fun _ => .pure _
        · exact .bind (.report _ (by simp)) fun _ => .pure _
      cases progress.scan.stylesReferences.contains binding with
      | true =>
          exact .bind (.put (progress.bind binding ⟨binding.name, path, content⟩) failure) fun _ =>
            items
      | false => exact .bind (.put progress failure) fun _ => items

theorem made_replacement (declaration : Import) :
    Program.IsMade plan.filename fun _ fetch => replacement plan fetch declaration := by
  cases typed : declaration.typeOnly with
  | true =>
      simp only [replacement, typed]
      exact .pure _
  | false =>
      cases named : plan.stylesheet? declaration.source.value with
      | error error =>
          simp only [replacement, typed, named]
          exact .pure _
      | ok path? =>
          cases path? with
          | none =>
              simp only [replacement, typed, named]
              exact .bind (.report _ (by simp)) fun _ => .pure _
          | some path =>
              cases bound : (Scan.defaultBindings declaration).head? with
              | none =>
                  simp only [replacement, typed, named, bound]
                  exact .bind (.report _ (by simp)) fun _ => .pure _
              | some binding =>
                  simp only [replacement, typed, named, bound]
                  refine .bind (.request path) fun answer => ?_
                  cases answer with
                  | error error => exact .pure _
                  | ok content => exact .bind (made_inline binding path content) fun _ => .pure _

/-- An import asks for its stylesheet, and for nothing else. -/
theorem made_rewriteImport (declaration : Import) (attributes : Node) :
    Program.IsMade plan.filename fun _ fetch =>
      rewriteImport plan fetch declaration attributes := by
  refine .bind (made_replacement declaration) ?_
  rintro (error | _ | items)
  · exact .byProgress fun progress _ => .bind (.put progress (some error)) fun _ => .pure _
  · exact .pure _
  · exact .pure _

mutual

theorem made_node (node : Node) :
    Program.IsMade plan.filename fun _ fetch => rewriteNode plan fetch node := by
  cases node with
  | ident role id => exact .pure _
  | importDecl declaration attributes => exact (made_node attributes).bind fun _ => .pure _
  | exportNames declaration attributes => exact (made_node attributes).bind fun _ => .pure _
  | classNode head decorators members parent rest =>
      refine .guard _ ?_
      cases matching : isMatching plan parent with
      | false =>
          exact (made_nodes decorators).bind fun _ => (made_nodes members).bind fun _ =>
            (made_node parent).bind fun _ => (made_nodes rest).bind fun _ => .pure _
      | true =>
          exact (made_exchangeClassName _).bind fun outer =>
            (made_nodes decorators).bind fun _ => (made_nodes members).bind fun members =>
            (made_node parent).bind fun _ => (made_nodes rest).bind fun _ =>
            (made_fillStyles members).bind fun _ => (made_exchangeClassName outer).bind fun _ =>
            .pure _
  | member head key front core back =>
      exact (made_node key).bind fun _ => (made_nodes front).bind fun _ =>
        (made_node core).bind fun _ => (made_nodes back).bind fun _ => .pure _
  | items body => exact (made_items body).bind fun _ => .pure _
  | form shape parts => exact (made_nodes parts).bind fun _ => .pure _
termination_by node.weight
decreasing_by all_goals (subst_vars; simp only [Node.weight]; omega)

theorem made_nodes (nodes : List Node) :
    Program.IsMade plan.filename fun _ fetch => rewriteNodes plan fetch nodes := by
  cases nodes with
  | nil => exact .pure _
  | cons node rest =>
      exact (made_node node).bind fun _ => (made_nodes rest).bind fun _ => .pure _
termination_by Node.weightOf nodes
decreasing_by all_goals (subst_vars; simp only [Node.weightOf]; omega)

/-- The rewriting of items is made of nothing else. -/
theorem made_items (items : List Node) :
    Program.IsMade plan.filename fun _ fetch => rewriteItems plan fetch items := by
  cases items with
  | nil => exact .pure _
  | cons item rest =>
      rcases item.isImport_or with ⟨declaration, attributes, rfl⟩ | plain
      · exact .guard _ ((made_node attributes).bind fun attributes =>
          (made_rewriteImport declaration attributes).bind fun _ =>
          (made_items rest).bind fun _ => .pure _)
      -- The recursion is called before the cases, where the weight of the item is still in sight.
      · have here := made_node item
        have others := made_items rest
        cases item with
        | importDecl declaration attributes => exact absurd rfl (plain declaration attributes)
        | _ => exact .guard _ (here.bind fun _ => others.bind fun _ => .pure _)
termination_by Node.weightOf items
decreasing_by all_goals (subst_vars; simp only [Node.weight, Node.weightOf]; omega)

end

end Made

/-- What a program comes to when it starts from some progress: what it asks for, what it yields, and
how far it has come then. -/
structure Course (α : Type) where
  asked : List Path
  result : α
  progress : Progress
  failure : Option InlineError

section Courses

variable {origin : Path} {answer : Path → Except InlineError String} {α : Type}

/-- All runs that get the answers to what is asked for take the same course. -/
def Program.Takes (program : Program α) (origin : Path)
    (answer : Path → Except InlineError String) (progress : Progress)
    (failure : Option InlineError) (course : Course α) : Prop :=
  ∀ (σ : Type) (fetch : Fetch σ) (run : Run σ), run.progress = progress →
    run.failure = failure → fetch.Along origin answer course.asked run.world →
    ∃ events, program σ fetch run =
      (course.result, ⟨course.progress, course.failure, events,
        fetch.after origin course.asked run.world⟩)

/-- Wherever a program starts from, its course depends on the answers alone. -/
theorem Program.IsMade.driven {program : Program α} (made : program.IsMade origin)
    (progress : Progress) (failure : Option InlineError) :
    ∃ course, program.Takes origin answer progress failure course := by
  induction made generalizing progress failure with
  | pure value =>
      refine ⟨⟨[], value, progress, failure⟩, ?_⟩
      rintro σ fetch run rfl rfl _
      exact ⟨run.events, rfl⟩
  | @bind α β first second one two ih ih' =>
      obtain ⟨former, takes⟩ := ih progress failure
      obtain ⟨latter, follows⟩ := ih' former.result former.progress former.failure
      refine ⟨⟨former.asked ++ latter.asked, latter.result, latter.progress, latter.failure⟩, ?_⟩
      intro σ fetch run started failed along
      obtain ⟨near, far⟩ := Fetch.along_append.mp along
      obtain ⟨events, same⟩ := takes σ fetch run started failed near
      obtain ⟨events', same'⟩ := follows σ fetch
        ⟨former.progress, former.failure, events, fetch.after origin former.asked run.world⟩ rfl rfl
        far
      refine ⟨events', ?_⟩
      change second (first σ fetch run).1 σ fetch (first σ fetch run).2 = _
      rw [same, same', Fetch.after_append]
  | look each ih =>
      obtain ⟨course, takes⟩ := ih progress failure progress failure
      refine ⟨course, ?_⟩
      rintro σ fetch run rfl rfl along
      exact takes σ fetch run rfl rfl along
  | put progress' failure' =>
      refine ⟨⟨[], (), progress', failure'⟩, ?_⟩
      rintro σ fetch run rfl rfl _
      exact ⟨run.events, rfl⟩
  | report event other =>
      refine ⟨⟨[], (), progress, failure⟩, ?_⟩
      rintro σ fetch run rfl rfl _
      exact ⟨run.events ++ [event], rfl⟩
  | request path =>
      refine ⟨⟨[path], answer path, progress, failure⟩, ?_⟩
      rintro σ fetch run rfl rfl ⟨asked, _⟩
      exact ⟨run.events ++ (fetch path origin run.world).1.events, Prod.ext asked rfl⟩

end Courses

/-- The rewriting of items depends on the answers to what it asks for. -/
theorem driven_items {plan : Plan} {answer : Path → Except InlineError String} (items : List Node)
    (progress : Progress) (failure : Option InlineError) :
    ∃ course, Program.Takes (fun _ fetch => rewriteItems plan fetch items) plan.filename answer
      progress failure course :=
  (made_items items).driven progress failure

end Rewrite

end StyleInline
