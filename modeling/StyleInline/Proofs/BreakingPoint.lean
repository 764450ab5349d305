import StyleInline.Proofs.Decisions
import StyleInline.Proofs.Rewrite

/-!
# Where a rewriting breaks

A rewriting that fails breaks at one place.  What comes before that place, in visiting order, is
rewritten as if it stood there alone, and what comes behind it stays as it is.
-/

namespace StyleInline

open Script

namespace Script.Node

def parts : Node → List Node
  | .ident _ _ => []
  | .importDecl _ attributes | .exportNames _ attributes => [attributes]
  | .classNode _ decorators members parent rest => decorators ++ members ++ parent :: rest
  | .member _ key front core back => key :: front ++ core :: back
  | .items body => body
  | .form _ parts => parts

/-- The node with other parts, as many as it has. -/
def withParts (node : Node) (parts : List Node) : Node :=
  match node with
  | .ident role id => .ident role id
  | .importDecl declaration attributes => .importDecl declaration (parts.headD attributes)
  | .exportNames declaration attributes => .exportNames declaration (parts.headD attributes)
  | .classNode head decorators members parent _ =>
    let behind := (parts.drop decorators.length).drop members.length
    .classNode head (parts.take decorators.length)
      ((parts.drop decorators.length).take members.length) (behind.headD parent) behind.tail
  | .member head key front core _ =>
    let behind := parts.tail.drop front.length
    .member head (parts.headD key) (parts.tail.take front.length) (behind.headD core) behind.tail
  | .items _ => .items parts
  | .form shape _ => .form shape parts

theorem withParts_classNode (head : ClassHead) {decorators decorators' members members' : List Node}
    (parent parent' : Node) (rest rest' : List Node)
    (first : decorators'.length = decorators.length) (second : members'.length = members.length) :
    (Node.classNode head decorators members parent rest).withParts
        (decorators' ++ members' ++ parent' :: rest') =
      .classNode head decorators' members' parent' rest' := by
  simp [withParts, ← first, ← second]

theorem withParts_member (head : MemberHead) (key key' : Node) {front front' : List Node}
    (core core' : Node) (back back' : List Node) (same : front'.length = front.length) :
    (Node.member head key front core back).withParts (key' :: front' ++ core' :: back') =
      .member head key' front' core' back' := by
  simp [withParts, ← same]

theorem weight_lt_of_mem {node : Node} {nodes : List Node} (member : node ∈ nodes) :
    node.weight < weightOf nodes := by
  induction nodes with
  | nil => cases member
  | cons first rest ih =>
      rw [weightOf]
      rcases List.mem_cons.mp member with rfl | later
      · omega
      · have := ih later
        omega

/-- A part weighs less than the whole. -/
theorem weight_lt_of_part {node part : Node} (member : part ∈ node.parts) :
    part.weight < node.weight := by
  cases node with
  | ident role id => cases member
  | importDecl declaration attributes | exportNames declaration attributes =>
      cases List.mem_singleton.mp member
      rw [weight]
      omega
  | classNode head decorators members parent rest =>
      rw [weight]
      rcases List.mem_append.mp member with first | second
      · rcases List.mem_append.mp first with here | here
        · have := weight_lt_of_mem here
          omega
        · have := weight_lt_of_mem here
          omega
      · rcases List.mem_cons.mp second with rfl | here
        · omega
        · have := weight_lt_of_mem here
          omega
  | member head key front core back =>
      rw [weight]
      rcases List.mem_append.mp member with first | second
      · rcases List.mem_cons.mp first with rfl | here
        · omega
        · have := weight_lt_of_mem here
          omega
      · rcases List.mem_cons.mp second with rfl | here
        · omega
        · have := weight_lt_of_mem here
          omega
  | items inner | form shape inner =>
      have lighter : part.weight < weightOf inner := weight_lt_of_mem member
      rw [weight]
      omega

end Script.Node

namespace Rewrite

variable {σ : Type} {plan : Plan} {fetch : Fetch σ}

/-- Nodes one behind the other are rewritten one after the other. -/
theorem rewriteNodes_append (first second : List Node) (run : Run σ) :
    rewriteNodes plan fetch (first ++ second) run =
      let left := rewriteNodes plan fetch first run
      let right := rewriteNodes plan fetch second left.2
      (left.1 ++ right.1, right.2) := by
  induction first generalizing run with
  | nil => rfl
  | cons node rest ih => simp only [List.cons_append, rewriteNodes_cons, ih]

/-- Every node stays one node. -/
theorem length_rewriteNodes (nodes : List Node) (run : Run σ) :
    (rewriteNodes plan fetch nodes run).1.length = nodes.length := by
  induction nodes generalizing run with
  | nil => rfl
  | cons node rest ih =>
      rw [rewriteNodes_cons]
      simp only [List.length_cons, ih]

section ClassName

/-- An import leaves the name of the class that it stands in. -/
theorem rewriteImport_className (declaration : Import) (attributes : Node) (run : Run σ) :
    (rewriteImport plan fetch declaration attributes run).2.progress.className =
      run.progress.className := by
  rcases @rewriteImport_cases σ plan fetch declaration attributes run with
    ⟨error, events, world, _, same⟩ | ⟨events, _, _, same⟩ |
    ⟨binding, path, content, events, _, _, _, same⟩
  · rw [same]
  · rw [same]
  · rw [same]
    cases tagged : plan.config.tag with
    | none =>
        obtain ⟨_, inlined⟩ := @inline_string σ plan tagged binding path content
          { run with events, world := (fetch path plan.filename run.world).2 }
        rw [inlined]
    | some tag =>
        obtain ⟨_, inlined⟩ := @inline_template σ plan tag tagged binding path content
          { run with events, world := (fetch path plan.filename run.world).2 }
        rw [inlined, Progress.knowing_className, Progress.named_className]

mutual

/-- Behind a node the class that is being rewritten is the same as in front of it. -/
theorem rewriteNode_className (node : Node) (run : Run σ) :
    (rewriteNode plan fetch node run).2.progress.className = run.progress.className := by
  cases node with
  | ident role id => rfl
  | importDecl declaration attributes | exportNames declaration attributes =>
      exact rewriteNode_className attributes run
  | classNode head decorators members parent rest =>
      cases failed : run.failure.isSome with
      | true => rw [rewriteNode_classNode_failed run _ _ _ _ _ failed]
      | false =>
          have active : run.failure = none := by simpa using failed
          cases matching : isMatching plan parent with
          | true =>
              -- The name that was set before is set again.
              rw [rewriteNode_classNode_matching run _ _ _ _ _ active matching]
              rfl
          | false =>
              rw [rewriteNode_classNode_other run _ _ _ _ _ active matching]
              dsimp only
              rw [rewriteNodes_className rest, rewriteNode_className parent,
                rewriteNodes_className members, rewriteNodes_className decorators]
  | member head key front core back =>
      rw [rewriteNode_member]
      dsimp only
      rw [rewriteNodes_className back, rewriteNode_className core, rewriteNodes_className front,
        rewriteNode_className key]
  | items body => exact rewriteItems_className body run
  | form shape parts => exact rewriteNodes_className parts run

theorem rewriteNodes_className (nodes : List Node) (run : Run σ) :
    (rewriteNodes plan fetch nodes run).2.progress.className = run.progress.className := by
  cases nodes with
  | nil => rfl
  | cons node rest =>
      rw [rewriteNodes_cons]
      dsimp only
      rw [rewriteNodes_className rest, rewriteNode_className node]

theorem rewriteItems_className (items : List Node) (run : Run σ) :
    (rewriteItems plan fetch items run).2.progress.className = run.progress.className := by
  cases items with
  | nil => rfl
  | cons item rest =>
      cases failed : run.failure.isSome with
      | true => rw [rewriteItems_failed run _ failed]
      | false =>
          have active : run.failure = none := by simpa using failed
          rcases item.isImport_or with ⟨declaration, attributes, rfl⟩ | plain
          · rw [rewriteItems_importDecl run _ _ _ active]
            dsimp only
            rw [rewriteItems_className rest, rewriteImport_className,
              rewriteNode_className attributes]
          · rw [rewriteItems_cons run _ active plain]
            dsimp only
            rw [rewriteItems_className rest, rewriteNode_className item]

end

end ClassName

/-- The parts of a class are rewritten one after the other. -/
theorem rewriteNodes_class (decorators members : List Node) (parent : Node) (rest : List Node)
    (run : Run σ) :
    rewriteNodes plan fetch (decorators ++ members ++ parent :: rest) run =
      let first := rewriteNodes plan fetch decorators run
      let second := rewriteNodes plan fetch members first.2
      let third := rewriteNode plan fetch parent second.2
      let fourth := rewriteNodes plan fetch rest third.2
      (first.1 ++ second.1 ++ third.1 :: fourth.1, fourth.2) := by
  simp only [rewriteNodes_append, rewriteNodes_cons]

/-- The run in which the parts of a node are rewritten. -/
def entered (plan : Plan) (node : Node) (run : Run σ) : Run σ :=
  match node with
  | .classNode head _ _ parent _ =>
    if isMatching plan parent then run.called (some (classNameOf head)) else run
  | _ => run

def IsFilled (plan : Plan) (node : Node) : Prop :=
  match node with
  | .classNode _ _ _ parent _ => isMatching plan parent = true
  | _ => False

/-- A node that holds no items, and whose styles are not filled in, is rewritten part by part. -/
theorem rewriteNode_parts {node : Node} {run : Run σ} (active : run.failure = none)
    (unlisted : ∀ body, node ≠ .items body) (unfilled : ¬ IsFilled plan node) :
    rewriteNode plan fetch node run =
      let inner := rewriteNodes plan fetch node.parts run
      (node.withParts inner.1, inner.2) := by
  cases node with
  | ident role id => rfl
  | importDecl declaration attributes => rfl
  | exportNames declaration attributes => rfl
  | classNode head decorators members parent rest =>
      have other : isMatching plan parent = false := by simpa [IsFilled] using unfilled
      rw [rewriteNode_classNode_other run _ _ _ _ _ active other, Node.parts, rewriteNodes_class]
      dsimp only
      rw [Node.withParts_classNode head parent _ rest _ (length_rewriteNodes _ _)
        (length_rewriteNodes _ _)]
  | member head key front core back =>
      rw [rewriteNode_member, Node.parts]
      simp only [rewriteNodes_append, rewriteNodes_cons]
      rw [Node.withParts_member head key _ core _ back _ (length_rewriteNodes _ _)]
  | items body => exact absurd rfl (unlisted body)
  | form shape parts => rfl

/-- The styles of a class that fail ask for something that is not there. -/
theorem fillStyles_breaking (members : List Node) (base : String) {run : Run σ} {className : String}
    {error : InlineError} (active : run.failure = none)
    (called : run.progress.className = some className)
    (failed : (fillStyles members run).2.failure = some error) :
    ∃ asked id unread,
      readsOf (sightsOfAll base {} false (stylesCores members)) = asked ++ id :: unread ∧
      (∀ other ∈ asked, Substitution.fault ⟨run.progress, className⟩ other = none) ∧
      Substitution.fault ⟨run.progress, className⟩ id = some error ∧
      Decision.MakesStyles members
        ((asked.map fun other =>
            (other, Substitution.choice? ⟨run.progress, className⟩ other)) ++
          (id :: unread).map fun other => (other, none)) (fillStyles members run).1 := by
  obtain ⟨events, same⟩ := fillStyles_eq members active called
  rw [same] at failed ⊢
  dsimp only at failed ⊢
  rw [Substitution.substituteMembers_failure _ base, Option.none_or] at failed
  obtain ⟨asked, id, unread, split, unmet, met⟩ := List.findSome?_eq_some_iff.mp failed
  have makes := Substitution.makes_substituteMembers ⟨run.progress, className⟩ base members {}
  rw [Option.isSome_none, Substitution.resumed, if_neg Bool.false_ne_true, split,
    Substitution.decisions_of_unmet met unmet] at makes
  exact ⟨asked, id, unread, split, met, unmet, makes⟩

/-- What several nodes become if one of them fails. -/
theorem rewriteNodes_breaking (nodes : List Node) {run : Run σ} {error : InlineError}
    (active : run.failure = none)
    (failed : (rewriteNodes plan fetch nodes run).2.failure = some error) :
    ∃ before node after, nodes = before ++ node :: after ∧
      let middle := (rewriteNodes plan fetch before run).2
      let broken := rewriteNode plan fetch node middle
      middle.failure = none ∧ broken.2.failure = some error ∧
        rewriteNodes plan fetch nodes run =
          ((rewriteNodes plan fetch before run).1 ++ broken.1 :: after, broken.2) := by
  induction nodes generalizing run with
  | nil => cases active.symm.trans failed
  | cons node rest ih =>
      cases first : (rewriteNode plan fetch node run).2.failure with
      | some other =>
          have frozen := @rewriteNodes_failed σ plan fetch rest
            (rewriteNode plan fetch node run).2 (by rw [first]; rfl)
          simp only [rewriteNodes_cons, frozen] at failed ⊢
          exact ⟨[], node, rest, rfl, active, failed, rfl⟩
      | none =>
          rw [rewriteNodes_cons] at failed
          obtain ⟨before, inner, after, rfl, complete, broken, same⟩ := ih first failed
          refine ⟨node :: before, inner, after, rfl, complete, broken, ?_⟩
          simp only [rewriteNodes_cons, same]
          rfl

/-- What items become if one of them fails. -/
theorem rewriteItems_breaking (items : List Node) {run : Run σ} {error : InlineError}
    (active : run.failure = none)
    (failed : (rewriteItems plan fetch items run).2.failure = some error) :
    ∃ before item after, items = before ++ item :: after ∧
      let middle := (rewriteItems plan fetch before run).2
      let broken := rewriteItems plan fetch [item] middle
      middle.failure = none ∧ broken.2.failure = some error ∧
        rewriteItems plan fetch items run =
          ((rewriteItems plan fetch before run).1 ++ broken.1 ++ after, broken.2) := by
  induction items generalizing run with
  | nil => cases active.symm.trans failed
  | cons item rest ih =>
      have whole : rewriteItems plan fetch (item :: rest) run =
          let first := rewriteItems plan fetch [item] run
          let others := rewriteItems plan fetch rest first.2
          (first.1 ++ others.1, others.2) := rewriteItems_append [item] rest run
      rw [whole] at failed ⊢
      cases first : (rewriteItems plan fetch [item] run).2.failure with
      | some other =>
          have frozen := @rewriteItems_failed σ plan fetch (rewriteItems plan fetch [item] run).2
            rest (by rw [first]; rfl)
          simp only [frozen] at failed ⊢
          exact ⟨[], item, rest, rfl, active, failed, rfl⟩
      | none =>
          obtain ⟨before, inner, after, rfl, complete, broken, same⟩ := ih first failed
          have front : rewriteItems plan fetch (item :: before) run =
              let first := rewriteItems plan fetch [item] run
              let others := rewriteItems plan fetch before first.2
              (first.1 ++ others.1, others.2) := rewriteItems_append [item] before run
          refine ⟨item :: before, inner, after, rfl, ?_⟩
          simp only [front, same, List.append_assoc]
          exact ⟨complete, broken, trivial⟩

mutual

inductive Breaks (plan : Plan) (fetch : Fetch σ) : Run σ → Node → Node → InlineError → Prop
  /-- One of the parts breaks.  If they are those of a class whose styles are filled in, the styles
  stay as they are. -/
  | part {run : Run σ} {node inner inner' : Node} {before after : List Node} {error : InlineError}
      (unlisted : ∀ body, node ≠ .items body) (split : node.parts = before ++ inner :: after)
      (complete : (rewriteNodes plan fetch before (entered plan node run)).2.failure = none)
      (breaks : Breaks plan fetch (rewriteNodes plan fetch before (entered plan node run)).2 inner
        inner' error) :
      Breaks plan fetch run node
        (node.withParts
          ((rewriteNodes plan fetch before (entered plan node run)).1 ++ inner' :: after))
        error
  /-- The styles of a class ask for what is not there.  What they ask for before is put in. -/
  | styles {run middle : Run σ} {head : ClassHead}
      {decorators members rest decorators' members' rest' filled : List Node}
      {parent parent' : Node} {asked unread : List Ident} {id : Ident} {error : InlineError}
      (matching : isMatching plan parent = true)
      (decorated : decorators'.length = decorators.length)
      (membered : members'.length = members.length)
      (parts : rewriteNodes plan fetch (decorators ++ members ++ parent :: rest)
        (run.called (some (classNameOf head))) =
          (decorators' ++ members' ++ parent' :: rest', middle))
      (complete : middle.failure = none)
      (asks : readsOf (sightsOfAll plan.config.baseClass {} false (stylesCores members')) =
        asked ++ id :: unread)
      (met : ∀ other ∈ asked,
        Substitution.fault ⟨middle.progress, classNameOf head⟩ other = none)
      (unmet : Substitution.fault ⟨middle.progress, classNameOf head⟩ id = some error)
      (fills : Decision.MakesStyles members'
        ((asked.map fun other =>
            (other, Substitution.choice? ⟨middle.progress, classNameOf head⟩ other)) ++
          (id :: unread).map fun other => (other, none)) filled) :
      Breaks plan fetch run (.classNode head decorators members parent rest)
        (.classNode head decorators' filled parent' rest') error
  | items {run : Run σ} {before after back : List Node} {item : Node} {error : InlineError}
      (complete : (rewriteItems plan fetch before run).2.failure = none)
      (breaks : BreaksAt plan fetch (rewriteItems plan fetch before run).2 item back error) :
      Breaks plan fetch run (.items (before ++ item :: after))
        (.items ((rewriteItems plan fetch before run).1 ++ back ++ after)) error

inductive BreaksAt (plan : Plan) (fetch : Fetch σ) :
    Run σ → Node → List Node → InlineError → Prop
  | item {run : Run σ} {item item' : Node} {error : InlineError}
      (plain : ∀ declaration attributes, item ≠ .importDecl declaration attributes)
      (breaks : Breaks plan fetch run item item' error) : BreaksAt plan fetch run item [item'] error
  | refused {run : Run σ} {declaration : Import} {attributes : Node} {error : InlineError}
      (complete : (rewriteNode plan fetch attributes run).2.failure = none)
      (refuses : plan.refusal? (fetch.answers plan.filename
        (rewriteNode plan fetch attributes run).2.world) declaration = some error) :
      BreaksAt plan fetch run (.importDecl declaration attributes)
        [.importDecl declaration (rewriteNode plan fetch attributes run).1] error
  /-- The attributes break, and the import is refused all the same: its error is told. -/
  | overruled {run : Run σ} {declaration : Import} {attributes attributes' : Node}
      {lost error : InlineError}
      (breaks : Breaks plan fetch run attributes attributes' lost)
      (refuses : plan.refusal? (fetch.answers plan.filename
        (rewriteNode plan fetch attributes run).2.world) declaration = some error) :
      BreaksAt plan fetch run (.importDecl declaration attributes)
        [.importDecl declaration attributes'] error
  /-- The attributes of an import break that is none of a stylesheet. -/
  | attributes {run : Run σ} {declaration : Import} {attributes attributes' : Node}
      {error : InlineError}
      (breaks : Breaks plan fetch run attributes attributes' error)
      (passes : plan.refusal? (fetch.answers plan.filename
        (rewriteNode plan fetch attributes run).2.world) declaration = none)
      (other : plan.sheet? declaration = none) :
      BreaksAt plan fetch run (.importDecl declaration attributes)
        [.importDecl declaration attributes'] error
  /-- The attributes of an import of a stylesheet break, and the import makes room all the same. -/
  | overrun {run : Run σ} {declaration : Import} {attributes attributes' : Node} {binding : Ident}
      {path : Path} {content : String} {error : InlineError}
      (breaks : Breaks plan fetch run attributes attributes' error)
      (passes : plan.refusal? (fetch.answers plan.filename
        (rewriteNode plan fetch attributes run).2.world) declaration = none)
      (found : plan.sheet? declaration = some (binding, path))
      (answered : fetch.answers plan.filename (rewriteNode plan fetch attributes run).2.world path =
        .ok content) :
      BreaksAt plan fetch run (.importDecl declaration attributes)
        (inline plan binding path content (rewriteNode plan fetch attributes run).2).1 error

end

/-- What the items in the place of an import are if its attributes have broken. -/
theorem breaksAt_attributes {run : Run σ} {declaration : Import} {attributes : Node}
    {lost error : InlineError}
    (breaks : Breaks plan fetch run attributes (rewriteNode plan fetch attributes run).1 lost)
    (broken : (rewriteNode plan fetch attributes run).2.failure = some lost)
    (failed : (rewriteImport plan fetch declaration (rewriteNode plan fetch attributes run).1
      (rewriteNode plan fetch attributes run).2).2.failure = some error) :
    BreaksAt plan fetch run (.importDecl declaration attributes)
      (rewriteImport plan fetch declaration (rewriteNode plan fetch attributes run).1
        (rewriteNode plan fetch attributes run).2).1 error := by
  have told := @rewriteImport_failure σ plan fetch declaration
    (rewriteNode plan fetch attributes run).1 (rewriteNode plan fetch attributes run).2
  rw [failed, broken] at told
  rcases @rewriteImport_cases σ plan fetch declaration (rewriteNode plan fetch attributes run).1
      (rewriteNode plan fetch attributes run).2 with
    ⟨other, events, world, refuses, same⟩ | ⟨events, passes, unmade, same⟩ |
    ⟨binding, path, content, events, passes, found, answered, same⟩
  · rw [refuses, Option.some_or] at told
    cases told
    rw [same]
    exact .overruled breaks refuses
  · rw [passes, Option.none_or] at told
    cases told
    rw [same]
    exact .attributes breaks passes unmade
  · rw [passes, Option.none_or] at told
    cases told
    -- The items are the same as if nothing had been fetched.
    obtain ⟨items, later, made⟩ := @inline_progress σ plan binding path content
      (rewriteNode plan fetch attributes run).2.progress
    have left := BreaksAt.overrun breaks passes found answered
    obtain ⟨_, inlined⟩ := made (rewriteNode plan fetch attributes run).2 rfl
    rw [inlined] at left
    obtain ⟨_, fetched⟩ := made
      { (rewriteNode plan fetch attributes run).2 with
        events
        world := (fetch path plan.filename (rewriteNode plan fetch attributes run).2.world).2 } rfl
    rw [same, fetched]
    exact left

mutual

/-- A node whose rewriting fails breaks. -/
theorem breaks_node (node : Node) {run : Run σ} {error : InlineError} (active : run.failure = none)
    (failed : (rewriteNode plan fetch node run).2.failure = some error) :
    Breaks plan fetch run node (rewriteNode plan fetch node run).1 error := by
  by_cases listed : ∃ body, node = .items body
  · obtain ⟨body, rfl⟩ := listed
    rw [rewriteNode_items] at failed ⊢
    obtain ⟨before, item, after, rfl, complete, broken, same⟩ :=
      rewriteItems_breaking body active failed
    have breaks := breaks_item item complete broken
    simp only [same]
    exact .items complete breaks
  have unlisted : ∀ body, node ≠ .items body := fun body same => listed ⟨body, same⟩
  -- One of the parts breaks, in the run in which they are rewritten.
  have part {entry : Run σ} (enters : entered plan node run = entry) (ready : entry.failure = none)
      (broken : (rewriteNodes plan fetch node.parts entry).2.failure = some error) :
      Breaks plan fetch run node
        (node.withParts (rewriteNodes plan fetch node.parts entry).1) error := by
    subst enters
    obtain ⟨before, inner, after, split, complete, broken, same⟩ :=
      rewriteNodes_breaking node.parts ready broken
    have lighter : inner.weight < node.weight := by
      refine Node.weight_lt_of_part ?_
      rw [split]
      exact List.mem_append_right _ (List.mem_cons_self ..)
    have breaks := breaks_node inner complete broken
    rw [same]
    exact .part unlisted split complete breaks
  by_cases filled : IsFilled plan node
  · cases node with
    | classNode head decorators members parent rest =>
        have matching : isMatching plan parent = true := filled
        have enters : entered plan (.classNode head decorators members parent rest) run =
            run.called (some (classNameOf head)) := by
          rw [entered, if_pos matching]
        have whole := @rewriteNodes_class σ plan fetch decorators members parent rest
          (run.called (some (classNameOf head)))
        rw [rewriteNode_classNode_matching run _ _ _ _ _ active matching] at failed ⊢
        dsimp only at failed ⊢ whole
        cases broken : (rewriteNodes plan fetch (decorators ++ members ++ parent :: rest)
          (run.called (some (classNameOf head)))).2.failure with
        | some lost => 
            have filling := broken
            rw [whole] at filling
            rw [fillStyles_failed _ (by rw [filling]; rfl)] at failed ⊢
            cases filling.symm.trans failed
            have breaks := part enters active broken
            rw [Node.parts, whole, Node.withParts_classNode head parent _ rest _
              (length_rewriteNodes _ _) (length_rewriteNodes _ _)] at breaks
            exact breaks
        | none =>
            have called := @rewriteNodes_className σ plan fetch
              (decorators ++ members ++ parent :: rest) (run.called (some (classNameOf head)))
            rw [whole] at broken called
            obtain ⟨asked, id, unread, asks, met, unmet, fills⟩ :=
              fillStyles_breaking _ plan.config.baseClass broken called failed
            exact .styles matching (length_rewriteNodes _ _) (length_rewriteNodes _ _) whole broken
              asks met unmet fills
    | _ => cases filled
  · have enters : entered plan node run = run := by
      cases node with
      | classNode head decorators members parent rest => exact if_neg filled
      | _ => rfl
    rw [rewriteNode_parts active unlisted filled] at failed ⊢
    exact part enters active failed
termination_by (node.weight, 0)
decreasing_by
  · refine .left _ _ ?_
    subst_vars
    exact Node.weight_lt_of_part (List.mem_append_right _ (List.mem_cons_self ..))
  · exact .left _ _ lighter

/-- An item whose rewriting fails breaks. -/
theorem breaks_item (item : Node) {run : Run σ} {error : InlineError} (active : run.failure = none)
    (failed : (rewriteItems plan fetch [item] run).2.failure = some error) :
    BreaksAt plan fetch run item (rewriteItems plan fetch [item] run).1 error := by
  rcases item.isImport_or with ⟨declaration, attributes, rfl⟩ | plain
  · rw [rewriteItems_alone run declaration attributes active] at failed ⊢
    dsimp only at failed ⊢
    cases broken : (rewriteNode plan fetch attributes run).2.failure with
    | some lost =>
        have breaks := breaks_node attributes active broken
        exact breaksAt_attributes breaks broken failed
    | none =>
        have told := @rewriteImport_failure σ plan fetch declaration
          (rewriteNode plan fetch attributes run).1 (rewriteNode plan fetch attributes run).2
        rw [failed, broken, Option.or_none] at told
        rw [rewriteImport_stays _ _ _ told.symm]
        exact .refused broken told.symm
  · have alone : rewriteItems plan fetch [item] run =
        ([(rewriteNode plan fetch item run).1], (rewriteNode plan fetch item run).2) :=
      rewriteItems_cons run [] active plain
    rw [alone] at failed ⊢
    exact .item plain (breaks_node item active failed)
termination_by (item.weight, 1)
decreasing_by
  · refine .left _ _ ?_
    subst_vars
    rw [Node.weight]
    omega
  · exact .right _ Nat.zero_lt_one

end

end Rewrite

end StyleInline
