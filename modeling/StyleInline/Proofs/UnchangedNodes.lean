import StyleInline.Proofs.Tagging

/-!
# Where there is nothing to rewrite

A node without an import of a stylesheet, and without a class whose styles are filled in, stays as
it is when it is rewritten.
-/

namespace StyleInline

open Script Rewrite

variable {σ : Type}

/-- Some sights give a rewriting nothing to do: no import is one of a stylesheet or names no path,
and all classes whose styles are filled in are `fine`. -/
structure Quiet (plan : Plan) (fine : List Node → Prop) (seen : List Sight) : Prop where
  imports : ∀ spot declaration, .imported spot declaration true ∈ seen →
    plan.fault? declaration = none ∧ plan.sheet? declaration = none
  classes : plan.config.tag.isSome = true →
    ∀ spot head members, .styled spot head members ∈ seen → fine members

theorem quiet_append {plan : Plan} {fine : List Node → Prop} {first second : List Sight} :
    Quiet plan fine (first ++ second) ↔ Quiet plan fine first ∧ Quiet plan fine second := by
  constructor
  · intro quiet
    constructor
    · constructor
      · intro spot declaration member
        exact quiet.imports spot declaration (List.mem_append_left _ member)
      · intro tagged spot head members member
        exact quiet.classes tagged spot head members (List.mem_append_left _ member)
    · constructor
      · intro spot declaration member
        exact quiet.imports spot declaration (List.mem_append_right _ member)
      · intro tagged spot head members member
        exact quiet.classes tagged spot head members (List.mem_append_right _ member)
  · rintro ⟨left, right⟩
    constructor
    · intro spot declaration member
      rcases List.mem_append.mp member with here | later
      · exact left.imports spot declaration here
      · exact right.imports spot declaration later
    · intro tagged spot head members member
      rcases List.mem_append.mp member with here | later
      · exact left.classes tagged spot head members here
      · exact right.classes tagged spot head members later

namespace Rewrite

/-- A step yields what it was given, and does nothing but report events. -/
def Still {α : Type} (given : α) (run : Run σ) (step : α × Run σ) : Prop :=
  ∃ events, step = (given, { run with events })

/-- A run that has not failed leaves the members of fine classes alone. -/
structure Run.Idle (fine : List Node → Prop) (run : Run σ) : Prop where
  active : run.failure = none
  fills : ∀ events name members, fine members →
    Still members { run.called name with events } (fillStyles members { run.called name with events })

section Still

variable {plan : Plan} {fetch : Fetch σ} {fine : List Node → Prop} {run : Run σ}

theorem Run.Idle.report (idle : run.Idle fine) (events : List Event) :
    Run.Idle fine { run with events } :=
  ⟨idle.active, idle.fills⟩

theorem Run.Idle.called (idle : run.Idle fine) (name : Option String) :
    (run.called name).Idle fine :=
  ⟨idle.active, fun events other members => idle.fills events other members⟩

mutual

/-- A node that gives a rewriting nothing to do stays as it is. -/
theorem still_node (spot : Spot) (isStyles : Bool) (node : Node) {run : Run σ}
    (idle : run.Idle fine)
    (quiet : Quiet plan fine (sights plan.config.baseClass spot isStyles node)) :
    Still node run (rewriteNode plan fetch node run) := by
  cases node with
  | ident role id => exact ⟨run.events, rfl⟩
  | importDecl declaration attributes =>
      obtain ⟨inner, _⟩ := quiet_append.mp quiet
      obtain ⟨events, same⟩ := still_node spot false attributes idle inner
      exact ⟨events, by rw [rewriteNode_importDecl, same]⟩
  | exportNames declaration attributes =>
      obtain ⟨inner, _⟩ := quiet_append.mp quiet
      obtain ⟨events, same⟩ := still_node spot false attributes idle inner
      exact ⟨events, by rw [rewriteNode_exportNames, same]⟩
  | classNode head decorators members parent rest =>
      obtain ⟨parts, itself⟩ := quiet_append.mp quiet
      obtain ⟨parts, ofRest⟩ := quiet_append.mp parts
      obtain ⟨parts, ofParent⟩ := quiet_append.mp parts
      obtain ⟨ofDecorators, ofMembers⟩ := quiet_append.mp parts
      cases matching : isMatching plan parent with
      | false =>
          obtain ⟨first, decorated⟩ := still_nodes spot false decorators idle ofDecorators
          obtain ⟨second, membered⟩ := still_nodes spot _ members (idle.report first) ofMembers
          obtain ⟨third, parented⟩ := still_node spot false parent (idle.report second) ofParent
          obtain ⟨fourth, rested⟩ := still_nodes spot false rest (idle.report third) ofRest
          refine ⟨fourth, ?_⟩
          rw [rewriteNode_classNode_other run _ _ _ _ _ idle.active matching]
          simp only [decorated, membered, parented, rested]
      | true =>
          obtain ⟨tagged, extending⟩ := Bool.and_eq_true_iff.mp matching
          have named := idle.called (some (classNameOf head))
          obtain ⟨first, decorated⟩ := still_nodes spot false decorators named ofDecorators
          obtain ⟨second, membered⟩ := still_nodes spot _ members (named.report first) ofMembers
          obtain ⟨third, parented⟩ := still_node spot false parent (named.report second) ofParent
          obtain ⟨fourth, rested⟩ := still_nodes spot false rest (named.report third) ofRest
          rw [if_pos extending] at itself
          obtain ⟨fifth, filled⟩ := idle.fills fourth (some (classNameOf head)) members
            (itself.classes tagged spot head members (List.mem_singleton_self _))
          refine ⟨fifth, ?_⟩
          rw [rewriteNode_classNode_matching run _ _ _ _ _ idle.active matching]
          simp only [decorated, membered, parented, rested, filled]
          rfl
  | member head key front core back =>
      obtain ⟨parts, ofBack⟩ := quiet_append.mp quiet
      obtain ⟨parts, ofCore⟩ := quiet_append.mp parts
      obtain ⟨ofKey, ofFront⟩ := quiet_append.mp parts
      obtain ⟨first, keyed⟩ := still_node _ false key idle ofKey
      obtain ⟨second, fronted⟩ := still_nodes _ false front (idle.report first) ofFront
      obtain ⟨third, cored⟩ := still_node _ false core (idle.report second) ofCore
      obtain ⟨fourth, backed⟩ := still_nodes _ false back (idle.report third) ofBack
      refine ⟨fourth, ?_⟩
      rw [rewriteNode_member]
      simp only [keyed, fronted, cored, backed]
  | items body =>
      obtain ⟨events, same⟩ := still_items spot body idle quiet
      exact ⟨events, by rw [rewriteNode_items, same]⟩
  | form shape parts =>
      obtain ⟨events, same⟩ := still_nodes spot false parts idle quiet
      exact ⟨events, by rw [rewriteNode_form, same]⟩
termination_by node.weight
decreasing_by all_goals (subst_vars; simp only [Node.weight]; omega)

theorem still_nodes (spot : Spot) (matching : Bool) (nodes : List Node) {run : Run σ}
    (idle : run.Idle fine)
    (quiet : Quiet plan fine (sightsOfAll plan.config.baseClass spot matching nodes)) :
    Still nodes run (rewriteNodes plan fetch nodes run) := by
  cases nodes with
  | nil => exact ⟨run.events, rfl⟩
  | cons node rest =>
      obtain ⟨here, others⟩ := quiet_append.mp quiet
      obtain ⟨first, same⟩ := still_node spot _ node idle here
      obtain ⟨second, also⟩ := still_nodes spot matching rest (idle.report first) others
      refine ⟨second, ?_⟩
      rw [rewriteNodes_cons]
      simp only [same, also]
termination_by Node.weightOf nodes
decreasing_by all_goals (subst_vars; simp only [Node.weightOf]; omega)

theorem still_items (spot : Spot) (items : List Node) {run : Run σ} (idle : run.Idle fine)
    (quiet : Quiet plan fine (sightsOfItems plan.config.baseClass spot items)) :
    Still items run (rewriteItems plan fetch items run) := by
  cases items with
  | nil => exact ⟨run.events, rfl⟩
  | cons item rest =>
      rcases item.isImport_or with ⟨declaration, attributes, rfl⟩ | plain
      · rw [sightsOfItems, ← List.singleton_append, quiet_append, quiet_append] at quiet
        obtain ⟨inner, here, others⟩ := quiet
        obtain ⟨passes, other⟩ := here.imports spot declaration (List.mem_singleton_self _)
        obtain ⟨first, same⟩ := still_node _ false attributes idle inner
        obtain ⟨second, stays⟩ := @rewriteImport_other σ plan fetch declaration attributes
          { run with events := first } passes other
        obtain ⟨third, also⟩ := still_items spot rest (idle.report second) others
        refine ⟨third, ?_⟩
        rw [rewriteItems_importDecl run declaration attributes rest idle.active]
        simp only [same, stays, also]
        rfl
      · rw [sightsOfItems_cons _ _ rest plain, quiet_append] at quiet
        obtain ⟨here, others⟩ := quiet
        obtain ⟨first, same⟩ := still_node spot false item idle here
        obtain ⟨second, also⟩ := still_items spot rest (idle.report first) others
        refine ⟨second, ?_⟩
        rw [rewriteItems_cons run rest idle.active plain]
        simp only [same, also]
termination_by Node.weightOf items
decreasing_by all_goals (subst_vars; simp only [Node.weight, Node.weightOf]; omega)

end

end Still

end Rewrite

end StyleInline
