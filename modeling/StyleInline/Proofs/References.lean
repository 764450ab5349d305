import Mathlib.Data.List.Forall2
import StyleInline.Proofs.BreakingPoint

/-!
# The references of a node

A node is found at a place, the numbers of the parts on the way to it.  The references among the
nodes are listed with their places, in visiting order; how a node is treated reference by reference
is told by what then stands at each place.
-/

namespace StyleInline

open Script

namespace Script.Node

/-- A node is an identifier, or else it is made of its parts. -/
def IsCompound (node : Node) : Prop := ∀ role id, node ≠ .ident role id

/-- What stands at a place. -/
def at? : List Nat → Node → Option Node
  | [], node => some node
  | index :: place, node => node.parts[index]?.bind (at? place)

section Parts

variable {node : Node}

theorem isIdent_or (node : Node) : (∃ role id, node = .ident role id) ∨ node.IsCompound := by
  cases node with
  | ident role id => exact .inl ⟨role, id, rfl⟩
  | _ => exact .inr fun _ _ same => nomatch same

/-- What holds of all identifiers, and of a node if it holds of its parts, holds of all nodes. -/
@[elab_as_elim]
theorem parts_induction {motive : Node → Prop} (ident : ∀ role id, motive (.ident role id))
    (compound : ∀ node : Node, node.IsCompound → (∀ part ∈ node.parts, motive part) → motive node)
    (node : Node) : motive node := by
  induction weight : node.weight using Nat.strongRecOn generalizing node with
  | _ weight ih =>
      subst weight
      rcases node.isIdent_or with ⟨role, id, rfl⟩ | made
      · exact ident role id
      · exact compound node made fun part member => ih _ (weight_lt_of_part member) part rfl

theorem withParts_parts (node : Node) : node.withParts node.parts = node := by
  cases node with
  | classNode head decorators members parent rest => exact withParts_classNode _ _ _ _ _ rfl rfl
  | member head key front core back => exact withParts_member _ _ _ _ _ _ _ rfl
  | ident | importDecl | exportNames | items | form => rfl

theorem isCompound_withParts (made : node.IsCompound) (parts : List Node) :
    (node.withParts parts).IsCompound := by
  cases node with
  | ident role id => exact absurd rfl (made role id)
  | _ => exact fun _ _ same => nomatch same

theorem exists_split {α : Type} {whole first second : List α}
    (same : whole.length = (first ++ second).length) :
    ∃ first' second', whole = first' ++ second' ∧ first'.length = first.length ∧
      second'.length = second.length := by
  rw [List.length_append] at same
  refine ⟨whole.take first.length, whole.drop first.length,
    (List.take_append_drop _ _).symm, ?_, ?_⟩
  · rw [List.length_take]
    omega
  · rw [List.length_drop]
    omega

theorem parts_withParts {parts : List Node} (made : node.IsCompound)
    (same : parts.length = node.parts.length) : (node.withParts parts).parts = parts := by
  cases node with
  | ident role id => exact absurd rfl (made role id)
  | importDecl declaration attributes | exportNames declaration attributes =>
      obtain ⟨part, rfl⟩ := List.length_eq_one_iff.mp same
      rfl
  | items body | form shape inner => rfl
  | classNode head decorators members parent rest =>
      obtain ⟨before, behind, rfl, first, second⟩ := exists_split same
      obtain ⟨decorators', members', rfl, ofDecorators, ofMembers⟩ := exists_split first
      obtain ⟨parent', rest', rfl⟩ := List.exists_cons_of_length_eq_add_one second
      rw [withParts_classNode head parent parent' rest rest' ofDecorators ofMembers]
      rfl
  | member head key front core back =>
      obtain ⟨before, behind, rfl, first, second⟩ := exists_split same
      obtain ⟨key', front', rfl⟩ := List.exists_cons_of_length_eq_add_one first
      obtain ⟨core', back', rfl⟩ := List.exists_cons_of_length_eq_add_one second
      rw [withParts_member head key key' core core' back back' (Nat.succ.inj first)]
      rfl

end Parts

end Script.Node

/-- A reference where it stands. -/
structure Reference where
  place : List Nat
  role : Role
  id : Ident
  deriving DecidableEq, Repr

namespace Reference

def under (index : Nat) (reference : Reference) : Reference :=
  { reference with place := index :: reference.place }

end Reference

mutual

/-- The references of a node, in visiting order. -/
def references : Node → List Reference
  | .ident role id => if role.reads then [⟨[], role, id⟩] else []
  | .importDecl _ attributes | .exportNames _ attributes => (references attributes).map (.under 0)
  | .classNode _ decorators members parent rest =>
    referencesFrom 0 decorators ++ referencesFrom decorators.length members ++
      ((references parent).map (.under (decorators.length + members.length)) ++
        referencesFrom (decorators.length + members.length + 1) rest)
  | .member _ key front core back =>
    (references key).map (.under 0) ++ referencesFrom 1 front ++
      ((references core).map (.under (front.length + 1)) ++ referencesFrom (front.length + 2) back)
  | .items body => referencesFrom 0 body
  | .form _ parts => referencesFrom 0 parts

/-- The references of some parts, of which the first has a number. -/
def referencesFrom : Nat → List Node → List Reference
  | _, [] => []
  | index, node :: rest =>
    (references node).map (.under index) ++ referencesFrom (index + 1) rest

end

section References

theorem referencesFrom_append (index : Nat) (first second : List Node) :
    referencesFrom index (first ++ second) =
      referencesFrom index first ++ referencesFrom (index + first.length) second := by
  induction first generalizing index with
  | nil => rfl
  | cons node rest ih =>
      rw [List.cons_append, referencesFrom, referencesFrom, ih, List.append_assoc, List.length_cons,
        Nat.add_right_comm, Nat.add_assoc]

theorem references_compound {node : Node} (made : node.IsCompound) :
    references node = referencesFrom 0 node.parts := by
  cases node with
  | ident role id => exact absurd rfl (made role id)
  | importDecl declaration attributes | exportNames declaration attributes =>
      exact (List.append_nil _).symm
  | items body | form shape parts => rfl
  | classNode head decorators members parent rest =>
      rw [references, Node.parts, referencesFrom_append, referencesFrom_append, referencesFrom]
      simp
  | member head key front core back =>
      rw [references, Node.parts, referencesFrom_append, referencesFrom, referencesFrom]
      simp

theorem mem_referencesFrom {index : Nat} {nodes : List Node} {reference : Reference} :
    reference ∈ referencesFrom index nodes ↔
      ∃ number part inner, nodes[number]? = some part ∧ inner ∈ references part ∧
        reference = inner.under (index + number) := by
  induction nodes generalizing index with
  | nil => simp [referencesFrom]
  | cons node rest ih =>
      rw [referencesFrom, List.mem_append, List.mem_map, ih]
      constructor
      · rintro (⟨inner, member, rfl⟩ | ⟨number, part, inner, here, member, rfl⟩)
        · exact ⟨0, node, inner, rfl, member, rfl⟩
        · refine ⟨number + 1, part, inner, here, member, ?_⟩
          rw [Nat.add_right_comm, Nat.add_assoc]
      · rintro ⟨number, part, inner, here, member, rfl⟩
        cases number with
        | zero =>
            cases here
            exact .inl ⟨inner, member, rfl⟩
        | succ number =>
            refine .inr ⟨number, part, inner, here, member, ?_⟩
            rw [Nat.add_right_comm, Nat.add_assoc]

/-- The references are the identifiers that are read, each where it stands. -/
theorem mem_references {node : Node} {reference : Reference} :
    reference ∈ references node ↔
      node.at? reference.place = some (.ident reference.role reference.id) ∧
        reference.role.reads = true := by
  induction node using Node.parts_induction generalizing reference with
  | ident role id =>
      rw [references]
      constructor
      · intro member
        split at member
        next read =>
          obtain rfl := List.mem_singleton.mp member
          exact ⟨rfl, read⟩
        next => cases member
      · rintro ⟨here, read⟩
        obtain ⟨place, role', id'⟩ := reference
        cases place with
        | nil =>
            cases here
            rw [if_pos read]
            exact List.mem_singleton_self _
        | cons index place => cases here
  | compound node made ih =>
      rw [references_compound made, mem_referencesFrom]
      constructor
      · rintro ⟨number, part, inner, here, member, rfl⟩
        obtain ⟨found, read⟩ := (ih part (List.mem_of_getElem? here)).mp member
        refine ⟨?_, read⟩
        rw [Reference.under, Node.at?, Nat.zero_add, here]
        exact found
      · rintro ⟨found, read⟩
        obtain ⟨place, role, id⟩ := reference
        cases place with
        | nil => exact absurd (Option.some.inj found) (made role id)
        | cons index place =>
            obtain ⟨part, here, inside⟩ := Option.bind_eq_some_iff.mp found
            refine ⟨index, part, ⟨place, role, id⟩, here, ?_, ?_⟩
            · exact (ih part (List.mem_of_getElem? here)).mpr ⟨inside, read⟩
            · rw [Reference.under, Nat.zero_add]

theorem pairwise_referencesFrom {index : Nat} {nodes : List Node}
    (each : ∀ node ∈ nodes, (references node).Pairwise fun reference other =>
      reference.place < other.place) :
    (referencesFrom index nodes).Pairwise fun reference other =>
      reference.place < other.place := by
  induction nodes generalizing index with
  | nil => exact .nil
  | cons node rest ih =>
      obtain ⟨here, later⟩ := List.forall_mem_cons.mp each
      rw [referencesFrom, List.pairwise_append]
      refine ⟨?_, ih later, ?_⟩
      · rw [List.pairwise_map]
        exact here.imp fun before => List.cons_lt_cons_iff.mpr (.inr ⟨rfl, before⟩)
      · intro reference member other member'
        obtain ⟨inner, _, rfl⟩ := List.mem_map.mp member
        obtain ⟨number, _, inner', _, _, rfl⟩ := mem_referencesFrom.mp member'
        refine List.cons_lt_cons_iff.mpr (.inl ?_)
        omega

/-- The references stand in the order of their places. -/
theorem pairwise_references (node : Node) :
    (references node).Pairwise fun reference other => reference.place < other.place := by
  induction node using Node.parts_induction with
  | ident role id =>
      rw [references]
      split
      · exact List.pairwise_singleton _ _
      · exact .nil
  | compound node made ih =>
      rw [references_compound made]
      exact pairwise_referencesFrom ih

end References

namespace Decision

section Making

variable {node result : Node} {nodes results : List Node} {decided : List Decision}

theorem MakesAll.append {nodes' results' : List Node} {decided' : List Decision}
    (first : MakesAll nodes decided results) (second : MakesAll nodes' decided' results') :
    MakesAll (nodes ++ nodes') (decided ++ decided') (results ++ results') := by
  induction nodes generalizing decided results with
  | nil =>
      obtain ⟨rfl, rfl⟩ := first
      exact second
  | cons node rest ih =>
      obtain ⟨here, others, result, rest', made, after, rfl, rfl⟩ := first
      exact ⟨here, _, result, _, made, ih after, List.append_assoc _ _ _, rfl⟩

theorem MakesAll.single (made : Makes node decided result) : MakesAll [node] decided [result] :=
  ⟨decided, [], result, [], made, ⟨rfl, rfl⟩, (List.append_nil _).symm, rfl⟩

theorem MakesAll.length (made : MakesAll nodes decided results) :
    results.length = nodes.length := by
  induction nodes generalizing decided results with
  | nil =>
      obtain ⟨_, rfl⟩ := made
      rfl
  | cons node rest ih =>
      obtain ⟨_, _, _, _, _, after, _, rfl⟩ := made
      rw [List.length_cons, List.length_cons, ih after]

theorem MakesAll.get {index : Nat} (made : MakesAll nodes decided results)
    (here : nodes[index]? = some node) :
    ∃ inner result, results[index]? = some result ∧ Makes node inner result := by
  induction nodes generalizing decided results index with
  | nil => cases here
  | cons first rest ih =>
      obtain ⟨ahead, _, result, _, treated, after, _, rfl⟩ := made
      cases index with
      | zero =>
          cases here
          exact ⟨ahead, result, rfl, treated⟩
      | succ index =>
          rw [List.getElem?_cons_succ] at here
          simp only [List.getElem?_cons_succ]
          exact ih after here

/-- A node that is made of parts is treated part by part. -/
theorem Makes.parts (treated : Makes node decided result) (made : node.IsCompound) :
    ∃ parts, MakesAll node.parts decided parts ∧ result = node.withParts parts := by
  cases node with
  | ident role id => exact absurd rfl (made role id)
  | importDecl declaration attributes | exportNames declaration attributes =>
      obtain ⟨inner, treated, rfl⟩ := treated
      exact ⟨[inner], .single treated, rfl⟩
  | items body | form shape inner => exact treated
  | classNode head decorators members parent rest =>
      obtain ⟨first, second, third, fourth, decorators', members', parent', rest', ofDecorators,
        ofMembers, ofParent, ofRest, rfl, rfl⟩ := treated
      refine ⟨decorators' ++ members' ++ parent' :: rest', ?_,
        (Node.withParts_classNode _ _ _ _ _ ofDecorators.length ofMembers.length).symm⟩
      have behind : MakesAll (parent :: rest) (third ++ fourth) (parent' :: rest') :=
        ⟨_, _, _, _, ofParent, ofRest, rfl, rfl⟩
      rw [List.append_assoc]
      exact (ofDecorators.append ofMembers).append behind
  | member head key front core back =>
      obtain ⟨first, second, third, fourth, key', front', core', back', ofKey, ofFront, ofCore,
        ofBack, rfl, rfl⟩ := treated
      refine ⟨key' :: front' ++ core' :: back', ?_,
        (Node.withParts_member _ _ _ _ _ _ _ ofFront.length).symm⟩
      have before : MakesAll (key :: front) (first ++ second) (key' :: front') :=
        ⟨_, _, _, _, ofKey, ofFront, rfl, rfl⟩
      have behind : MakesAll (core :: back) (third ++ fourth) (core' :: back') :=
        ⟨_, _, _, _, ofCore, ofBack, rfl, rfl⟩
      rw [List.append_assoc]
      exact before.append behind

/-- What is no reference stays where it is, around parts that are treated. -/
theorem Makes.at? (treated : Makes node decided result) {place : List Nat} {found : Node}
    (here : node.at? place = some found)
    (other : ∀ role id, found = .ident role id → role.reads = false) :
    ∃ parts, parts.length = found.parts.length ∧
      result.at? place = some (found.withParts parts) := by
  induction place generalizing node result decided with
  | nil =>
      cases here
      rcases found.isIdent_or with ⟨role, id, rfl⟩ | made
      · rw [Makes, other role id rfl, if_neg Bool.false_ne_true] at treated
        exact ⟨[], rfl, congrArg some treated.2⟩
      · obtain ⟨parts, all, rfl⟩ := treated.parts made
        exact ⟨parts, all.length, rfl⟩
  | cons index place ih =>
      obtain ⟨part, inside, further⟩ := Option.bind_eq_some_iff.mp here
      have made : node.IsCompound := by
        rintro role id rfl
        cases inside
      obtain ⟨parts, all, rfl⟩ := treated.parts made
      obtain ⟨inner, result, there, treated⟩ := all.get inside
      rw [Node.at?, Node.parts_withParts made all.length, there]
      exact ih treated further

/-- At the place of a reference stands what was decided about it. -/
def IsAt (result : Node) (reference : Reference) (decision : Decision) : Prop :=
  decision.1 = reference.id ∧
    result.at? reference.place = some (Rules.written reference.role reference.id decision.2)

theorem MakesAll.isAt {whole : Node} {front : List Node} (split : whole.parts = front ++ results)
    (made : MakesAll nodes decided results)
    (each : ∀ part ∈ nodes, ∀ {decided result}, Makes part decided result →
      List.Forall₂ (IsAt result) (references part) decided) :
    List.Forall₂ (IsAt whole) (referencesFrom front.length nodes) decided := by
  induction nodes generalizing decided results front with
  | nil =>
      obtain ⟨rfl, _⟩ := made
      exact .nil
  | cons node rest ih =>
      obtain ⟨here, later⟩ := List.forall_mem_cons.mp each
      obtain ⟨first, others, result, results, treated, after, rfl, rfl⟩ := made
      rw [referencesFrom]
      refine List.rel_append ?_ ?_
      · rw [List.forall₂_map_left_iff]
        refine (here treated).imp fun reference decision ⟨same, stands⟩ => ⟨same, ?_⟩
        rw [Reference.under, Node.at?, split, List.getElem?_append_right (Nat.le_refl _),
          Nat.sub_self]
        exact stands
      · have split' : whole.parts = (front ++ [result]) ++ results := by
          rw [split, List.append_assoc, List.singleton_append]
        have further := ih split' after later
        rw [List.length_append, List.length_singleton] at further
        exact further

theorem Makes.isAt (treated : Makes node decided result) :
    List.Forall₂ (IsAt result) (references node) decided := by
  induction node using Node.parts_induction generalizing decided result with
  | ident role id =>
      rw [Makes] at treated
      rw [references]
      split at treated
      next read =>
        obtain ⟨choice, rfl, rfl⟩ := treated
        rw [if_pos read]
        exact .cons ⟨rfl, rfl⟩ .nil
      next unread =>
        obtain ⟨rfl, rfl⟩ := treated
        rw [if_neg unread]
        exact .nil
  | compound node made ih =>
      obtain ⟨parts, all, rfl⟩ := treated.parts made
      rw [references_compound made]
      exact @MakesAll.isAt _ parts _ _ [] (Node.parts_withParts made all.length) all
        fun part member => ih part member

end Making

end Decision

end StyleInline
