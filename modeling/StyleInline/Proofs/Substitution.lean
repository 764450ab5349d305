import StyleInline.Proofs.Rules.Filling
import StyleInline.Substitution

/-!
# What a substitution does

A substitution fails at the first binding, in visiting order, that cannot be replaced.  What it
yields stands to what it was given by the rules below; a substitution that does not fail
replaces every binding that has a stylesheet.
-/

namespace StyleInline

open Script

/-- The bindings that are read among some sights, in order. -/
def readsOf (seen : List Sight) : List Ident := seen.filterMap Sight.read?

@[simp]
theorem readsOf_append (first second : List Sight) :
    readsOf (first ++ second) = readsOf first ++ readsOf second :=
  List.filterMap_append

def stylesCore? : Node → Option Node
  | .member head key front core back =>
    if isStylesMember (.member head key front core back) then some core else none
  | _ => none

/-- The cores of the styles members among the members of a class. -/
def stylesCores (members : List Node) : List Node := members.filterMap stylesCore?

theorem stylesCores_other {node : Node} (rest : List Node)
    (other : ∀ head key front core back, node ≠ .member head key front core back) :
    stylesCores (node :: rest) = stylesCores rest := by
  cases node with
  | member head key front core back => exact absurd rfl (other head key front core back)
  | _ => rfl

theorem stylesCores_member (head : MemberHead) (key : Node) (front : List Node) (core : Node)
    (back rest : List Node) :
    stylesCores (.member head key front core back :: rest) =
      if isStylesMember (.member head key front core back) then core :: stylesCores rest
      else stylesCores rest := by
  rw [stylesCores, List.filterMap_cons, stylesCore?]
  split
  next missing =>
    split at missing
    · cases missing
    · rw [if_neg ‹_›]
      rfl
  next found =>
    split at found
    · cases found
      rw [if_pos ‹_›]
      rfl
    · cases found

/-- The cores of rewritten members are the cores rewritten. -/
theorem Rules.AllowsAll.stylesCores {rules : Rules} {inStyles : Bool} {members results : List Node}
    (allowed : rules.AllowsAll inStyles false members results) :
    rules.AllowsAll inStyles false (stylesCores members) (stylesCores results) := by
  induction members generalizing results with
  | nil =>
      subst allowed
      rfl
  | cons node rest ih =>
      obtain ⟨node', rest', here, others, rfl⟩ := allowed
      rcases isMember_or node with ⟨head, key, front, core, back, rfl⟩ | other
      · obtain ⟨key', front', core', back', spelled, _, inner, _, rfl⟩ := here
        have styles : isStylesMember (.member head key' front' core' back') =
            isStylesMember (.member head key front core back) := isStylesMember_of_allows spelled
        rw [stylesCores_member, stylesCores_member, styles]
        rw [Bool.false_and, Bool.or_false] at inner
        split
        · exact ⟨_, _, inner, ih others, rfl⟩
        · exact ih others
      · rw [stylesCores_other _ other, stylesCores_other _ (other_of_allows other here)]
        exact ih others

namespace Substitution

def fault (setting : Setting) (id : Ident) : Option InlineError :=
  match outcome setting id with
  | .fail error => some error
  | _ => none

section Equations

variable (setting : Setting) (tally : Tally)

theorem substitute_classNode (head : ClassHead) (decorators members : List Node) (parent : Node)
    (rest : List Node) :
    substitute setting (.classNode head decorators members parent rest) tally =
      let first := substituteAll setting decorators tally
      let second := substituteAll setting members first.2
      let third := substitute setting parent second.2
      let fourth := substituteAll setting rest third.2
      (.classNode head first.1 second.1 third.1 fourth.1, fourth.2) := rfl

theorem substitute_member (head : MemberHead) (key : Node) (front : List Node) (core : Node)
    (back : List Node) :
    substitute setting (.member head key front core back) tally =
      let first := substitute setting key tally
      let second := substituteAll setting front first.2
      let third := substitute setting core second.2
      let fourth := substituteAll setting back third.2
      (.member head first.1 second.1 third.1 fourth.1, fourth.2) := rfl

theorem substitute_importDecl (declaration : Import) (attributes : Node) :
    substitute setting (.importDecl declaration attributes) tally =
      let inner := substitute setting attributes tally
      (.importDecl declaration inner.1, inner.2) := rfl

theorem substitute_exportNames (declaration : Export) (attributes : Node) :
    substitute setting (.exportNames declaration attributes) tally =
      let inner := substitute setting attributes tally
      (.exportNames declaration inner.1, inner.2) := rfl

theorem substitute_items (body : List Node) :
    substitute setting (.items body) tally =
      let inner := substituteAll setting body tally
      (.items inner.1, inner.2) := rfl

theorem substitute_form (shape : Shape) (parts : List Node) :
    substitute setting (.form shape parts) tally =
      let inner := substituteAll setting parts tally
      (.form shape inner.1, inner.2) := rfl

theorem substituteAll_cons (node : Node) (rest : List Node) :
    substituteAll setting (node :: rest) tally =
      let first := substitute setting node tally
      let others := substituteAll setting rest first.2
      (first.1 :: others.1, others.2) := rfl

theorem substituteMembers_member (head : MemberHead) (key : Node) (front : List Node) (core : Node)
    (back rest : List Node) :
    substituteMembers setting (.member head key front core back :: rest) tally =
      if isStylesMember (.member head key front core back) then
        let inner := substitute setting core tally
        let others := substituteMembers setting rest inner.2
        (.member head key front inner.1 back :: others.1, others.2)
      else
        let others := substituteMembers setting rest tally
        (.member head key front core back :: others.1, others.2) := by
  rw [substituteMembers]
  cases isStylesMember (.member head key front core back) <;> rfl

theorem substituteMembers_other {node : Node} {rest : List Node}
    (other : ∀ head key front core back, node ≠ .member head key front core back) :
    substituteMembers setting (node :: rest) tally =
      let others := substituteMembers setting rest tally
      (node :: others.1, others.2) := by
  rw [substituteMembers]
  · rfl
  · exact other

theorem substitute_ident_failed (role : Role) (id : Ident) (failed : tally.failure.isSome = true) :
    substitute setting (.ident role id) tally = (.ident role id, tally) := by
  change (if tally.failure.isSome then _ else _ : Step Node) tally = _
  rw [if_pos failed]
  rfl

theorem substitute_ident_unread (role : Role) (id : Ident) (unread : role.reads = false) :
    substitute setting (.ident role id) tally = (.ident role id, tally) := by
  cases failed : tally.failure.isSome with
  | true => exact substitute_ident_failed setting tally role id failed
  | false =>
      change (if tally.failure.isSome then _ else _ : Step Node) tally = _
      rw [failed]
      cases role <;> first | rfl | cases unread

/-- A reference that is reached before any failure is treated as its outcome tells. -/
theorem substitute_ident_read (role : Role) (id : Ident) (read : role.reads = true)
    (active : tally.failure = none) :
    substitute setting (.ident role id) tally =
      match outcome setting id with
      | .keep => (.ident role id, tally)
      | .replace template =>
        (if role = .shorthand then .form .pair [.form (.key id.name) [], template] else template,
          { tally with count := tally.count + 1 })
      | .fail error => (.ident role id, { tally with failure := some error }) := by
  have inactive : tally.failure.isSome = false := by rw [active]; rfl
  change (if tally.failure.isSome then _ else _ : Step Node) tally = _
  rw [inactive]
  cases role with
  | use =>
      change replaceReference setting id _ _ tally = _
      simp only [replaceReference]
      cases outcome setting id <;> rfl
  | shorthand =>
      change replaceReference setting id _ _ tally = _
      simp only [replaceReference]
      cases outcome setting id <;> rfl
  | bind | element | plain => cases read

end Equations

/-- A template that replaces a reference has the tag and the text that are known. -/
theorem outcome_replace {setting : Setting} {id : Ident} {template : Node}
    (replaced : outcome setting id = .replace template) :
    ∃ tag binding, setting.progress.tag = some tag ∧
      setting.progress.binding? id = some binding ∧
      template = Emit.template tag binding.content := by
  rw [outcome] at replaced
  split at replaced
  · split at replaced <;> cases replaced
  next binding bound =>
    split at replaced
    · cases replaced
    next tag named =>
      cases replaced
      exact ⟨tag, binding, named, bound, rfl⟩

/-- A reference that is kept is none to a stylesheet. -/
theorem outcome_keep {setting : Setting} {id : Ident} (kept : outcome setting id = .keep) :
    id ∉ setting.progress.scan.styleImports := by
  rw [outcome] at kept
  split at kept
  · split at kept
    next => cases kept
    next other => simpa using other
  · split at kept <;> cases kept

/-- The first failure, of two one after the other. -/
theorem or_findSome?_append {α β : Type} (start : Option β) (find : α → Option β)
    (first second : List α) :
    start.or ((first ++ second).findSome? find) =
      (start.or (first.findSome? find)).or (second.findSome? find) := by
  rw [List.findSome?_append, Option.or_assoc]

/-- If a failure depends on the binding alone, the first binding that has one decides. -/
theorem findSome?_guarded {α β : Type} (isBad : α → Bool) (failure : α → β) (items : List α) :
    (items.findSome? fun item => if isBad item then some (failure item) else none) =
      (items.find? isBad).map failure := by
  induction items with
  | nil => rfl
  | cons item rest ih =>
      rw [List.findSome?_cons, List.find?_cons, ih]
      cases isBad item <;> rfl

mutual

/-- A substitution fails at the first binding that cannot be replaced. -/
theorem substitute_failure (setting : Setting) (base : String) (spot : Spot) (isStyles : Bool)
    (node : Node) (tally : Tally) :
    (substitute setting node tally).2.failure =
      tally.failure.or ((readsOf (sights base spot isStyles node)).findSome? (fault setting)) := by
  cases node with
  | ident role id =>
      cases failed : tally.failure with
      | some error =>
          rw [substitute_ident_failed setting tally role id (by rw [failed]; rfl), failed]
          rfl
      | none =>
          cases read : role.reads with
          | false =>
              rw [substitute_ident_unread setting tally role id read, failed]
              simp [sights, readsOf, Sight.read?, read]
          | true =>
              rw [substitute_ident_read setting tally role id read failed]
              cases kind : outcome setting id <;>
                simp [sights, readsOf, Sight.read?, read, fault, kind, failed]
  | importDecl declaration attributes =>
      rw [substitute_importDecl, sights, readsOf_append]
      have inner := substitute_failure setting base spot false attributes tally
      have unread : readsOf [.imported spot declaration false] = [] := rfl
      simpa [unread] using inner
  | exportNames declaration attributes =>
      rw [substitute_exportNames, sights, readsOf_append]
      have inner := substitute_failure setting base spot false attributes tally
      have unread : readsOf ((Scan.exportedBindings declaration).map (Sight.exported spot)) = [] :=
        by simp [readsOf, List.filterMap_map, Function.comp_def, Sight.read?]
      simpa [unread] using inner
  | classNode head decorators members parent rest =>
      have unread : readsOf (if extendsBase base parent then [.styled spot head members] else [])
          = [] := by
        split <;> rfl
      rw [substitute_classNode, sights]
      simp only [readsOf_append, unread, List.append_nil, or_findSome?_append]
      rw [substituteAll_failure setting base spot false rest,
        substitute_failure setting base spot false parent,
        substituteAll_failure setting base spot (extendsBase base parent) members,
        substituteAll_failure setting base spot false decorators]
  | member head key front core back =>
      rw [substitute_member, sights]
      simp only [readsOf_append, or_findSome?_append]
      rw [substituteAll_failure setting base _ false back,
        substitute_failure setting base _ false core,
        substituteAll_failure setting base _ false front,
        substitute_failure setting base _ false key]
  | items body =>
      rw [substitute_items, sights]
      exact substituteItems_failure setting base spot body tally
  | form shape parts =>
      rw [substitute_form, sights]
      exact substituteAll_failure setting base spot false parts tally
termination_by node.weight
decreasing_by all_goals (subst_vars; simp only [Node.weight]; omega)

theorem substituteAll_failure (setting : Setting) (base : String) (spot : Spot) (matching : Bool)
    (nodes : List Node) (tally : Tally) :
    (substituteAll setting nodes tally).2.failure =
      tally.failure.or
        ((readsOf (sightsOfAll base spot matching nodes)).findSome? (fault setting)) := by
  cases nodes with
  | nil => exact (Option.or_none ..).symm
  | cons node rest =>
      rw [substituteAll_cons, sightsOfAll, readsOf_append, or_findSome?_append]
      rw [substituteAll_failure setting base spot matching rest,
        substitute_failure setting base spot _ node]
termination_by Node.weightOf nodes
decreasing_by all_goals (subst_vars; simp only [Node.weightOf]; omega)

theorem substituteItems_failure (setting : Setting) (base : String) (spot : Spot)
    (items : List Node) (tally : Tally) :
    (substituteAll setting items tally).2.failure =
      tally.failure.or ((readsOf (sightsOfItems base spot items)).findSome? (fault setting)) := by
  cases items with
  | nil => exact (Option.or_none ..).symm
  | cons item rest =>
      have others := substituteItems_failure setting base spot rest
      rcases item.isImport_or with ⟨declaration, attributes, rfl⟩ | plain
      · have inner := substitute_failure setting base (spot.inside declaration) false attributes
        rw [substituteAll_cons, substitute_importDecl, sightsOfItems, readsOf_append,
          or_findSome?_append]
        rw [others, inner]
        rfl
      · rw [substituteAll_cons, sightsOfItems_cons base spot rest plain, readsOf_append,
          or_findSome?_append]
        rw [others, substitute_failure setting base spot false item]
termination_by Node.weightOf items
decreasing_by all_goals (subst_vars; simp only [Node.weight, Node.weightOf]; omega)

end

/-- A substitution that does not fail has not failed before. -/
theorem substituteAll_active {setting : Setting} {nodes : List Node} {tally : Tally}
    (active : (substituteAll setting nodes tally).2.failure = none) : tally.failure = none := by
  rw [substituteAll_failure setting "" {} false] at active
  exact (Option.or_eq_none_iff.mp active).1

theorem substitute_active {setting : Setting} {node : Node} {tally : Tally}
    (active : (substitute setting node tally).2.failure = none) : tally.failure = none := by
  rw [substitute_failure setting "" {} false] at active
  exact (Option.or_eq_none_iff.mp active).1

/-- A substitution in the styles members of a class fails at the first binding in their cores that
cannot be replaced. -/
theorem substituteMembers_failure (setting : Setting) (base : String) (members : List Node)
    (tally : Tally) :
    (substituteMembers setting members tally).2.failure =
      tally.failure.or
        ((readsOf (sightsOfAll base {} false (stylesCores members))).findSome?
          (fault setting)) := by
  induction members generalizing tally with
  | nil => exact (Option.or_none ..).symm
  | cons node rest ih =>
      rcases Rules.isMember_or node with ⟨head, key, front, core, back, rfl⟩ | other
      · rw [substituteMembers_member, stylesCores_member]
        split
        · rw [sightsOfAll, readsOf_append, or_findSome?_append, ih,
            substitute_failure setting base {} _ core]
        · rw [ih]
      · rw [substituteMembers_other setting tally other, stylesCores_other rest other, ih]

/-- The rules that a substitution follows; if it is `whole`, it has not failed. -/
def rules (setting : Setting) (base : String) (whole : Bool) : Rules where
  fills := extendsBase base
  keeps _ := True
  replaces _ _ := False
  reads id
    | none => whole = true → outcome setting id = .keep
    | some (tag, content) =>
      setting.progress.tag = some tag ∧
        ∃ binding, setting.progress.binding? id = some binding ∧ binding.content = content

/-- A substitution may have stopped at once. -/
theorem rules_isReflexive (setting : Setting) (base : String) :
    (rules setting base false).IsReflexive :=
  ⟨fun _ => trivial, fun _ whole => absurd whole Bool.false_ne_true⟩

section Allowed

variable {setting : Setting} {base : String} {whole : Bool}

theorem allows_ident (isStyles : Bool) (role : Role) (id : Ident) (tally : Tally)
    (active : whole = true → (substitute setting (.ident role id) tally).2.failure = none) :
    (rules setting base whole).Allows true isStyles (.ident role id)
      (substitute setting (.ident role id) tally).1 := by
  cases read : role.reads with
  | false =>
      rw [substitute_ident_unread setting tally role id read, Rules.Allows, read]
      rfl
  | true =>
      rw [Rules.Allows, read, Bool.and_self, if_pos rfl]
      cases failed : tally.failure with
      | some error =>
          rw [substitute_ident_failed setting tally role id (by rw [failed]; rfl)] at active ⊢
          refine ⟨none, fun is => ?_, rfl⟩
          cases failed.symm.trans (active is)
      | none =>
          rw [substitute_ident_read setting tally role id read failed] at active ⊢
          cases kind : outcome setting id with
          | keep => exact ⟨none, fun _ => kind, rfl⟩
          | replace template =>
              obtain ⟨tag, binding, named, bound, rfl⟩ := outcome_replace kind
              refine ⟨some (tag, binding.content), ⟨named, binding, bound, rfl⟩, ?_⟩
              cases role <;> rfl
          | fail error =>
              refine ⟨none, fun is => ?_, rfl⟩
              rw [kind] at active
              cases active is

mutual

/-- What a substitution yields is allowed by its rules. -/
theorem allows_substitute (isStyles : Bool) (node : Node) (tally : Tally)
    (active : whole = true → (substitute setting node tally).2.failure = none) :
    (rules setting base whole).Allows true isStyles node (substitute setting node tally).1 := by
  cases node with
  | ident role id => exact allows_ident isStyles role id tally active
  | importDecl declaration attributes =>
      exact ⟨_, allows_substitute false attributes tally active, rfl⟩
  | exportNames declaration attributes =>
      exact ⟨_, allows_substitute false attributes tally active, rfl⟩
  | classNode head decorators members parent rest =>
      rw [substitute_classNode] at active ⊢
      have third := fun is => substituteAll_active (active is)
      have second := fun is => substitute_active (third is)
      have first := fun is => substituteAll_active (second is)
      exact ⟨_, _, _, _, allows_substituteAll false decorators _ first,
        allows_substituteAll _ members _ second, allows_substitute false parent _ third,
        allows_substituteAll false rest _ active, rfl⟩
  | member head key front core back =>
      rw [substitute_member] at active ⊢
      have third := fun is => substituteAll_active (active is)
      have second := fun is => substitute_active (third is)
      have first := fun is => substituteAll_active (second is)
      exact ⟨_, _, _, _, allows_substitute false key _ first,
        allows_substituteAll false front _ second, allows_substitute false core _ third,
        allows_substituteAll false back _ active, rfl⟩
  | items body => exact ⟨_, allows_substituteItems body tally active, rfl⟩
  | form shape parts => exact ⟨_, allows_substituteAll false parts tally active, rfl⟩
termination_by node.weight
decreasing_by all_goals (subst_vars; simp only [Node.weight]; omega)

theorem allows_substituteAll (matching : Bool) (nodes : List Node) (tally : Tally)
    (active : whole = true → (substituteAll setting nodes tally).2.failure = none) :
    (rules setting base whole).AllowsAll true matching nodes
      (substituteAll setting nodes tally).1 := by
  cases nodes with
  | nil => rfl
  | cons node rest =>
      rw [substituteAll_cons] at active ⊢
      have first := fun is => substituteAll_active (active is)
      exact ⟨_, _, allows_substitute _ node tally first,
        allows_substituteAll matching rest _ active, rfl⟩
termination_by Node.weightOf nodes
decreasing_by all_goals (subst_vars; simp only [Node.weightOf]; omega)

theorem allows_substituteItems (items : List Node) (tally : Tally)
    (active : whole = true → (substituteAll setting items tally).2.failure = none) :
    (rules setting base whole).AllowsItems true items (substituteAll setting items tally).1 := by
  cases items with
  | nil => rfl
  | cons item rest =>
      rw [substituteAll_cons] at active ⊢
      have first := fun is => substituteAll_active (active is)
      have others := allows_substituteItems rest _ active
      rcases item.isImport_or with ⟨declaration, attributes, rfl⟩ | plain
      · rw [substitute_importDecl] at first ⊢
        exact ⟨_, _, .inr ⟨_, trivial, allows_substitute false attributes tally first, rfl⟩,
          others, rfl⟩
      · rw [Rules.allowsItems_cons plain]
        exact ⟨_, _, allows_substitute false item tally first, others, rfl⟩
termination_by Node.weightOf items
decreasing_by all_goals (subst_vars; simp only [Node.weight, Node.weightOf]; omega)

end

theorem substituteMembers_active {members : List Node} {tally : Tally}
    (active : (substituteMembers setting members tally).2.failure = none) :
    tally.failure = none := by
  rw [substituteMembers_failure setting "" members] at active
  exact (Option.or_eq_none_iff.mp active).1

/-- A substitution in the styles members of a class goes through their cores. -/
theorem fills_substituteMembers (members : List Node) (tally : Tally)
    (active : whole = true → (substituteMembers setting members tally).2.failure = none) :
    (rules setting base whole).Fills members (substituteMembers setting members tally).1 := by
  induction members generalizing tally with
  | nil => rfl
  | cons node rest ih =>
      rcases Rules.isMember_or node with ⟨head, key, front, core, back, rfl⟩ | other
      · rw [substituteMembers_member] at active ⊢
        rw [Rules.Fills]
        cases styles : isStylesMember (.member head key front core back) with
        | true =>
            rw [styles, if_pos rfl] at active
            simp only [↓reduceIte]
            have first := fun is => substituteMembers_active (active is)
            exact ⟨_, _, allows_substitute false core tally first, ih _ active, rfl⟩
        | false =>
            rw [styles, if_neg Bool.false_ne_true] at active
            simp only [Bool.false_eq_true, ↓reduceIte]
            exact ⟨_, _, rfl, ih _ active, rfl⟩
      · rw [substituteMembers_other setting _ other] at active ⊢
        rw [Rules.fills_cons other]
        exact ⟨_, ih _ active, rfl⟩

end Allowed

end Substitution

end StyleInline
