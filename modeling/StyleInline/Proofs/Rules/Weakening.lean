import StyleInline.Proofs.Tagging

/-!
# Weaker rules, and what is read under rules

Rules that let every reference stay may fill in styles of more classes without forbidding anything.
What is read where styles are filled in, in a result, was let stay or was put in.
-/

namespace StyleInline

open Script

namespace Rules

/-- Others let every reference stay, and fill in styles wherever some rules do. -/
structure Eases (rules wider : Rules) : Prop where
  fills : ∀ parent, rules.fills parent = true → wider.fills parent = true
  keeps : ∀ declaration, rules.keeps declaration → wider.keeps declaration
  replaces : ∀ declaration items,
    rules.replaces declaration items → wider.replaces declaration items
  reads : ∀ id choice, rules.reads id choice → wider.reads id choice
  still : ∀ id, wider.reads id none

section Eases

variable {rules wider : Rules}

mutual

/-- All that some rules allow is allowed by the eased ones, also where more styles are filled in. -/
theorem Eases.allows (eases : rules.Eases wider) {inStyles inStyles' isStyles isStyles' : Bool}
    (around : inStyles = true → inStyles' = true) (core : isStyles = true → isStyles' = true)
    {node result : Node} (allowed : rules.Allows inStyles isStyles node result) :
    wider.Allows inStyles' isStyles' node result := by
  cases node with
  | ident role id =>
      rw [Allows] at allowed ⊢
      split at allowed
      next read =>
        obtain ⟨inside, reads⟩ := Bool.and_eq_true_iff.mp read
        obtain ⟨choice, chosen, rfl⟩ := allowed
        rw [around inside, reads, Bool.and_self, if_pos rfl]
        exact ⟨choice, eases.reads id choice chosen, rfl⟩
      next =>
        subst allowed
        split
        · exact ⟨none, eases.still id, rfl⟩
        · rfl
  | importDecl declaration attributes =>
      obtain ⟨inner, attributes, rfl⟩ := allowed
      exact ⟨inner, eases.allows around id attributes, rfl⟩
  | exportNames declaration attributes =>
      obtain ⟨inner, attributes, rfl⟩ := allowed
      exact ⟨inner, eases.allows around id attributes, rfl⟩
  | classNode head decorators members parent rest =>
      obtain ⟨_, _, _, _, first, second, third, fourth, rfl⟩ := allowed
      exact ⟨_, _, _, _, eases.allowsAll around id first,
        eases.allowsAll around (eases.fills parent) second, eases.allows around id third,
        eases.allowsAll around id fourth, rfl⟩
  | member head key front inner back =>
      obtain ⟨_, _, _, _, first, second, third, fourth, rfl⟩ := allowed
      have inside : (inStyles || isStyles) = true → (inStyles' || isStyles') = true := by
        rw [Bool.or_eq_true_iff, Bool.or_eq_true_iff]
        exact Or.imp around core
      exact ⟨_, _, _, _, eases.allows around id first, eases.allowsAll around id second,
        eases.allows inside id third, eases.allowsAll around id fourth, rfl⟩
  | items body =>
      obtain ⟨inner, body, rfl⟩ := allowed
      exact ⟨inner, eases.allowsItems around body, rfl⟩
  | form shape parts =>
      obtain ⟨inner, parts, rfl⟩ := allowed
      exact ⟨inner, eases.allowsAll around id parts, rfl⟩
termination_by node.weight
decreasing_by all_goals (subst_vars; simp only [Node.weight]; omega)

theorem Eases.allowsAll (eases : rules.Eases wider)
    {inStyles inStyles' matching matching' : Bool} (around : inStyles = true → inStyles' = true)
    (class' : matching = true → matching' = true) {nodes results : List Node}
    (allowed : rules.AllowsAll inStyles matching nodes results) :
    wider.AllowsAll inStyles' matching' nodes results := by
  cases nodes with
  | nil => exact allowed
  | cons node rest =>
      obtain ⟨_, _, first, others, rfl⟩ := allowed
      have core : (matching && isStylesMember node) = true →
          (matching' && isStylesMember node) = true := by
        rw [Bool.and_eq_true_iff, Bool.and_eq_true_iff]
        exact And.imp_left class'
      exact ⟨_, _, eases.allows around core first, eases.allowsAll around class' others, rfl⟩
termination_by Node.weightOf nodes
decreasing_by all_goals (subst_vars; simp only [Node.weightOf]; omega)

theorem Eases.allowsItems (eases : rules.Eases wider) {inStyles inStyles' : Bool}
    (around : inStyles = true → inStyles' = true) {items results : List Node}
    (allowed : rules.AllowsItems inStyles items results) :
    wider.AllowsItems inStyles' items results := by
  cases items with
  | nil => exact allowed
  | cons item rest =>
      rcases item.isImport_or with ⟨declaration, attributes, rfl⟩ | plain
      · obtain ⟨_, _, replaced | ⟨inner, kept, attributes, rfl⟩, others, rfl⟩ := allowed
        · exact ⟨_, _, .inl (eases.replaces _ _ replaced), eases.allowsItems around others, rfl⟩
        · exact ⟨_, _, .inr ⟨inner, eases.keeps _ kept, eases.allows around id attributes, rfl⟩,
            eases.allowsItems around others, rfl⟩
      · rw [allowsItems_cons plain] at allowed ⊢
        obtain ⟨_, _, first, others, rfl⟩ := allowed
        exact ⟨_, _, eases.allows around id first, eases.allowsItems around others, rfl⟩
termination_by Node.weightOf items
decreasing_by all_goals (subst_vars; simp only [Node.weight, Node.weightOf]; omega)

end

end Eases

/-- All that is read where styles are filled in is of some kind. -/
def ReadsFilled (good : Ident → Prop) (seen : List Sight) : Prop :=
  ∀ sight ∈ seen, sight.spot.place = .filled → ∀ id, sight.read? = some id → good id

section ReadsFilled

variable {good : Ident → Prop}

theorem readsFilled_append {first second : List Sight} :
    ReadsFilled good (first ++ second) ↔ ReadsFilled good first ∧ ReadsFilled good second := by
  simp only [ReadsFilled, List.mem_append, or_imp, forall_and]

theorem readsFilled_name {spot : Spot} {role : Role} {id : Ident}
    (kind : spot.place = .filled → role.reads = true → good id) :
    ReadsFilled good [.name spot role id] := by
  intro sight member filled other read
  cases List.mem_singleton.mp member
  rw [Sight.read?] at read
  split at read
  next reads =>
    cases read
    exact kind filled reads
  next => cases read

/-- Nothing is read where nothing is read at all. -/
theorem readsFilled_unread {seen : List Sight} (unread : ∀ sight ∈ seen, sight.read? = none) :
    ReadsFilled good seen := by
  intro sight member filled id read
  cases (unread sight member).symm.trans read

/-- What rules let stay, and what they put in, is of some kind. -/
structure Promises (rules : Rules) (base : String) (good : Ident → Prop) : Prop where
  fills : rules.fills = extendsBase base
  kept : ∀ id, rules.reads id none → good id
  tags : ∀ id tag content, rules.reads id (some (tag, content)) → good tag
  items : ∀ declaration items, rules.replaces declaration items →
    ∀ spot, ReadsFilled good (sightsOfItems base spot items)

/-- A member of a class is a styles member as it was before. -/
theorem isStylesMember_result {rules : Rules} {inStyles isStyles : Bool} {node result : Node}
    (allowed : rules.Allows inStyles isStyles node result) :
    isStylesMember result = isStylesMember node := by
  rcases isMember_or node with ⟨head, key, front, core, back, rfl⟩ | other
  · obtain ⟨_, _, _, _, spelled, _, _, _, rfl⟩ := allowed
    exact isStylesMember_of_allows spelled
  · rw [isStylesMember_other other, isStylesMember_other (other_of_allows other allowed)]

variable {rules : Rules} {base : String}

mutual

/-- All that is read in a result where styles are filled in is of the promised kind. -/
theorem Promises.node (promises : rules.Promises base good) {inStyles isStyles : Bool}
    {node result : Node} (allowed : rules.Allows inStyles isStyles node result) (spot : Spot)
    (isStyles' : Bool) (around : spot.place = .filled → inStyles = true)
    (core : isStyles' = true → (inStyles || isStyles) = true) :
    ReadsFilled good (sights base spot isStyles' result) := by
  cases node with
  | ident role id =>
      rw [Allows] at allowed
      split at allowed
      next read =>
        obtain ⟨choice, chosen, rfl⟩ := allowed
        cases choice with
        | none => exact readsFilled_name fun _ _ => promises.kept id chosen
        | some template =>
            obtain ⟨tag, content⟩ := template
            rw [sights_written]
            exact readsFilled_name fun _ _ => promises.tags id tag content chosen
      next unread =>
        subst allowed
        refine readsFilled_name fun filled reads => absurd ?_ unread
        rw [around filled, reads]
        rfl
  | importDecl declaration attributes =>
      obtain ⟨inner, allowed, rfl⟩ := allowed
      rw [sights, readsFilled_append]
      exact ⟨promises.node allowed spot false around nofun,
        readsFilled_unread (by simp [Sight.read?])⟩
  | exportNames declaration attributes =>
      obtain ⟨inner, allowed, rfl⟩ := allowed
      rw [sights, readsFilled_append]
      exact ⟨promises.node allowed spot false around nofun,
        readsFilled_unread (by simp [Sight.read?])⟩
  | classNode head decorators members parent rest =>
      obtain ⟨_, _, parent', _, first, second, third, fourth, rfl⟩ := allowed
      have filling : extendsBase base parent' = true →
          (inStyles || rules.fills parent) = true := by
        intro extending
        cases inStyles with
        | true => rfl
        | false =>
            rw [extendsBase_of_allows third base] at extending
            rw [promises.fills, extending]
            rfl
      rw [sights]
      simp only [readsFilled_append]
      refine ⟨⟨⟨⟨promises.all first spot false around nofun,
        promises.all second spot _ around filling⟩, promises.node third spot false around nofun⟩,
        promises.all fourth spot false around nofun⟩, readsFilled_unread ?_⟩
      split <;> simp [Sight.read?]
  | member head key front inner back =>
      obtain ⟨_, _, _, _, first, second, third, fourth, rfl⟩ := allowed
      have beside : (if isStyles' then spot.within .beside else spot).place = .filled →
          inStyles = true := by
        cases isStyles' with
        | false => exact around
        | true => simpa [Spot.within] using around
      have filled : (if isStyles' then spot.within .filled else spot).place = .filled →
          (inStyles || isStyles) = true := by
        cases isStyles' with
        | false =>
            intro filled
            rw [around filled]
            rfl
        | true => exact fun _ => core rfl
      rw [sights]
      simp only [readsFilled_append]
      exact ⟨⟨⟨promises.node first _ false beside nofun, promises.all second _ false beside nofun⟩,
        promises.node third _ false filled nofun⟩, promises.all fourth _ false beside nofun⟩
  | items body =>
      obtain ⟨inner, allowed, rfl⟩ := allowed
      exact promises.among allowed spot around
  | form shape parts =>
      obtain ⟨inner, allowed, rfl⟩ := allowed
      exact promises.all allowed spot false around nofun
termination_by node.weight
decreasing_by all_goals (subst_vars; simp only [Node.weight]; omega)

theorem Promises.all (promises : rules.Promises base good) {inStyles matching : Bool}
    {nodes results : List Node} (allowed : rules.AllowsAll inStyles matching nodes results)
    (spot : Spot) (matching' : Bool) (around : spot.place = .filled → inStyles = true)
    (core : matching' = true → (inStyles || matching) = true) :
    ReadsFilled good (sightsOfAll base spot matching' results) := by
  cases nodes with
  | nil =>
      subst allowed
      exact readsFilled_unread nofun
  | cons node rest =>
      obtain ⟨result, _, first, others, rfl⟩ := allowed
      have member : (matching' && isStylesMember result) = true →
          (inStyles || matching && isStylesMember node) = true := by
        rw [isStylesMember_result first]
        intro styles
        obtain ⟨class', styles⟩ := Bool.and_eq_true_iff.mp styles
        rw [styles, Bool.and_true]
        exact core class'
      rw [sightsOfAll, readsFilled_append]
      exact ⟨promises.node first spot _ around member, promises.all others spot _ around core⟩
termination_by Node.weightOf nodes
decreasing_by all_goals (subst_vars; simp only [Node.weightOf]; omega)

theorem Promises.among (promises : rules.Promises base good) {inStyles : Bool}
    {items results : List Node} (allowed : rules.AllowsItems inStyles items results) (spot : Spot)
    (around : spot.place = .filled → inStyles = true) :
    ReadsFilled good (sightsOfItems base spot results) := by
  cases items with
  | nil =>
      subst allowed
      exact readsFilled_unread nofun
  | cons item rest =>
      rcases item.isImport_or with ⟨declaration, attributes, rfl⟩ | plain
      · obtain ⟨_, _, replaced | ⟨inner, kept, first, rfl⟩, others, rfl⟩ := allowed
        · rw [sightsOfItems_append, readsFilled_append]
          exact ⟨promises.items _ _ replaced spot, promises.among others spot around⟩
        · have inside := promises.node first (spot.inside declaration) false around nofun
          have later := promises.among others spot around
          rw [List.singleton_append, sightsOfItems, readsFilled_append]
          refine ⟨inside, ?_⟩
          rw [← List.singleton_append, readsFilled_append]
          exact ⟨readsFilled_unread (by simp [Sight.read?]), later⟩
      · rw [allowsItems_cons plain] at allowed
        obtain ⟨_, _, first, others, rfl⟩ := allowed
        rw [sightsOfItems_cons base spot _ (plain_of_allows plain first), readsFilled_append]
        exact ⟨promises.node first spot false around nofun, promises.among others spot around⟩
termination_by Node.weightOf items
decreasing_by all_goals (subst_vars; simp only [Node.weight, Node.weightOf]; omega)

end

end ReadsFilled

end Rules

end StyleInline
