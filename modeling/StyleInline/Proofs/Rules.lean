import StyleInline.Emit
import StyleInline.Proofs.Sights

/-!
# Rules for the places of nodes

What may stand in the place of a node is told by rules that know no order: which imports may
stay, which items may stand in the place of an import, and what may stand for a binding that is
read where styles are filled in.  Everything else stays as it is.
-/

namespace StyleInline

open Script

/-- Rules for what may stand in the place of nodes. -/
structure Rules where
  /-- A class with this parent has its styles filled in. -/
  fills : Node → Bool
  /-- The import may stay. -/
  keeps : Import → Prop
  /-- The items may stand in the place of the import. -/
  replaces : Import → List Node → Prop
  /-- A binding that is read where styles are filled in may stay, or a template with this tag and
  this text may stand for it. -/
  reads : Ident → Option (Ident × String) → Prop

namespace Rules

def written (role : Role) (id : Ident) : Option (Ident × String) → Node
  | none => .ident role id
  | some (tag, content) =>
    match role with
    | .shorthand => .form .pair [.form (.key id.name) [], Emit.template tag content]
    | _ => Emit.template tag content

mutual

/-- The result may stand in the place of the node; `inStyles` tells that styles are filled in around
it, and `isStyles` that they are filled in in its core. -/
def Allows (rules : Rules) (inStyles isStyles : Bool) : Node → Node → Prop
  | .ident role id, result =>
    if inStyles && role.reads then ∃ choice, rules.reads id choice ∧ result = written role id choice
    else result = .ident role id
  | .importDecl declaration attributes, result =>
    ∃ inner, rules.Allows inStyles false attributes inner ∧ result = .importDecl declaration inner
  | .exportNames declaration attributes, result =>
    ∃ inner, rules.Allows inStyles false attributes inner ∧ result = .exportNames declaration inner
  | .classNode head decorators members parent rest, result =>
    ∃ decorators' members' parent' rest',
      rules.AllowsAll inStyles false decorators decorators' ∧
      rules.AllowsAll inStyles (rules.fills parent) members members' ∧
      rules.Allows inStyles false parent parent' ∧ rules.AllowsAll inStyles false rest rest' ∧
      result = .classNode head decorators' members' parent' rest'
  | .member head key front core back, result =>
    ∃ key' front' core' back',
      rules.Allows inStyles false key key' ∧ rules.AllowsAll inStyles false front front' ∧
      rules.Allows (inStyles || isStyles) false core core' ∧
      rules.AllowsAll inStyles false back back' ∧
      result = .member head key' front' core' back'
  | .items body, result => ∃ inner, rules.AllowsItems inStyles body inner ∧ result = .items inner
  | .form shape parts, result =>
    ∃ inner, rules.AllowsAll inStyles false parts inner ∧ result = .form shape inner

/-- The results may stand in the place of the nodes; `matching` tells that these are the members of
a class whose styles are filled in. -/
def AllowsAll (rules : Rules) (inStyles matching : Bool) : List Node → List Node → Prop
  | [], results => results = []
  | node :: rest, results =>
    ∃ first others, rules.Allows inStyles (matching && isStylesMember node) node first ∧
      rules.AllowsAll inStyles matching rest others ∧ results = first :: others

/-- The results may stand in the place of the items. -/
def AllowsItems (rules : Rules) (inStyles : Bool) : List Node → List Node → Prop
  | [], results => results = []
  | .importDecl declaration attributes :: rest, results =>
    ∃ first others,
      (rules.replaces declaration first ∨
        ∃ inner, rules.keeps declaration ∧ rules.Allows inStyles false attributes inner ∧
          first = [.importDecl declaration inner]) ∧
      rules.AllowsItems inStyles rest others ∧ results = first ++ others
  | item :: rest, results =>
    ∃ first others, rules.Allows inStyles false item first ∧
      rules.AllowsItems inStyles rest others ∧ results = first :: others

end

theorem allowsItems_cons {rules : Rules} {inStyles : Bool} {item : Node} {rest results : List Node}
    (plain : ∀ declaration attributes, item ≠ .importDecl declaration attributes) :
    rules.AllowsItems inStyles (item :: rest) results ↔
      ∃ first others, rules.Allows inStyles false item first ∧
        rules.AllowsItems inStyles rest others ∧ results = first :: others := by
  rw [AllowsItems]
  exact plain

/-- All that some rules allow is allowed by others. -/
structure Within (rules wider : Rules) : Prop where
  fills : rules.fills = wider.fills
  keeps : ∀ declaration, rules.keeps declaration → wider.keeps declaration
  replaces : ∀ declaration items,
    rules.replaces declaration items → wider.replaces declaration items
  reads : ∀ id choice, rules.reads id choice → wider.reads id choice

mutual

theorem Within.allows {rules wider : Rules} (within : rules.Within wider)
    (inStyles isStyles : Bool) {node result : Node}
    (allowed : rules.Allows inStyles isStyles node result) :
    wider.Allows inStyles isStyles node result := by
  cases node with
  | ident role id =>
      rw [Allows] at allowed ⊢
      split at allowed
      next read =>
        obtain ⟨choice, reads, rfl⟩ := allowed
        rw [if_pos read]
        exact ⟨choice, within.reads id choice reads, rfl⟩
      next unread => rwa [if_neg unread]
  | importDecl declaration attributes =>
      obtain ⟨inner, attributes, rfl⟩ := allowed
      exact ⟨inner, within.allows _ _ attributes, rfl⟩
  | exportNames declaration attributes =>
      obtain ⟨inner, attributes, rfl⟩ := allowed
      exact ⟨inner, within.allows _ _ attributes, rfl⟩
  | classNode head decorators members parent rest =>
      obtain ⟨_, _, _, _, first, second, third, fourth, rfl⟩ := allowed
      rw [within.fills] at second
      exact ⟨_, _, _, _, within.allowsAll _ _ first, within.allowsAll _ _ second,
        within.allows _ _ third, within.allowsAll _ _ fourth, rfl⟩
  | member head key front core back =>
      obtain ⟨_, _, _, _, first, second, third, fourth, rfl⟩ := allowed
      exact ⟨_, _, _, _, within.allows _ _ first, within.allowsAll _ _ second,
        within.allows _ _ third, within.allowsAll _ _ fourth, rfl⟩
  | items body =>
      obtain ⟨inner, body, rfl⟩ := allowed
      exact ⟨inner, within.allowsItems _ body, rfl⟩
  | form shape parts =>
      obtain ⟨inner, parts, rfl⟩ := allowed
      exact ⟨inner, within.allowsAll _ _ parts, rfl⟩
termination_by node.weight
decreasing_by all_goals (subst_vars; simp only [Node.weight]; omega)

theorem Within.allowsAll {rules wider : Rules} (within : rules.Within wider)
    (inStyles matching : Bool) {nodes results : List Node}
    (allowed : rules.AllowsAll inStyles matching nodes results) :
    wider.AllowsAll inStyles matching nodes results := by
  cases nodes with
  | nil => exact allowed
  | cons node rest =>
      obtain ⟨_, _, first, others, rfl⟩ := allowed
      exact ⟨_, _, within.allows _ _ first, within.allowsAll _ _ others, rfl⟩
termination_by Node.weightOf nodes
decreasing_by all_goals (subst_vars; simp only [Node.weightOf]; omega)

theorem Within.allowsItems {rules wider : Rules} (within : rules.Within wider) (inStyles : Bool)
    {items results : List Node} (allowed : rules.AllowsItems inStyles items results) :
    wider.AllowsItems inStyles items results := by
  cases items with
  | nil => exact allowed
  | cons item rest =>
      rcases item.isImport_or with ⟨declaration, attributes, rfl⟩ | plain
      · obtain ⟨_, _, replaced | ⟨inner, kept, attributes, rfl⟩, others, rfl⟩ := allowed
        · exact ⟨_, _, .inl (within.replaces _ _ replaced), within.allowsItems _ others, rfl⟩
        · exact ⟨_, _, .inr ⟨inner, within.keeps _ kept, within.allows _ _ attributes, rfl⟩,
            within.allowsItems _ others, rfl⟩
      · rw [allowsItems_cons plain] at allowed ⊢
        obtain ⟨_, _, first, others, rfl⟩ := allowed
        exact ⟨_, _, within.allows _ _ first, within.allowsItems _ others, rfl⟩
termination_by Node.weightOf items
decreasing_by all_goals (subst_vars; simp only [Node.weight, Node.weightOf]; omega)

end

/-- Rules under which everything may stay as it is. -/
structure IsReflexive (rules : Rules) : Prop where
  keeps : ∀ declaration, rules.keeps declaration
  reads : ∀ id, rules.reads id none

mutual

theorem IsReflexive.allows {rules : Rules} (reflexive : rules.IsReflexive)
    (inStyles isStyles : Bool) (node : Node) : rules.Allows inStyles isStyles node node := by
  cases node with
  | ident role id =>
      rw [Allows]
      split
      · exact ⟨none, reflexive.reads id, rfl⟩
      · rfl
  | importDecl declaration attributes | exportNames declaration attributes =>
      exact ⟨_, reflexive.allows _ _ attributes, rfl⟩
  | classNode head decorators members parent rest =>
      exact ⟨_, _, _, _, reflexive.allowsAll _ _ decorators, reflexive.allowsAll _ _ members,
        reflexive.allows _ _ parent, reflexive.allowsAll _ _ rest, rfl⟩
  | member head key front core back =>
      exact ⟨_, _, _, _, reflexive.allows _ _ key, reflexive.allowsAll _ _ front,
        reflexive.allows _ _ core, reflexive.allowsAll _ _ back, rfl⟩
  | items body => exact ⟨_, reflexive.allowsItems _ body, rfl⟩
  | form shape parts => exact ⟨_, reflexive.allowsAll _ _ parts, rfl⟩
termination_by node.weight
decreasing_by all_goals (subst_vars; simp only [Node.weight]; omega)

theorem IsReflexive.allowsAll {rules : Rules} (reflexive : rules.IsReflexive)
    (inStyles matching : Bool) (nodes : List Node) :
    rules.AllowsAll inStyles matching nodes nodes := by
  cases nodes with
  | nil => rfl
  | cons node rest =>
      exact ⟨_, _, reflexive.allows _ _ node, reflexive.allowsAll _ _ rest, rfl⟩
termination_by Node.weightOf nodes
decreasing_by all_goals (subst_vars; simp only [Node.weightOf]; omega)

theorem IsReflexive.allowsItems {rules : Rules} (reflexive : rules.IsReflexive) (inStyles : Bool)
    (items : List Node) : rules.AllowsItems inStyles items items := by
  cases items with
  | nil => rfl
  | cons item rest =>
      rcases item.isImport_or with ⟨declaration, attributes, rfl⟩ | plain
      · exact ⟨_, _, .inr ⟨_, reflexive.keeps declaration, reflexive.allows _ _ attributes, rfl⟩,
          reflexive.allowsItems _ rest, rfl⟩
      · rw [allowsItems_cons plain]
        exact ⟨_, _, reflexive.allows _ _ item, reflexive.allowsItems _ rest, rfl⟩
termination_by Node.weightOf items
decreasing_by all_goals (subst_vars; simp only [Node.weight, Node.weightOf]; omega)

end

/-- Rules that leave no choice. -/
structure IsDeterministic (rules : Rules) : Prop where
  keeps : ∀ declaration items, rules.keeps declaration → ¬ rules.replaces declaration items
  replaces : ∀ declaration first second,
    rules.replaces declaration first → rules.replaces declaration second → first = second
  reads : ∀ id first second, rules.reads id first → rules.reads id second → first = second

mutual

theorem IsDeterministic.allows {rules : Rules} (deterministic : rules.IsDeterministic)
    {inStyles isStyles : Bool} {node first second : Node}
    (left : rules.Allows inStyles isStyles node first)
    (right : rules.Allows inStyles isStyles node second) : first = second := by
  cases node with
  | ident role id =>
      rw [Allows] at left right
      split at left
      next read =>
        rw [if_pos read] at right
        obtain ⟨choice, reads, rfl⟩ := left
        obtain ⟨other, also, rfl⟩ := right
        rw [deterministic.reads id choice other reads also]
      next unread =>
        rw [if_neg unread] at right
        rw [left, right]
  | importDecl declaration attributes | exportNames declaration attributes =>
      obtain ⟨_, a, rfl⟩ := left
      obtain ⟨_, b, rfl⟩ := right
      rw [deterministic.allows a b]
  | classNode head decorators members parent rest =>
      obtain ⟨_, _, _, _, a, b, c, d, rfl⟩ := left
      obtain ⟨_, _, _, _, e, f, g, h, rfl⟩ := right
      rw [deterministic.allowsAll a e, deterministic.allowsAll b f, deterministic.allows c g,
        deterministic.allowsAll d h]
  | member head key front core back =>
      obtain ⟨_, _, _, _, a, b, c, d, rfl⟩ := left
      obtain ⟨_, _, _, _, e, f, g, h, rfl⟩ := right
      rw [deterministic.allows a e, deterministic.allowsAll b f, deterministic.allows c g,
        deterministic.allowsAll d h]
  | items body =>
      obtain ⟨_, a, rfl⟩ := left
      obtain ⟨_, b, rfl⟩ := right
      rw [deterministic.allowsItems a b]
  | form shape parts =>
      obtain ⟨_, a, rfl⟩ := left
      obtain ⟨_, b, rfl⟩ := right
      rw [deterministic.allowsAll a b]
termination_by node.weight
decreasing_by all_goals (subst_vars; simp only [Node.weight]; omega)

theorem IsDeterministic.allowsAll {rules : Rules} (deterministic : rules.IsDeterministic)
    {inStyles matching : Bool} {nodes first second : List Node}
    (left : rules.AllowsAll inStyles matching nodes first)
    (right : rules.AllowsAll inStyles matching nodes second) : first = second := by
  cases nodes with
  | nil => exact left.trans right.symm
  | cons node rest =>
      obtain ⟨_, _, a, b, rfl⟩ := left
      obtain ⟨_, _, c, d, rfl⟩ := right
      rw [deterministic.allows a c, deterministic.allowsAll b d]
termination_by Node.weightOf nodes
decreasing_by all_goals (subst_vars; simp only [Node.weightOf]; omega)

theorem IsDeterministic.allowsItems {rules : Rules} (deterministic : rules.IsDeterministic)
    {inStyles : Bool} {items first second : List Node}
    (left : rules.AllowsItems inStyles items first)
    (right : rules.AllowsItems inStyles items second) : first = second := by
  cases items with
  | nil => exact left.trans right.symm
  | cons item rest =>
      rcases item.isImport_or with ⟨declaration, attributes, rfl⟩ | plain
      · obtain ⟨_, _, a, b, rfl⟩ := left
        obtain ⟨_, _, c, d, rfl⟩ := right
        rw [deterministic.allowsItems b d]
        rcases a with replaced | ⟨_, kept, a, rfl⟩
        · rcases c with also | ⟨_, kept, _, _⟩
          · rw [deterministic.replaces _ _ _ replaced also]
          · exact absurd replaced (deterministic.keeps _ _ kept)
        · rcases c with replaced | ⟨_, _, c, rfl⟩
          · exact absurd replaced (deterministic.keeps _ _ kept)
          · rw [deterministic.allows a c]
      · rw [allowsItems_cons plain] at left right
        obtain ⟨_, _, a, b, rfl⟩ := left
        obtain ⟨_, _, c, d, rfl⟩ := right
        rw [deterministic.allows a c, deterministic.allowsItems b d]
termination_by Node.weightOf items
decreasing_by all_goals (subst_vars; simp only [Node.weight, Node.weightOf]; omega)

end

end Rules

end StyleInline
