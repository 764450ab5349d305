import StyleInline.Proofs.Rules

/-!
# Filling styles in afterwards

Rules for a whole class are met in two steps: first its parts are rewritten as if no styles were
filled in around them, then the cores of its styles members are gone through once more.  The
second step finds templates and generated items as the first one left them.
-/

namespace StyleInline

open Script

namespace Rules

/-- Two lists of items one behind the other are treated one after the other. -/
theorem allowsItems_append {rules : Rules} {inStyles : Bool} {first second results : List Node} :
    rules.AllowsItems inStyles (first ++ second) results ↔
      ∃ left right, rules.AllowsItems inStyles first left ∧
        rules.AllowsItems inStyles second right ∧ results = left ++ right := by
  induction first generalizing results with
  | nil => simp [AllowsItems]
  | cons item rest ih =>
      rcases item.isImport_or with ⟨declaration, attributes, rfl⟩ | plain
      · simp only [List.cons_append, AllowsItems, ih]
        constructor
        · rintro ⟨one, _, head, ⟨left, right, body, tail, rfl⟩, rfl⟩
          exact ⟨_, _, ⟨one, left, head, body, rfl⟩, tail, by simp⟩
        · rintro ⟨_, right, ⟨one, left, head, body, rfl⟩, tail, rfl⟩
          exact ⟨one, _, head, ⟨left, right, body, tail, rfl⟩, by simp⟩
      · simp only [List.cons_append, allowsItems_cons plain, ih]
        constructor
        · rintro ⟨one, _, head, ⟨left, right, body, tail, rfl⟩, rfl⟩
          exact ⟨_, _, ⟨one, left, head, body, rfl⟩, tail, by simp⟩
        · rintro ⟨_, right, ⟨one, left, head, body, rfl⟩, tail, rfl⟩
          exact ⟨one, _, head, ⟨left, right, body, tail, rfl⟩, by simp⟩

/-- The rules let a binding stand only for itself. -/
def Fixes (rules : Rules) (id : Ident) : Prop := ∀ choice, rules.reads id choice → choice = none

theorem Fixes.template {rules : Rules} {tag : Ident} (fixed : rules.Fixes tag) (content : String)
    {inStyles isStyles : Bool} {result : Node}
    (allowed : rules.Allows inStyles isStyles (Emit.template tag content) result) :
    result = Emit.template tag content := by
  obtain ⟨_, ⟨first, _, use, ⟨second, _, ⟨_, none, rfl⟩,
    ⟨third, _, ⟨_, text, rfl⟩, nil, rfl⟩, rfl⟩, rfl⟩, rfl⟩ := allowed
  rw [none, text, nil]
  rw [Allows] at use
  split at use
  · obtain ⟨choice, reads, rfl⟩ := use
    rw [fixed choice reads]
    rfl
  · rw [use]
    rfl

theorem Fixes.written {rules : Rules} {tag : Ident} (fixed : rules.Fixes tag) (content : String)
    (role : Role) (id : Ident) {inStyles isStyles : Bool} {result : Node}
    (allowed : rules.Allows inStyles isStyles (written role id (some (tag, content))) result) :
    result = Rules.written role id (some (tag, content)) := by
  cases role with
  | shorthand =>
      obtain ⟨_, ⟨_, _, ⟨_, key, rfl⟩, ⟨_, _, template, nil, rfl⟩, rfl⟩, rfl⟩ := allowed
      rw [key, fixed.template content template, nil]
      rfl
  | use | bind | element | plain => exact fixed.template content allowed

theorem Fixes.constant {rules : Rules} {tag : Ident} (fixed : rules.Fixes tag) (content : String)
    (binding : Ident) {inStyles isStyles : Bool} {result : Node}
    (allowed : rules.Allows inStyles isStyles
      (Emit.constant binding (Emit.template tag content)) result) :
    result = Emit.constant binding (Emit.template tag content) := by
  obtain ⟨_, ⟨_, _, ⟨_, ⟨_, _, bind, ⟨_, _, template, nil, rfl⟩, rfl⟩, rfl⟩, none, rfl⟩, rfl⟩ :=
    allowed
  rw [Allows, Role.reads, Bool.and_false, if_neg Bool.false_ne_true] at bind
  rw [bind, fixed.template content template, nil, none]
  rfl

/-- What is done with results of some rules by later ones is allowed by the rules themselves. -/
structure Absorbs (rules later : Rules) : Prop where
  reads : ∀ id choice, later.reads id choice → rules.reads id choice
  replaces : ∀ declaration items, ¬ later.replaces declaration items
  tags : ∀ id tag content, rules.reads id (some (tag, content)) → later.Fixes tag
  items : ∀ declaration items, rules.replaces declaration items →
    ∀ results, later.AllowsItems true items results → results = items

inductive Outline where
  | ident
  | importDecl
  | exportNames
  | classNode
  | member
  | items
  | form (shape : Shape)

/-- What a node is, its parts apart. -/
def outline : Node → Outline
  | .ident _ _ => .ident
  | .importDecl _ _ => .importDecl
  | .exportNames _ _ => .exportNames
  | .classNode _ _ _ _ _ => .classNode
  | .member _ _ _ _ _ => .member
  | .items _ => .items
  | .form shape _ => .form shape

/-- A node stays what it is, unless a reference becomes a property or a template. -/
theorem outline_of_allows {rules : Rules} {inStyles isStyles : Bool} {node result : Node}
    (allowed : rules.Allows inStyles isStyles node result) :
    outline result = outline node ∨
      outline node = .ident ∧ (outline result = .form .pair ∨ outline result = .form .tagged) := by
  cases node with
  | ident role id =>
      rw [Allows] at allowed
      split at allowed
      · obtain ⟨choice, _, rfl⟩ := allowed
        cases choice with
        | none => exact .inl rfl
        | some template => cases role <;> simp [written, outline, Emit.template]
      · subst allowed
        exact .inl rfl
  | importDecl other inner | exportNames other inner | items inner | form other inner =>
      obtain ⟨_, _, rfl⟩ := allowed
      exact .inl rfl
  | classNode head decorators members parent rest | member head key front core back =>
      obtain ⟨_, _, _, _, _, _, _, _, rfl⟩ := allowed
      exact .inl rfl

/-- Only an import is followed by an import. -/
theorem plain_of_allows {rules : Rules} {inStyles isStyles : Bool} {node result : Node}
    (plain : ∀ declaration attributes, node ≠ .importDecl declaration attributes)
    (allowed : rules.Allows inStyles isStyles node result) :
    ∀ declaration attributes, result ≠ .importDecl declaration attributes := by
  rintro declaration attributes rfl
  rcases outline_of_allows allowed with same | ⟨_, impossible | impossible⟩
  · cases node with
    | importDecl other inner => exact plain other inner rfl
    | _ => cases same
  · cases impossible
  · cases impossible

theorem Absorbs.ident {rules later : Rules} (absorbs : rules.Absorbs later)
    {inStyles isStyles again isStyles' : Bool} {role : Role} {id : Ident}
    {middle result : Node} (first : rules.Allows inStyles isStyles (.ident role id) middle)
    (second : later.Allows true again middle result) :
    rules.Allows true isStyles' (.ident role id) result := by
  cases read : role.reads with
  | false =>
      rw [Allows, read, Bool.and_false] at first ⊢
      obtain rfl : middle = .ident role id := by simpa using first
      rw [Allows, read] at second
      simpa using second
  | true =>
      rw [Allows, read, Bool.and_true] at first ⊢
      rw [if_pos rfl]
      have kept (same : middle = .ident role id) :
          ∃ choice, rules.reads id choice ∧ result = written role id choice := by
        subst same
        rw [Allows, read, Bool.and_self, if_pos rfl] at second
        obtain ⟨choice, reads, same⟩ := second
        exact ⟨choice, absorbs.reads id choice reads, same⟩
      split at first
      · obtain ⟨choice, reads, same⟩ := first
        cases choice with
        | none => exact kept same
        | some template =>
            obtain ⟨tag, content⟩ := template
            subst same
            have fixed := absorbs.tags id tag content reads
            exact ⟨_, reads, fixed.written content role id second⟩
      · exact kept first

mutual

theorem Absorbs.allows {rules later : Rules} (absorbs : rules.Absorbs later)
    {inStyles isStyles again : Bool} (isStyles' : Bool) {node middle result : Node}
    (first : rules.Allows inStyles isStyles node middle)
    (second : later.Allows true again middle result) :
    rules.Allows true isStyles' node result := by
  cases node with
  | ident role id => exact absorbs.ident first second
  | importDecl declaration attributes =>
      obtain ⟨_, first, rfl⟩ := first
      obtain ⟨_, second, rfl⟩ := second
      exact ⟨_, absorbs.allows _ first second, rfl⟩
  | exportNames declaration attributes =>
      obtain ⟨_, first, rfl⟩ := first
      obtain ⟨_, second, rfl⟩ := second
      exact ⟨_, absorbs.allows _ first second, rfl⟩
  | classNode head decorators members parent rest =>
      obtain ⟨_, _, _, _, a, b, c, d, rfl⟩ := first
      obtain ⟨_, _, _, _, e, f, g, h, rfl⟩ := second
      exact ⟨_, _, _, _, absorbs.allowsAll _ a e, absorbs.allowsAll _ b f,
        absorbs.allows _ c g, absorbs.allowsAll _ d h, rfl⟩
  | member head key front core back =>
      obtain ⟨_, _, _, _, a, b, c, d, rfl⟩ := first
      obtain ⟨_, _, _, _, e, f, g, h, rfl⟩ := second
      exact ⟨_, _, _, _, absorbs.allows _ a e, absorbs.allowsAll _ b f,
        absorbs.allows _ c g, absorbs.allowsAll _ d h, rfl⟩
  | items body =>
      obtain ⟨_, first, rfl⟩ := first
      obtain ⟨_, second, rfl⟩ := second
      exact ⟨_, absorbs.allowsItems first second, rfl⟩
  | form shape parts =>
      obtain ⟨_, first, rfl⟩ := first
      obtain ⟨_, second, rfl⟩ := second
      exact ⟨_, absorbs.allowsAll _ first second, rfl⟩
termination_by node.weight
decreasing_by all_goals (subst_vars; simp only [Node.weight]; omega)

theorem Absorbs.allowsAll {rules later : Rules} (absorbs : rules.Absorbs later)
    {inStyles matching again : Bool} (matching' : Bool) {nodes middle results : List Node}
    (first : rules.AllowsAll inStyles matching nodes middle)
    (second : later.AllowsAll true again middle results) :
    rules.AllowsAll true matching' nodes results := by
  cases nodes with
  | nil =>
      subst first
      exact second
  | cons node rest =>
      obtain ⟨_, _, a, b, rfl⟩ := first
      obtain ⟨_, _, c, d, rfl⟩ := second
      exact ⟨_, _, absorbs.allows _ a c, absorbs.allowsAll _ b d, rfl⟩
termination_by Node.weightOf nodes
decreasing_by all_goals (subst_vars; simp only [Node.weightOf]; omega)

theorem Absorbs.allowsItems {rules later : Rules} (absorbs : rules.Absorbs later)
    {inStyles : Bool} {items middle results : List Node}
    (first : rules.AllowsItems inStyles items middle)
    (second : later.AllowsItems true middle results) :
    rules.AllowsItems true items results := by
  cases items with
  | nil =>
      subst first
      exact second
  | cons item rest =>
      rcases item.isImport_or with ⟨declaration, attributes, rfl⟩ | plain
      · obtain ⟨_, _, replaced | ⟨_, kept, a, rfl⟩, b, rfl⟩ := first
        · obtain ⟨_, _, c, d, rfl⟩ := allowsItems_append.mp second
          have same := absorbs.items _ _ replaced _ c
          subst same
          exact ⟨_, _, .inl replaced, absorbs.allowsItems b d, rfl⟩
        · obtain ⟨_, _, impossible | ⟨_, _, c, rfl⟩, d, rfl⟩ := second
          · exact absurd impossible (absorbs.replaces _ _)
          · exact ⟨_, _, .inr ⟨_, kept, absorbs.allows _ a c, rfl⟩, absorbs.allowsItems b d, rfl⟩
      · rw [allowsItems_cons plain] at first ⊢
        obtain ⟨one, _, a, b, rfl⟩ := first
        rw [allowsItems_cons (plain_of_allows plain a)] at second
        obtain ⟨_, _, c, d, rfl⟩ := second
        exact ⟨_, _, absorbs.allows _ a c, absorbs.allowsItems b d, rfl⟩
termination_by Node.weightOf items
decreasing_by all_goals (subst_vars; simp only [Node.weight, Node.weightOf]; omega)

end

def Outline.isStyles : Outline → Bool
  | .form (.key name) => name == "styles"
  | .form (.text literal) => literal.value == "styles"
  | _ => false

theorem isStylesKey_eq (node : Node) : isStylesKey node = (outline node).isStyles := by
  cases node with
  | form shape parts => cases shape <;> rfl
  | _ => rfl

/-- A key spells what it spelled before. -/
theorem isStylesKey_of_allows {rules : Rules} {inStyles isStyles : Bool} {key result : Node}
    (allowed : rules.Allows inStyles isStyles key result) :
    isStylesKey result = isStylesKey key := by
  rw [isStylesKey_eq, isStylesKey_eq]
  rcases outline_of_allows allowed with same | ⟨ident, pair | tagged⟩
  · rw [same]
  · rw [ident, pair]
    rfl
  · rw [ident, tagged]
    rfl

/-- A styles member stays one. -/
theorem isStylesMember_of_allows {rules : Rules} {inStyles isStyles : Bool} {head : MemberHead}
    {key : Node} {front : List Node} {core : Node} {back : List Node} {key' : Node}
    {front' : List Node} {core' : Node} {back' : List Node}
    (allowed : rules.Allows inStyles isStyles key key') :
    isStylesMember (.member head key' front' core' back') =
      isStylesMember (.member head key front core back) := by
  simp only [isStylesMember, isStylesKey_of_allows allowed]

/-- The cores of the styles members are gone through, and nothing else. -/
def Fills (rules : Rules) : List Node → List Node → Prop
  | [], results => results = []
  | .member head key front core back :: rest, results =>
    ∃ core' others,
      (if isStylesMember (.member head key front core back) then
        rules.Allows true false core core' else core' = core) ∧
      rules.Fills rest others ∧ results = .member head key front core' back :: others
  | node :: rest, results => ∃ others, rules.Fills rest others ∧ results = node :: others

theorem fills_cons {rules : Rules} {node : Node} {rest results : List Node}
    (other : ∀ head key front core back, node ≠ .member head key front core back) :
    rules.Fills (node :: rest) results ↔
      ∃ others, rules.Fills rest others ∧ results = node :: others := by
  rw [Fills]
  exact other

/-- Only a class member is followed by a class member. -/
theorem other_of_allows {rules : Rules} {inStyles isStyles : Bool} {node result : Node}
    (other : ∀ head key front core back, node ≠ .member head key front core back)
    (allowed : rules.Allows inStyles isStyles node result) :
    ∀ head key front core back, result ≠ .member head key front core back := by
  rintro head key front core back rfl
  rcases outline_of_allows allowed with same | ⟨_, impossible | impossible⟩
  · cases node with
    | member head key front core back => exact other head key front core back rfl
    | _ => cases same
  · cases impossible
  · cases impossible

theorem isMember_or (node : Node) :
    (∃ head key front core back, node = .member head key front core back) ∨
      ∀ head key front core back, node ≠ .member head key front core back := by
  cases node with
  | member head key front core back => exact .inl ⟨head, key, front, core, back, rfl⟩
  | _ => exact .inr fun _ _ _ _ _ same => nomatch same

theorem isStylesMember_other {node : Node}
    (other : ∀ head key front core back, node ≠ .member head key front core back) :
    isStylesMember node = false := by
  cases node with
  | member head key front core back => exact absurd rfl (other head key front core back)
  | _ => rfl

/-- The members of a class, rewritten without regard to its styles, become members of a class whose
styles are filled in when the cores of the styles members are gone through. -/
theorem Absorbs.fill {rules later : Rules} (absorbs : rules.Absorbs later) {inStyles : Bool}
    {members middle results : List Node} (first : rules.AllowsAll inStyles false members middle)
    (second : later.Fills middle results) : rules.AllowsAll inStyles true members results := by
  induction members generalizing middle results with
  | nil =>
      subst first
      exact second
  | cons node rest ih =>
      obtain ⟨node', rest', here, others, rfl⟩ := first
      rw [Bool.false_and] at here
      rcases isMember_or node with ⟨head, key, front, core, back, rfl⟩ | other
      · obtain ⟨key', front', core', back', a, b, c, d, rfl⟩ := here
        obtain ⟨core'', others', filled, tail, rfl⟩ := second
        rw [isStylesMember_of_allows a] at filled
        refine ⟨_, _, ⟨_, _, _, _, a, b, ?_, d, rfl⟩, ih others tail, rfl⟩
        rw [Bool.true_and]
        cases styles : isStylesMember (.member head key front core back) with
        | false =>
            rw [styles] at filled
            rw [if_neg Bool.false_ne_true] at filled
            subst filled
            exact c
        | true =>
            rw [styles, if_pos rfl] at filled
            rw [Bool.or_true]
            exact absorbs.allows false c filled
      · rw [fills_cons (other_of_allows other here)] at second
        obtain ⟨others', tail, rfl⟩ := second
        refine ⟨_, _, ?_, ih others tail, rfl⟩
        rw [isStylesMember_other other]
        exact here

end Rules

end StyleInline
