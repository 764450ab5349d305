import StyleInline.Proofs.Rules.Filling

/-!
# What runs at once

Coming upon a function does not run it, and coming upon a class runs neither its methods nor the
values of its instance fields.  What runs of a node is the node with all this taken out, and what
may stand in the place of a node runs what may stand in the place of what runs of the node.
-/

namespace StyleInline

open Script

namespace Script

/-- What becomes of a part when the node around it is come upon. -/
inductive Moment where
  | now
  | later
  /-- It waits for a call, but for the decorators of parameters. -/
  | parameters
  deriving DecidableEq

def Shape.moment : Shape → Nat → Moment
  | .function _ _, 0 => .parameters
  | .function _ _, 1 => .now
  | .function _ _, _ => .later
  | .arrow _, _ => .later
  | .objectGetter, 0 => .now
  | .objectGetter, _ => .later
  | .objectSetter, 0 => .now
  | .objectSetter, _ => .later
  | .classConstructor _, 0 => .parameters
  | .classConstructor _, _ => .later
  | .accessor modifiers, 1 => if modifiers.contains "static" then .now else .later
  | .typing, _ => .later
  | _, _ => .now

def MemberHead.moment (head : MemberHead) : Moment :=
  if head.kind = .field ∧ head.isStatic then .now else .later

/-- Of two parts the first one waits for a call: the parameters of a method, the target of a
parameter behind its decorators. -/
def Moment.front : Nat → Moment
  | 0 => .parameters
  | _ => .now

def Moment.decorated : Nat → Moment
  | 0 => .now
  | _ => .later

mutual

def Node.running : Moment → Node → Node
  | .later, _ => .absent
  | .parameters, .form .group parts => .form .group (runningFrom (fun _ => .parameters) 0 parts)
  | .parameters, .form (.parameter modifiers) parts =>
    .form (.parameter modifiers) (runningFrom Moment.decorated 0 parts)
  | .parameters, _ => .absent
  | .now, .ident role id => .ident role id
  | .now, .importDecl declaration attributes =>
    .importDecl declaration (attributes.running .now)
  | .now, .exportNames declaration attributes =>
    .exportNames declaration (attributes.running .now)
  | .now, .classNode head decorators members parent rest =>
    .classNode head (runningFrom (fun _ => .now) 0 decorators)
      (runningFrom (fun _ => .now) 0 members) (parent.running .now)
      (runningFrom (fun _ => .now) 0 rest)
  | .now, .member head key front core back =>
    .member head (key.running .now) (runningFrom Moment.front 0 front)
      (core.running head.moment) (runningFrom (fun _ => .now) 0 back)
  | .now, .items body => .items (runningFrom (fun _ => .now) 0 body)
  | .now, .form shape parts => .form shape (runningFrom shape.moment 0 parts)

/-- What runs of several parts, the first of which has this index. -/
def Node.runningFrom (moment : Nat → Moment) : Nat → List Node → List Node
  | _, [] => []
  | index, node :: rest => node.running (moment index) :: runningFrom moment (index + 1) rest

end

def Node.runningAll (nodes : List Node) : List Node := runningFrom (fun _ => .now) 0 nodes

theorem Node.runningFrom_now (index : Nat) (nodes : List Node) :
    runningFrom (fun _ => .now) index nodes = nodes.map (running .now) := by
  induction nodes generalizing index with
  | nil => rfl
  | cons node rest ih => rw [runningFrom, ih, List.map_cons]

theorem Node.runningAll_eq (nodes : List Node) : runningAll nodes = nodes.map (running .now) :=
  runningFrom_now 0 nodes

/-- Nothing runs of parameters but what stands in a list of them, or beside one. -/
theorem Node.running_parameters {node : Node} (list : ∀ parts, node ≠ .form .group parts)
    (single : ∀ modifiers parts, node ≠ .form (.parameter modifiers) parts) :
    node.running .parameters = .absent := by
  cases node with
  | form shape parts =>
      rw [running]
      · intro parts' same
        exact list parts' same
      · intro modifiers parts' same
        exact single modifiers parts' same
  | _ => rfl

theorem Node.running_later (node : Node) : node.running .later = .absent := by
  cases node <;> rfl

end Script

open Script Node

theorem isStylesMember_running (node : Node) :
    isStylesMember (node.running .now) = isStylesMember node := by
  cases node with
  | member head key front core back =>
      have same : isStylesKey (key.running .now) = isStylesKey key := by
        cases key with
        | form shape parts => cases shape <;> rfl
        | _ => rfl
      rw [running, isStylesMember, isStylesMember, same]
  | _ => rfl

theorem extendsBase_running (base : String) (parent : Node) :
    extendsBase base (parent.running .now) = extendsBase base parent := by
  cases parent <;> rfl

theorem running_plain {node : Node}
    (plain : ∀ declaration attributes, node ≠ .importDecl declaration attributes) :
    ∀ declaration attributes, node.running .now ≠ .importDecl declaration attributes := by
  cases node with
  | importDecl declaration attributes => exact absurd rfl (plain declaration attributes)
  | _ => exact fun _ _ same => nomatch same

namespace Rules

/-- The rules do not tell apart what runs and what does not. -/
structure RunsAlike (rules : Rules) : Prop where
  fills : ∀ parent, rules.fills (parent.running .now) = rules.fills parent
  replaces : ∀ declaration items,
    rules.replaces declaration items → rules.replaces declaration (runningAll items)

variable {rules : Rules}

theorem allows_absent (inStyles isStyles : Bool) :
    rules.Allows inStyles isStyles .absent .absent := ⟨[], rfl, rfl⟩

theorem running_written (role : Role) (id : Ident) (choice : Option (Ident × String)) :
    (written role id choice).running .now = written role id choice := by
  cases choice with
  | none => rfl
  | some template => cases role <;> rfl

mutual

/-- What runs of a result may stand in the place of what runs of the node. -/
theorem RunsAlike.allows (alike : rules.RunsAlike) {inStyles isStyles : Bool} {node result : Node}
    (allowed : rules.Allows inStyles isStyles node result) (moment : Moment) :
    rules.Allows inStyles isStyles (node.running moment) (result.running moment) := by
  cases moment with
  | later =>
      rw [running_later, running_later]
      exact allows_absent _ _
  | parameters => exact alike.parameters allowed
  | now =>
      cases node with
      | ident role id =>
          rw [running, Allows]
          rw [Allows] at allowed
          split at allowed
          next read =>
            obtain ⟨choice, reads, rfl⟩ := allowed
            rw [if_pos read]
            exact ⟨choice, reads, running_written role id choice⟩
          next unread =>
            subst allowed
            rw [if_neg unread]
            rfl
      | importDecl declaration attributes | exportNames declaration attributes =>
          obtain ⟨inner, inside, rfl⟩ := allowed
          exact ⟨_, alike.allows inside .now, rfl⟩
      | classNode head decorators members parent rest =>
          obtain ⟨_, _, _, _, first, second, third, fourth, rfl⟩ := allowed
          have members := alike.allowsFrom second (fun _ => .now) (.inr fun _ => rfl) 0
          rw [← alike.fills parent] at members
          exact ⟨_, _, _, _, alike.allowsFrom first _ (.inl rfl) 0, members,
            alike.allows third .now, alike.allowsFrom fourth _ (.inl rfl) 0, rfl⟩
      | member head key front core back =>
          obtain ⟨_, _, _, _, first, second, third, fourth, rfl⟩ := allowed
          exact ⟨_, _, _, _, alike.allows first .now, alike.allowsFrom second _ (.inl rfl) 0,
            alike.allows third _, alike.allowsFrom fourth _ (.inl rfl) 0, rfl⟩
      | items body =>
          obtain ⟨inner, inside, rfl⟩ := allowed
          have running := alike.allowsItems inside
          exact ⟨_, running, rfl⟩
      | form shape parts =>
          obtain ⟨inner, inside, rfl⟩ := allowed
          exact ⟨_, alike.allowsFrom inside _ (.inl rfl) 0, rfl⟩
termination_by 2 * node.weight + 1
decreasing_by all_goals (subst_vars; (try simp only [Node.weight]); omega)

theorem RunsAlike.parameters (alike : rules.RunsAlike) {inStyles isStyles : Bool}
    {node result : Node} (allowed : rules.Allows inStyles isStyles node result) :
    rules.Allows inStyles isStyles (node.running .parameters) (result.running .parameters) := by
  cases node with
  | ident role id =>
      have nothing : result.running .parameters = .absent := by
        rcases outline_of_allows allowed with same | ⟨_, same | same⟩
        all_goals
          apply running_parameters
          · rintro _ rfl
            cases same
          · rintro _ _ rfl
            cases same
      rw [nothing]
      exact allows_absent _ _
  | form shape parts =>
      obtain ⟨inner, inside, rfl⟩ := allowed
      by_cases list : shape = .group
      · subst list
        exact ⟨_, alike.allowsFrom inside _ (.inl rfl) 0, rfl⟩
      by_cases single : ∃ modifiers, shape = .parameter modifiers
      · obtain ⟨modifiers, rfl⟩ := single
        exact ⟨_, alike.allowsFrom inside _ (.inl rfl) 0, rfl⟩
      have nothing (parts : List Node) : Node.running .parameters (.form shape parts) = .absent := by
        apply running_parameters
        · rintro _ same
          cases same
          exact list rfl
        · rintro modifiers _ same
          cases same
          exact single ⟨modifiers, rfl⟩
      rw [nothing, nothing]
      exact allows_absent _ _
  | importDecl other inner | exportNames other inner | items inner =>
      obtain ⟨_, _, rfl⟩ := allowed
      exact allows_absent _ _
  | classNode head decorators members parent rest | member head key front core back =>
      obtain ⟨_, _, _, _, _, _, _, _, rfl⟩ := allowed
      exact allows_absent _ _
termination_by 2 * node.weight
decreasing_by all_goals (subst_vars; simp only [Node.weight]; omega)

theorem RunsAlike.allowsFrom (alike : rules.RunsAlike) {inStyles matching : Bool}
    {nodes results : List Node} (allowed : rules.AllowsAll inStyles matching nodes results)
    (moment : Nat → Moment) (apart : matching = false ∨ ∀ index, moment index = .now)
    (index : Nat) :
    rules.AllowsAll inStyles matching (runningFrom moment index nodes)
      (runningFrom moment index results) := by
  cases nodes with
  | nil =>
      subst allowed
      rfl
  | cons node rest =>
      obtain ⟨_, _, first, others, rfl⟩ := allowed
      refine ⟨_, _, ?_, alike.allowsFrom others moment apart (index + 1), rfl⟩
      have running := alike.allows first (moment index)
      rcases apart with rfl | now
      · exact running
      · rw [now index] at running ⊢
        rw [isStylesMember_running]
        exact running
termination_by 2 * Node.weightOf nodes
decreasing_by all_goals (subst_vars; simp only [Node.weightOf]; omega)

theorem RunsAlike.allowsItems (alike : rules.RunsAlike) {inStyles : Bool}
    {items results : List Node} (allowed : rules.AllowsItems inStyles items results) :
    rules.AllowsItems inStyles (runningAll items) (runningAll results) := by
  cases items with
  | nil =>
      subst allowed
      rfl
  | cons item rest =>
      simp only [runningAll_eq, List.map_cons]
      rcases item.isImport_or with ⟨declaration, attributes, rfl⟩ | plain
      · obtain ⟨_, _, replaced | ⟨inner, kept, attributes, rfl⟩, others, rfl⟩ := allowed
        · have later := alike.allowsItems others
          rw [runningAll_eq, runningAll_eq] at later
          refine ⟨_, _, .inl (alike.replaces _ _ replaced), later, ?_⟩
          rw [runningAll_eq, List.map_append]
        · have later := alike.allowsItems others
          rw [runningAll_eq, runningAll_eq] at later
          exact ⟨_, _, .inr ⟨_, kept, alike.allows attributes .now, rfl⟩, later, rfl⟩
      · rw [allowsItems_cons plain] at allowed
        obtain ⟨_, _, first, others, rfl⟩ := allowed
        have later := alike.allowsItems others
        rw [runningAll_eq, runningAll_eq] at later
        rw [allowsItems_cons (running_plain plain)]
        exact ⟨_, _, alike.allows first .now, later, rfl⟩
termination_by 2 * Node.weightOf items
decreasing_by all_goals (subst_vars; simp only [Node.weight, Node.weightOf]; omega)

end

end Rules

end StyleInline
