import StyleInline.Proofs.Substitution

/-!
# Announcing an item

One item is put in front of the first import that asks for it, in visiting order.  Nothing else
is changed, so a visit of the result comes upon what it came upon before, and upon that item.
-/

namespace StyleInline

open Script

/-- A step of a traversal that remembers whether the item has been put. -/
abbrev Announcing (α : Type) := StateM Bool α

mutual

def announce (asks : Import → Bool) (lead : Node) : Node → Announcing Node
  | .ident role id => return .ident role id
  | .importDecl declaration attributes =>
    return .importDecl declaration (← announce asks lead attributes)
  | .exportNames declaration attributes =>
    return .exportNames declaration (← announce asks lead attributes)
  | .classNode head decorators members parent rest => do
    let decorators ← announceAll asks lead decorators
    let members ← announceAll asks lead members
    let parent ← announce asks lead parent
    return .classNode head decorators members parent (← announceAll asks lead rest)
  | .member head key front core back => do
    let key ← announce asks lead key
    let front ← announceAll asks lead front
    let core ← announce asks lead core
    return .member head key front core (← announceAll asks lead back)
  | .items body => return .items (← announceItems asks lead body)
  | .form shape parts => return .form shape (← announceAll asks lead parts)

def announceAll (asks : Import → Bool) (lead : Node) : List Node → Announcing (List Node)
  | [] => return []
  | node :: rest => do
    let node ← announce asks lead node
    return node :: (← announceAll asks lead rest)

def announceItems (asks : Import → Bool) (lead : Node) : List Node → Announcing (List Node)
  | [] => return []
  | .importDecl declaration attributes :: rest => do
    let attributes ← announce asks lead attributes
    if asks declaration && !(← get) then
      set true
      return lead :: .importDecl declaration attributes :: (← announceItems asks lead rest)
    else
      return .importDecl declaration attributes :: (← announceItems asks lead rest)
  | item :: rest => do
    let item ← announce asks lead item
    return item :: (← announceItems asks lead rest)

end

section Equations

variable (asks : Import → Bool) (lead : Node) (put : Bool)

theorem announce_importDecl (declaration : Import) (attributes : Node) :
    announce asks lead (.importDecl declaration attributes) put =
      let inner := announce asks lead attributes put
      (.importDecl declaration inner.1, inner.2) := rfl

theorem announce_exportNames (declaration : Export) (attributes : Node) :
    announce asks lead (.exportNames declaration attributes) put =
      let inner := announce asks lead attributes put
      (.exportNames declaration inner.1, inner.2) := rfl

theorem announce_classNode (head : ClassHead) (decorators members : List Node) (parent : Node)
    (rest : List Node) :
    announce asks lead (.classNode head decorators members parent rest) put =
      let first := announceAll asks lead decorators put
      let second := announceAll asks lead members first.2
      let third := announce asks lead parent second.2
      let fourth := announceAll asks lead rest third.2
      (.classNode head first.1 second.1 third.1 fourth.1, fourth.2) := rfl

theorem announce_member (head : MemberHead) (key : Node) (front : List Node) (core : Node)
    (back : List Node) :
    announce asks lead (.member head key front core back) put =
      let first := announce asks lead key put
      let second := announceAll asks lead front first.2
      let third := announce asks lead core second.2
      let fourth := announceAll asks lead back third.2
      (.member head first.1 second.1 third.1 fourth.1, fourth.2) := rfl

theorem announce_items (body : List Node) :
    announce asks lead (.items body) put =
      let inner := announceItems asks lead body put
      (.items inner.1, inner.2) := rfl

theorem announce_form (shape : Shape) (parts : List Node) :
    announce asks lead (.form shape parts) put =
      let inner := announceAll asks lead parts put
      (.form shape inner.1, inner.2) := rfl

theorem announceAll_cons (node : Node) (rest : List Node) :
    announceAll asks lead (node :: rest) put =
      let first := announce asks lead node put
      let others := announceAll asks lead rest first.2
      (first.1 :: others.1, others.2) := rfl

theorem announceItems_cons {item : Node} (rest : List Node)
    (plain : ∀ declaration attributes, item ≠ .importDecl declaration attributes) :
    announceItems asks lead (item :: rest) put =
      let first := announce asks lead item put
      let others := announceItems asks lead rest first.2
      (first.1 :: others.1, others.2) := by
  rw [announceItems]
  · rfl
  · exact plain

theorem announceItems_importDecl (declaration : Import) (attributes : Node) (rest : List Node) :
    announceItems asks lead (.importDecl declaration attributes :: rest) put =
      let first := announce asks lead attributes put
      let others := announceItems asks lead rest (first.2 || asks declaration)
      ((if asks declaration && !first.2 then [lead] else []) ++
        .importDecl declaration first.1 :: others.1, others.2) := by
  rw [announceItems]
  simp only [bind, StateT.bind, get, getThe, MonadStateOf.get, StateT.get, pure]
  obtain ⟨inner, after⟩ := announce asks lead attributes put
  cases asks declaration <;> cases after <;> rfl

end Equations

mutual

/-- An item that has been put is not put again. -/
theorem announce_put (asks : Import → Bool) (lead node : Node) :
    announce asks lead node true = (node, true) := by
  cases node with
  | ident role id => rfl
  | importDecl declaration attributes =>
      rw [announce_importDecl, announce_put asks lead attributes]
  | exportNames declaration attributes =>
      rw [announce_exportNames, announce_put asks lead attributes]
  | classNode head decorators members parent rest =>
      simp only [announce_classNode, announceAll_put asks lead decorators,
        announceAll_put asks lead members, announce_put asks lead parent,
        announceAll_put asks lead rest]
  | member head key front core back =>
      simp only [announce_member, announce_put asks lead key, announceAll_put asks lead front,
        announce_put asks lead core, announceAll_put asks lead back]
  | items body => rw [announce_items, announceItems_put asks lead body]
  | form shape parts => rw [announce_form, announceAll_put asks lead parts]
termination_by node.weight
decreasing_by all_goals (subst_vars; simp only [Node.weight]; omega)

theorem announceAll_put (asks : Import → Bool) (lead : Node) (nodes : List Node) :
    announceAll asks lead nodes true = (nodes, true) := by
  cases nodes with
  | nil => rfl
  | cons node rest =>
      simp only [announceAll_cons, announce_put asks lead node, announceAll_put asks lead rest]
termination_by Node.weightOf nodes
decreasing_by all_goals (subst_vars; simp only [Node.weightOf]; omega)

theorem announceItems_put (asks : Import → Bool) (lead : Node) (items : List Node) :
    announceItems asks lead items true = (items, true) := by
  cases items with
  | nil => rfl
  | cons item rest =>
      have others := announceItems_put asks lead rest
      rcases item.isImport_or with ⟨declaration, attributes, rfl⟩ | plain
      · simp only [announceItems_importDecl, announce_put asks lead attributes, Bool.true_or,
          Bool.not_true, Bool.and_false, Bool.false_eq_true, ↓reduceIte, List.nil_append, others]
      · simp only [announceItems_cons asks lead true rest plain, announce_put asks lead item,
          others]
termination_by Node.weightOf items
decreasing_by all_goals (subst_vars; simp only [Node.weight, Node.weightOf]; omega)

end

/-- The spot of the first import among some sights that asks for the item. -/
def asked? (asks : Import → Bool) (seen : List Sight) : Option Spot :=
  seen.findSome? fun
    | .imported spot declaration true => if asks declaration then some spot else none
    | _ => none

theorem asked?_append (asks : Import → Bool) (first second : List Sight) :
    asked? asks (first ++ second) = (asked? asks first).or (asked? asks second) :=
  List.findSome?_append

structure Announced (asks : Import → Bool) (lead : Import) (put : Bool) (seen result : List Sight)
    (after : Bool) : Prop where
  ends : after = (put || (asked? asks seen).isSome)
  /-- Views that neither see the announced import nor classes see no difference. -/
  rest : ∀ {α : Type} (view : Sight → List α), (∀ spot, view (.imported spot lead true) = []) →
    (∀ spot head members, view (.styled spot head members) = []) →
      result.flatMap view = seen.flatMap view
  /-- The announced import stands where it stood before, and where it is asked for first. -/
  lead : ∀ spot, .imported spot lead true ∈ result ↔
    .imported spot lead true ∈ seen ∨ put = false ∧ asked? asks seen = some spot

namespace Announced

variable {asks : Import → Bool} {lead : Import}

theorem refl {put : Bool} {seen : List Sight} (quiet : asked? asks seen = none) :
    Announced asks lead put seen seen put where
  ends := by rw [quiet, Option.isSome_none, Bool.or_false]
  rest _ _ _ := rfl
  lead spot := by simp [quiet]

theorem append {put middle after : Bool} {first second left right : List Sight}
    (head : Announced asks lead put first left middle)
    (tail : Announced asks lead middle second right after) :
    Announced asks lead put (first ++ second) (left ++ right) after where
  ends := by
    rw [tail.ends, head.ends, asked?_append, Option.isSome_or, Bool.or_assoc]
  rest view blind unclassed := by
    rw [List.flatMap_append, List.flatMap_append, head.rest view blind unclassed,
      tail.rest view blind unclassed]
  lead spot := by
    rw [List.mem_append, List.mem_append, head.lead, tail.lead, head.ends, asked?_append]
    cases put with
    | true => simp
    | false =>
        cases asked? asks first with
        | some here => simp [or_right_comm]
        | none => simp [or_assoc]

/-- The parts of a class are looked at apart from the class itself. -/
theorem styled {put : Bool} (spot : Spot) (head : ClassHead) (members members' : List Node)
    (matching : Bool) :
    Announced asks lead put (if matching then [.styled spot head members] else [])
      (if matching then [.styled spot head members'] else []) put := by
  cases matching with
  | false => exact refl rfl
  | true =>
      refine ⟨by simp [asked?], fun view _ unclassed => ?_, fun spot => by simp [asked?]⟩
      simp [unclassed]

/-- An import among items, with what is seen in its attributes. -/
theorem item {put middle : Bool} {inner inner' : List Sight} (spot : Spot) (declaration : Import)
    (inside : Announced asks lead put inner inner' middle) :
    Announced asks lead put (inner ++ [.imported spot declaration true])
      ((if asks declaration && !middle then [.imported spot lead true] else []) ++ inner' ++
        [.imported spot declaration true])
      (middle || asks declaration) := by
  have here : asked? asks [.imported spot declaration true] =
      if asks declaration then some spot else none := by
    simp only [asked?, List.findSome?_cons, List.findSome?_nil]
    split <;> simp_all
  cases asking : asks declaration with
  | false =>
      rw [asking, if_neg Bool.false_ne_true] at here
      simpa using inside.append (refl here)
  | true =>
      rw [asking, if_pos rfl] at here
      refine ⟨?_, fun view blind unclassed => ?_, fun other => ?_⟩
      · simp [asked?_append, here]
      · have same := inside.rest view blind unclassed
        cases middle <;> simp [same, blind]
      · have found := inside.lead other
        have ends := inside.ends
        rw [asked?_append, here]
        cases earlier : asked? asks inner with
        | some first =>
            rw [earlier, Option.isSome_some, Bool.or_true] at ends
            rw [ends]
            simp [found, earlier, or_right_comm]
        | none =>
            rw [earlier, Option.isSome_none, Bool.or_false] at ends
            rw [ends]
            cases put with
            | true => simp [found]
            | false => simp [found, earlier, eq_comm, or_comm]

end Announced

theorem isStylesKey_announce (asks : Import → Bool) (lead key : Node) (put : Bool) :
    isStylesKey (announce asks lead key put).1 = isStylesKey key := by
  cases key with
  | form shape parts => cases shape <;> rfl
  | _ => rfl

/-- A styles member stays one. -/
theorem isStylesMember_announce (asks : Import → Bool) (lead node : Node) (put : Bool) :
    isStylesMember (announce asks lead node put).1 = isStylesMember node := by
  cases node with
  | member head key front core back =>
      simp only [announce_member, isStylesMember, isStylesKey_announce]
  | _ => rfl

/-- A class goes on extending what it extends. -/
theorem extendsBase_announce (base : String) (asks : Import → Bool) (lead parent : Node)
    (put : Bool) :
    extendsBase base (announce asks lead parent put).1 = extendsBase base parent := by
  cases parent <;> rfl

/-- Only an import is followed by an import. -/
theorem announce_plain (asks : Import → Bool) (lead : Node) (put : Bool) {node : Node}
    (plain : ∀ declaration attributes, node ≠ .importDecl declaration attributes) :
    ∀ declaration attributes,
      (announce asks lead node put).1 ≠ .importDecl declaration attributes := by
  cases node with
  | importDecl declaration attributes => exact absurd rfl (plain declaration attributes)
  | _ => exact fun _ _ same => nomatch same

/-- Only a class member is followed by a class member. -/
theorem announce_other (asks : Import → Bool) (lead : Node) (put : Bool) {node : Node}
    (other : ∀ head key front core back, node ≠ .member head key front core back) :
    ∀ head key front core back,
      (announce asks lead node put).1 ≠ .member head key front core back := by
  cases node with
  | member head key front core back => exact absurd rfl (other head key front core back)
  | _ => exact fun _ _ _ _ _ same => nomatch same

section Sights

variable {asks : Import → Bool} {lead : Import} (base : String)

mutual

/-- What is seen of a node before and after an import is announced. -/
theorem announced_sights (spot : Spot) (isStyles : Bool) (node : Node) (put : Bool) :
    Announced asks lead put (sights base spot isStyles node)
      (sights base spot isStyles (announce asks (.importDecl lead .absent) node put).1)
      (announce asks (.importDecl lead .absent) node put).2 := by
  cases node with
  | ident role id => exact .refl rfl
  | importDecl declaration attributes =>
      rw [announce_importDecl]
      exact (announced_sights spot false attributes put).append (.refl rfl)
  | exportNames declaration attributes =>
      rw [announce_exportNames]
      refine (announced_sights spot false attributes put).append (.refl ?_)
      simp [asked?, List.findSome?_map, Function.comp_def]
  | classNode head decorators members parent rest =>
      rw [announce_classNode]
      simp only [sights, extendsBase_announce]
      exact ((((announced_sightsOfAll spot false decorators put).append
        (announced_sightsOfAll spot _ members _)).append
        (announced_sights spot false parent _)).append
        (announced_sightsOfAll spot false rest _)).append
        (.styled spot head members _ _)
  | member head key front core back =>
      rw [announce_member]
      exact (((announced_sights _ false key put).append
        (announced_sightsOfAll _ false front _)).append
        (announced_sights _ false core _)).append (announced_sightsOfAll _ false back _)
  | items body =>
      rw [announce_items]
      exact announced_sightsOfItems spot body put
  | form shape parts =>
      rw [announce_form]
      exact announced_sightsOfAll spot false parts put
termination_by node.weight
decreasing_by all_goals (subst_vars; simp only [Node.weight]; omega)

theorem announced_sightsOfAll (spot : Spot) (matching : Bool) (nodes : List Node) (put : Bool) :
    Announced asks lead put (sightsOfAll base spot matching nodes)
      (sightsOfAll base spot matching
        (announceAll asks (.importDecl lead .absent) nodes put).1)
      (announceAll asks (.importDecl lead .absent) nodes put).2 := by
  cases nodes with
  | nil => exact .refl rfl
  | cons node rest =>
      simp only [announceAll_cons, sightsOfAll, isStylesMember_announce]
      exact (announced_sights spot _ node put).append
        (announced_sightsOfAll spot matching rest _)
termination_by Node.weightOf nodes
decreasing_by all_goals (subst_vars; simp only [Node.weightOf]; omega)

theorem announced_sightsOfItems (spot : Spot) (items : List Node) (put : Bool) :
    Announced asks lead put (sightsOfItems base spot items)
      (sightsOfItems base spot (announceItems asks (.importDecl lead .absent) items put).1)
      (announceItems asks (.importDecl lead .absent) items put).2 := by
  cases items with
  | nil => exact .refl rfl
  | cons item rest =>
      rcases item.isImport_or with ⟨declaration, attributes, rfl⟩ | plain
      · have inner := announced_sights (spot.inside declaration) false attributes put
        have others := announced_sightsOfItems spot rest
          ((announce asks (.importDecl lead .absent) attributes put).2 || asks declaration)
        have whole := (inner.item spot declaration).append others
        rw [announceItems_importDecl]
        simp only [sightsOfItems_append, sightsOfItems]
        have front (asking : Bool) :
            sightsOfItems base spot (if asking then [.importDecl lead .absent] else []) =
              if asking then [.imported spot lead true] else [] := by
          cases asking <;> rfl
        rw [front]
        simpa only [List.append_assoc, List.singleton_append] using whole
      · rw [announceItems_cons asks _ put rest plain]
        simp only [sightsOfItems_cons base spot _ plain, sightsOfItems_cons base spot _
          (announce_plain asks (.importDecl lead .absent) put plain)]
        exact (announced_sights spot false item put).append (announced_sightsOfItems spot rest _)
termination_by Node.weightOf items
decreasing_by all_goals (subst_vars; simp only [Node.weight, Node.weightOf]; omega)

end

/-- What is seen in the cores of styles members before and after an import is announced. -/
theorem announced_stylesCores (spot : Spot) {α : Type} (view : Sight → List α)
    (blind : ∀ spot, view (.imported spot lead true) = [])
    (unclassed : ∀ spot head members, view (.styled spot head members) = [])
    (members : List Node) (put : Bool) :
    (sightsOfAll base spot false
        (stylesCores (announceAll asks (.importDecl lead .absent) members put).1)).flatMap view =
      (sightsOfAll base spot false (stylesCores members)).flatMap view := by
  induction members generalizing put with
  | nil => rfl
  | cons node rest ih =>
      rw [announceAll_cons]
      rcases Rules.isMember_or node with ⟨head, key, front, core, back, rfl⟩ | other
      · have styles := isStylesMember_announce asks (.importDecl lead .absent)
          (.member head key front core back) put
        rw [announce_member] at styles ⊢
        rw [stylesCores_member, stylesCores_member, styles]
        split
        · simp only [sightsOfAll, List.flatMap_append, ih, Bool.false_and]
          congr 1
          exact (announced_sights base spot false core _).rest view blind unclassed
        · exact ih _
      · rw [stylesCores_other _ other, stylesCores_other _ (announce_other asks _ put other)]
        exact ih _

end Sights

end StyleInline
