import StyleInline.Proofs.Rules.Filling

/-!
# What is seen of a result

What a visit comes upon in a result is what it came upon in the node before, less what stood in
the attributes of replaced imports, and apart from the references and imports that were
replaced.  A view extracts what matters of a sight; a trace tells what is left of it.
-/

namespace StyleInline

open Script

namespace Rules

/-- A trace tells what a view finds in results: `dropped` imports are replaced, the others stay. -/
structure Traces {α : Type} (rules : Rules) (base : String) (dropped : Import → Bool)
    (view trace : Sight → List α) : Prop where
  fills : rules.fills = extendsBase base
  name : ∀ spot spot' role id,
    (spot.place = .filled → role.reads = true → rules.reads id none) →
      view (.name spot' role id) = trace (.name spot role id)
  template : ∀ spot spot' role id tag content, spot.place = .filled → role.reads = true →
    rules.reads id (some (tag, content)) → view (.name spot' .use tag) = trace (.name spot role id)
  exported : ∀ spot spot' id, view (.exported spot' id) = trace (.exported spot id)
  stray : ∀ spot spot' declaration,
    view (.imported spot' declaration false) = trace (.imported spot declaration false)
  kept : ∀ spot spot' declaration, rules.keeps declaration →
    dropped declaration = false ∧
      view (.imported spot' declaration true) = trace (.imported spot declaration true)
  replaced : ∀ spot spot' declaration items, rules.replaces declaration items →
    dropped declaration = true ∧
      (sightsOfItems base spot' items).flatMap view = trace (.imported spot declaration true)
  styled : ∀ spot head members,
    view (.styled spot head members) = [] ∧ trace (.styled spot head members) = []

/-- What is left of sights when the attributes of dropped imports are gone. -/
def left {α : Type} (dropped : Import → Bool) (trace : Sight → List α) (seen : List Sight) :
    List α :=
  seen.flatMap fun sight => if sight.spot.hosts.any dropped then [] else trace sight

section Left

variable {α : Type} {dropped : Import → Bool} {trace : Sight → List α}

@[simp]
theorem left_nil : left dropped trace [] = [] := rfl

@[simp]
theorem left_append (first second : List Sight) :
    left dropped trace (first ++ second) = left dropped trace first ++ left dropped trace second :=
  List.flatMap_append

theorem left_cons (sight : Sight) (rest : List Sight) :
    left dropped trace (sight :: rest) =
      (if sight.spot.hosts.any dropped then [] else trace sight) ++ left dropped trace rest := rfl

theorem left_eq_flatMap_filter (seen : List Sight) :
    left dropped trace seen =
      (seen.filter fun sight => !sight.spot.hosts.any dropped).flatMap trace := by
  induction seen with
  | nil => rfl
  | cons sight rest ih =>
      rw [left_cons, List.filter_cons, ih]
      cases sight.spot.hosts.any dropped <;> rfl

theorem left_singleton (sight : Sight) (stays : sight.spot.hosts.any dropped = false) :
    left dropped trace [sight] = trace sight := by
  rw [left_cons, stays, if_neg Bool.false_ne_true, left_nil, List.append_nil]

/-- What is seen from one spot stays or is gone as a whole. -/
theorem left_map {β : Type} {spot : Spot} (stays : spot.hosts.any dropped = false)
    (seen : β → Sight) (here : ∀ item, (seen item).spot = spot) (items : List β) :
    left dropped trace (items.map seen) = items.flatMap fun item => trace (seen item) := by
  rw [left, List.flatMap_map]
  congr 1
  funext item
  rw [here, stays, if_neg Bool.false_ne_true]

theorem left_gone {base : String} {spot : Spot} {isStyles : Bool} {node : Node}
    {host : Import} (inside : host ∈ spot.hosts) (gone : dropped host = true) :
    left dropped trace (sights base spot isStyles node) = [] := by
  refine List.flatMap_eq_nil_iff.mpr fun sight member => ?_
  rw [if_pos]
  exact List.any_eq_true.mpr ⟨host, hosts_of_sights member inside, gone⟩

end Left

theorem sightsOfItems_constant (base : String) (spot : Spot) (binding tag : Ident)
    (content : String) :
    sightsOfItems base spot [Emit.constant binding (Emit.template tag content)] =
      [.name spot .bind binding, .name spot .use tag] := rfl

theorem sights_written (base : String) (spot : Spot) (isStyles : Bool) (role : Role) (id : Ident)
    (tag : Ident) (content : String) :
    sights base spot isStyles (written role id (some (tag, content))) = [.name spot .use tag] := by
  cases role <;> rfl

variable {α : Type} {rules : Rules} {base : String} {dropped : Import → Bool}
  {view trace : Sight → List α}

theorem Traces.ident (traces : rules.Traces base dropped view trace) {inStyles isStyles : Bool}
    {role : Role} {id : Ident} {result : Node} (spot : Spot)
    (place : inStyles = true ↔ spot.place = .filled)
    (stays : spot.hosts.any dropped = false)
    (allowed : rules.Allows inStyles isStyles (.ident role id) result) (spot' : Spot)
    (isStyles' : Bool) :
    (sights base spot' isStyles' result).flatMap view =
      left dropped trace [.name spot role id] := by
  rw [left_singleton (.name spot role id) stays]
  rw [Allows] at allowed
  split at allowed
  next read =>
    obtain ⟨filled, reads⟩ := Bool.and_eq_true_iff.mp read
    obtain ⟨choice, chosen, rfl⟩ := allowed
    cases choice with
    | none =>
        have same := traces.name spot spot' role id fun _ _ => chosen
        simpa [written, sights] using same
    | some template =>
        obtain ⟨tag, content⟩ := template
        rw [sights_written]
        simpa using traces.template spot spot' role id tag content (place.mp filled) reads chosen
  next unread =>
    subst allowed
    have same := traces.name spot spot' role id fun filled reads =>
      absurd (Bool.and_eq_true_iff.mpr ⟨place.mpr filled, reads⟩) unread
    simpa [sights] using same

mutual

/-- What a view finds in a result is what is left of the node. -/
theorem Traces.node (traces : rules.Traces base dropped view trace) {inStyles isStyles : Bool}
    {node result : Node} (spot : Spot) (place : inStyles = true ↔ spot.place = .filled)
    (stays : spot.hosts.any dropped = false)
    (allowed : rules.Allows inStyles isStyles node result) (spot' : Spot) (isStyles' : Bool) :
    (sights base spot' isStyles' result).flatMap view =
      left dropped trace (sights base spot isStyles node) := by
  cases node with
  | ident role id => exact traces.ident spot place stays allowed spot' isStyles'
  | importDecl declaration attributes =>
      obtain ⟨inner, allowed, rfl⟩ := allowed
      have found := traces.node spot place stays allowed spot' false
      have here := traces.stray spot spot' declaration
      simp only [sights, List.flatMap_append, left_append, found]
      rw [left_singleton (.imported spot declaration false) stays, ← here, List.flatMap_singleton]
  | exportNames declaration attributes =>
      obtain ⟨inner, allowed, rfl⟩ := allowed
      have found := traces.node spot place stays allowed spot' false
      simp only [sights, List.flatMap_append, left_append, found]
      congr 1
      rw [left_map stays (Sight.exported spot) (fun _ => rfl), List.flatMap_map]
      congr 1
      funext id
      exact traces.exported spot spot' id
  | classNode head decorators members parent rest =>
      obtain ⟨_, _, parent', _, a, b, c, d, rfl⟩ := allowed
      rw [traces.fills] at b
      have first := traces.all spot place stays a spot' false
      have second := traces.all spot place stays b spot' (extendsBase base parent')
      have third := traces.node spot place stays c spot' false
      have fourth := traces.all spot place stays d spot' false
      simp only [sights, List.flatMap_append, left_append, first, second, third, fourth]
      congr 1
      have nothing (matching : Bool) (members : List Node) :
          (if matching then [Sight.styled spot' head members] else []).flatMap view = [] := by
        cases matching
        · rfl
        · simp [traces.styled]
      have nothing' (matching : Bool) (members : List Node) :
          left dropped trace (if matching then [Sight.styled spot head members] else []) = [] := by
        cases matching
        · rfl
        · rw [if_pos rfl, left_singleton (.styled spot head members) stays,
            (traces.styled spot head members).2]
      rw [nothing, nothing']
  | member head key front core back =>
      obtain ⟨_, _, _, _, a, b, c, d, rfl⟩ := allowed
      have around : inStyles = true ↔
          (if isStyles then spot.within .beside else spot).place = .filled := by
        cases isStyles
        · exact place
        · simp [Spot.within, place]
      have filled : (inStyles || isStyles) = true ↔
          (if isStyles then spot.within .filled else spot).place = .filled := by
        cases isStyles
        · simpa using place
        · simp [Spot.within]
      have staysAround : (if isStyles then spot.within .beside else spot).hosts.any dropped =
          false := by
        cases isStyles <;> exact stays
      have staysFilled : (if isStyles then spot.within .filled else spot).hosts.any dropped =
          false := by
        cases isStyles <;> exact stays
      simp only [sights, List.flatMap_append, left_append]
      rw [traces.node _ around staysAround a, traces.all _ around staysAround b,
        traces.node _ filled staysFilled c, traces.all _ around staysAround d]
  | items body =>
      obtain ⟨inner, allowed, rfl⟩ := allowed
      exact traces.items spot place stays allowed spot'
  | form shape parts =>
      obtain ⟨inner, allowed, rfl⟩ := allowed
      exact traces.all spot place stays allowed spot' false
termination_by node.weight
decreasing_by all_goals (subst_vars; simp only [Node.weight]; omega)

theorem Traces.all (traces : rules.Traces base dropped view trace) {inStyles matching : Bool}
    {nodes results : List Node} (spot : Spot) (place : inStyles = true ↔ spot.place = .filled)
    (stays : spot.hosts.any dropped = false)
    (allowed : rules.AllowsAll inStyles matching nodes results) (spot' : Spot)
    (matching' : Bool) :
    (sightsOfAll base spot' matching' results).flatMap view =
      left dropped trace (sightsOfAll base spot matching nodes) := by
  cases nodes with
  | nil =>
      subst allowed
      rfl
  | cons node rest =>
      obtain ⟨_, _, first, others, rfl⟩ := allowed
      simp only [sightsOfAll, List.flatMap_append, left_append]
      rw [traces.node spot place stays first, traces.all spot place stays others]
termination_by Node.weightOf nodes
decreasing_by all_goals (subst_vars; simp only [Node.weightOf]; omega)

theorem Traces.items (traces : rules.Traces base dropped view trace) {inStyles : Bool}
    {items results : List Node} (spot : Spot) (place : inStyles = true ↔ spot.place = .filled)
    (stays : spot.hosts.any dropped = false)
    (allowed : rules.AllowsItems inStyles items results) (spot' : Spot) :
    (sightsOfItems base spot' results).flatMap view =
      left dropped trace (sightsOfItems base spot items) := by
  cases items with
  | nil =>
      subst allowed
      rfl
  | cons item rest =>
      rcases item.isImport_or with ⟨declaration, attributes, rfl⟩ | plain
      · obtain ⟨_, _, replaced | ⟨inner, kept, first, rfl⟩, others, rfl⟩ := allowed
        · obtain ⟨gone, same⟩ := traces.replaced spot spot' declaration _ replaced
          have nothing : left dropped trace
              (sights base (spot.inside declaration) false attributes) = [] :=
            left_gone (List.mem_cons_self ..) gone
          rw [sightsOfItems_append, List.flatMap_append, same,
            traces.items spot place stays others, sightsOfItems, left_append, nothing, left_cons]
          rw [show (Sight.imported spot declaration true).spot = spot from rfl, stays,
            if_neg Bool.false_ne_true]
          rfl
        · obtain ⟨remains, same⟩ := traces.kept spot spot' declaration kept
          have staysInside : (spot.inside declaration).hosts.any dropped = false := by
            rw [Spot.inside, List.any_cons, remains, stays]
            rfl
          have found := traces.node (spot.inside declaration) place staysInside first
            (spot'.inside declaration) false
          rw [List.singleton_append, sightsOfItems, List.flatMap_append, found, List.flatMap_cons,
            same, traces.items spot place stays others, sightsOfItems, left_append, left_cons]
          rw [show (Sight.imported spot declaration true).spot = spot from rfl, stays,
            if_neg Bool.false_ne_true]
      · rw [allowsItems_cons plain] at allowed
        obtain ⟨_, _, first, others, rfl⟩ := allowed
        rw [sightsOfItems_cons base spot rest plain,
          sightsOfItems_cons base spot' _ (plain_of_allows plain first), List.flatMap_append,
          left_append, traces.node spot place stays first, traces.items spot place stays others]
termination_by Node.weightOf items
decreasing_by all_goals (subst_vars; simp only [Node.weight, Node.weightOf]; omega)

end

/-- A view that finds in results what it finds in nodes finds the same in members whose styles were
gone through. -/
theorem Traces.fills_members (traces : rules.Traces base (fun _ => false) view view) (spot : Spot)
    {members results : List Node} (filled : rules.Fills members results) :
    (sightsOfAll base spot true results).flatMap view =
      (sightsOfAll base spot true members).flatMap view := by
  have all (seen : List Sight) : left (fun _ => false) view seen = seen.flatMap view := by
    simp [left]
  induction members generalizing results with
  | nil =>
      subst filled
      rfl
  | cons node rest ih =>
      rcases isMember_or node with ⟨head, key, front, core, back, rfl⟩ | other
      · obtain ⟨core', others, inner, tail, rfl⟩ := filled
        have same : isStylesMember (.member head key front core' back) =
            isStylesMember (.member head key front core back) := rfl
        rw [sightsOfAll, sightsOfAll, List.flatMap_append, List.flatMap_append, ih tail, same,
          Bool.true_and]
        congr 1
        cases styles : isStylesMember (.member head key front core back) with
        | false =>
            rw [styles, if_neg Bool.false_ne_true] at inner
            rw [inner]
        | true =>
            rw [styles, if_pos rfl] at inner
            have found := traces.node (spot.within .filled) (by simp [Spot.within]) (by simp) inner
              (spot.within .filled) false
            rw [all] at found
            simp only [sights, ↓reduceIte, List.flatMap_append, found]
      · rw [fills_cons other] at filled
        obtain ⟨others, tail, rfl⟩ := filled
        rw [sightsOfAll, sightsOfAll, List.flatMap_append, List.flatMap_append, ih tail]

end Rules

end StyleInline
