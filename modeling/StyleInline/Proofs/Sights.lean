import StyleInline.Scan

/-!
# What a visit of a module comes upon

The names, exports, imports and classes of a module in visiting order, each with the place
where it stands.  A place is described by the styles members around it and by the imports
whose attributes hold it; both are what the rewriting rules distinguish.
-/

namespace StyleInline

open Script

mutual

/-- How many nodes there are in a node; what is proved of all nodes descends along this. -/
def Script.Node.weight : Node → Nat
  | .ident _ _ => 1
  | .importDecl _ attributes => attributes.weight + 1
  | .exportNames _ attributes => attributes.weight + 1
  | .classNode _ decorators members parent rest =>
    weightOf decorators + weightOf members + parent.weight + weightOf rest + 1
  | .member _ key front core back =>
    key.weight + weightOf front + core.weight + weightOf back + 1
  | .items body => weightOf body + 1
  | .form _ parts => weightOf parts + 1

def Script.Node.weightOf : List Node → Nat
  | [] => 0
  | node :: rest => node.weight + weightOf rest + 1

end

/-- Where a node stands among the styles members of the classes that extend the base class. -/
inductive Place where
  | outside
  /-- In a styles member, but neither in the value of a field nor in the body of a getter. -/
  | beside
  | filled
  deriving DecidableEq, Repr

namespace Place

/-- The place of something that stands at `inner` as seen from a node that stands at `outer`. -/
def join : Place → Place → Place
  | .filled, _ => .filled
  | _, .filled => .filled
  | .beside, _ => .beside
  | _, .beside => .beside
  | .outside, .outside => .outside

@[simp]
theorem outside_join (place : Place) : join .outside place = place := by
  cases place <;> rfl

@[simp]
theorem join_outside (place : Place) : join place .outside = place := by
  cases place <;> rfl

@[simp]
theorem join_filled (place : Place) : join place .filled = .filled := by
  cases place <;> rfl

@[simp]
theorem filled_join (place : Place) : join .filled place = .filled := rfl

@[simp]
theorem join_beside_eq_filled {place : Place} : join place .beside = .filled ↔ place = .filled := by
  cases place <;> simp [join]

theorem join_assoc (first second third : Place) :
    join (join first second) third = join first (join second third) := by
  cases first <;> cases second <;> cases third <;> rfl

theorem join_ne_outside {outer inner : Place} (inside : inner ≠ .outside) :
    join outer inner ≠ .outside := by
  cases outer <;> cases inner <;> simp [join] at inside ⊢

end Place

/-- Where a node stands. -/
structure Spot where
  place : Place := .outside
  /-- The imports among items whose attributes hold the node, the innermost first. -/
  hosts : List Import := []
  deriving DecidableEq, Repr

namespace Spot

def within (spot : Spot) (place : Place) : Spot := { spot with place := spot.place.join place }

def inside (spot : Spot) (host : Import) : Spot := { spot with hosts := host :: spot.hosts }

def join (outer inner : Spot) : Spot where
  place := outer.place.join inner.place
  hosts := inner.hosts ++ outer.hosts

@[simp]
theorem join_start (spot : Spot) : spot.join {} = spot := by
  simp [join]

theorem join_within (outer inner : Spot) (place : Place) :
    (outer.join inner).within place = outer.join (inner.within place) := by
  simp [join, within, Place.join_assoc]

theorem join_inside (outer inner : Spot) (host : Import) :
    (outer.join inner).inside host = outer.join (inner.inside host) := by
  simp [join, inside]

/-- Hosts around a start are seen from outside. -/
theorem inside_start (place : Place) (host : Import) :
    ({ place } : Spot).inside host = ({ hosts := [host] } : Spot).join { place } := by
  simp [join, inside]

end Spot

/-- Something that a visit comes upon. -/
inductive Sight where
  | name (spot : Spot) (role : Role) (id : Ident)
  | exported (spot : Spot) (id : Ident)
  /-- An import, when its attributes have been visited; `isItem` tells that it is among items. -/
  | imported (spot : Spot) (declaration : Import) (isItem : Bool)
  /-- A class that extends the base class, when its parts have been visited. -/
  | styled (spot : Spot) (head : ClassHead) (members : List Node)

namespace Sight

def spot : Sight → Spot
  | name spot _ _ | exported spot _ | imported spot _ _ | styled spot _ _ => spot

/-- The same sight, as seen by a visit that started at `outer`. -/
def seenFrom (outer : Spot) : Sight → Sight
  | name spot role id => name (outer.join spot) role id
  | exported spot id => exported (outer.join spot) id
  | imported spot declaration isItem => imported (outer.join spot) declaration isItem
  | styled spot head members => styled (outer.join spot) head members

def read? : Sight → Option Ident
  | name _ role id => if role.reads then some id else none
  | _ => none

/-- The binding that is referred to here: a value is read, an element is named, or a name is
exported. -/
def mention? : Sight → Option Ident
  | name _ role id => if role.reads || role == .element then some id else none
  | exported _ id => some id
  | _ => none

def importsOf (lead : Import) : Sight → List Unit
  | imported _ declaration true => if declaration = lead then [()] else []
  | _ => []

end Sight

theorem mem_flatMap_importsOf {lead : Import} {seen : List Sight} :
    () ∈ seen.flatMap (Sight.importsOf lead) ↔ ∃ spot, .imported spot lead true ∈ seen := by
  rw [List.mem_flatMap]
  constructor
  · rintro ⟨sight, member, here⟩
    cases sight with
    | imported spot declaration isItem =>
        cases isItem with
        | false => cases here
        | true =>
            rw [Sight.importsOf] at here
            split at here
            next same =>
              subst same
              exact ⟨spot, member⟩
            next => cases here
    | _ => cases here
  · rintro ⟨spot, member⟩
    exact ⟨_, member, by simp [Sight.importsOf]⟩

mutual

/-- What a visit of a node comes upon; `isStyles` tells that the node is a styles member of a class
that extends the base class. -/
def sights (base : String) (spot : Spot) (isStyles : Bool) : Node → List Sight
  | .ident role id => [.name spot role id]
  | .importDecl declaration attributes =>
    sights base spot false attributes ++ [.imported spot declaration false]
  | .exportNames declaration attributes =>
    sights base spot false attributes ++
      (Scan.exportedBindings declaration).map (Sight.exported spot)
  | .classNode head decorators members parent rest =>
    let matching := extendsBase base parent
    sightsOfAll base spot false decorators ++ sightsOfAll base spot matching members ++
      sights base spot false parent ++ sightsOfAll base spot false rest ++
      (if matching then [.styled spot head members] else [])
  | .member _ key front core back =>
    let around := if isStyles then spot.within .beside else spot
    sights base around false key ++ sightsOfAll base around false front ++
      sights base (if isStyles then spot.within .filled else spot) false core ++
      sightsOfAll base around false back
  | .items body => sightsOfItems base spot body
  | .form _ parts => sightsOfAll base spot false parts

/-- What a visit of several nodes comes upon; `matching` tells that they are the members of a class
that extends the base class. -/
def sightsOfAll (base : String) (spot : Spot) (matching : Bool) : List Node → List Sight
  | [] => []
  | node :: rest =>
    sights base spot (matching && isStylesMember node) node ++ sightsOfAll base spot matching rest

/-- What a visit of items comes upon. -/
def sightsOfItems (base : String) (spot : Spot) : List Node → List Sight
  | [] => []
  | .importDecl declaration attributes :: rest =>
    sights base (spot.inside declaration) false attributes ++
      .imported spot declaration true :: sightsOfItems base spot rest
  | item :: rest => sights base spot false item ++ sightsOfItems base spot rest

end

theorem Script.Node.isImport_or (item : Node) :
    (∃ declaration attributes, item = .importDecl declaration attributes) ∨
      ∀ declaration attributes, item ≠ .importDecl declaration attributes := by
  cases item with
  | importDecl declaration attributes => exact .inl ⟨declaration, attributes, rfl⟩
  | _ => exact .inr fun _ _ same => nomatch same

theorem sightsOfItems_cons (base : String) (spot : Spot) {item : Node} (rest : List Node)
    (plain : ∀ declaration attributes, item ≠ .importDecl declaration attributes) :
    sightsOfItems base spot (item :: rest) =
      sights base spot false item ++ sightsOfItems base spot rest := by
  rw [sightsOfItems]
  exact plain

theorem sightsOfItems_append (base : String) (spot : Spot) (first second : List Node) :
    sightsOfItems base spot (first ++ second) =
      sightsOfItems base spot first ++ sightsOfItems base spot second := by
  induction first with
  | nil => rfl
  | cons item rest ih =>
      rcases item.isImport_or with ⟨declaration, attributes, rfl⟩ | plain
      · simp only [List.cons_append, sightsOfItems, ih, List.append_assoc]
      · simp only [List.cons_append, sightsOfItems_cons base spot _ plain, ih, List.append_assoc]

mutual

/-- What is seen of a node depends on where it stands only through the spots. -/
theorem sights_join (base : String) (outer inner : Spot) (isStyles : Bool) (node : Node) :
    sights base (outer.join inner) isStyles node =
      (sights base inner isStyles node).map (Sight.seenFrom outer) := by
  cases node with
  | ident role id => rfl
  | importDecl declaration attributes =>
      simp only [sights, sights_join base outer inner false attributes, List.map_append]
      rfl
  | exportNames declaration attributes =>
      simp only [sights, sights_join base outer inner false attributes, List.map_append,
        List.map_map]
      rfl
  | classNode head decorators members parent rest =>
      simp only [sights, sightsOfAll_join base outer inner _ decorators,
        sightsOfAll_join base outer inner _ members, sights_join base outer inner false parent,
        sightsOfAll_join base outer inner _ rest, List.map_append]
      split <;> rfl
  | member head key front core back =>
      cases isStyles with
      | false =>
          simp only [sights, Bool.false_eq_true, ↓reduceIte, List.map_append,
            sights_join base outer inner false key, sightsOfAll_join base outer inner false front,
            sights_join base outer inner false core, sightsOfAll_join base outer inner false back]
      | true =>
          simp only [sights, ↓reduceIte, List.map_append, Spot.join_within,
            sights_join base outer (inner.within .beside) false key,
            sightsOfAll_join base outer (inner.within .beside) false front,
            sights_join base outer (inner.within .filled) false core,
            sightsOfAll_join base outer (inner.within .beside) false back]
  | items body => exact sightsOfItems_join base outer inner body
  | form shape parts => exact sightsOfAll_join base outer inner false parts
termination_by node.weight
decreasing_by all_goals (subst_vars; simp only [Node.weight]; omega)

theorem sightsOfAll_join (base : String) (outer inner : Spot) (matching : Bool)
    (nodes : List Node) :
    sightsOfAll base (outer.join inner) matching nodes =
      (sightsOfAll base inner matching nodes).map (Sight.seenFrom outer) := by
  cases nodes with
  | nil => rfl
  | cons node rest =>
      simp only [sightsOfAll, List.map_append, sights_join base outer inner _ node,
        sightsOfAll_join base outer inner matching rest]
termination_by Node.weightOf nodes
decreasing_by all_goals (subst_vars; simp only [Node.weightOf]; omega)

theorem sightsOfItems_join (base : String) (outer inner : Spot) (items : List Node) :
    sightsOfItems base (outer.join inner) items =
      (sightsOfItems base inner items).map (Sight.seenFrom outer) := by
  cases items with
  | nil => rfl
  | cons item rest =>
      rcases item.isImport_or with ⟨declaration, attributes, rfl⟩ | plain
      · simp only [sightsOfItems, Spot.join_inside, List.map_append, List.map_cons,
          sights_join base outer (inner.inside declaration) false attributes,
          sightsOfItems_join base outer inner rest]
        rfl
      · simp only [sightsOfItems_cons base _ rest plain, List.map_append,
          sights_join base outer inner false item, sightsOfItems_join base outer inner rest]
termination_by Node.weightOf items
decreasing_by all_goals (subst_vars; simp only [Node.weight, Node.weightOf]; omega)

end

@[simp]
theorem Sight.spot_seenFrom (outer : Spot) (sight : Sight) :
    (sight.seenFrom outer).spot = outer.join sight.spot := by
  cases sight <;> rfl

@[simp]
theorem Sight.read?_seenFrom (outer : Spot) (sight : Sight) :
    (sight.seenFrom outer).read? = sight.read? := by
  cases sight <;> rfl

/-- The imports around a node are around everything in it. -/
theorem hosts_of_sights {base : String} {spot : Spot} {isStyles : Bool} {node : Node}
    {sight : Sight} (member : sight ∈ sights base spot isStyles node) :
    spot.hosts ⊆ sight.spot.hosts := by
  rw [← spot.join_start, sights_join] at member
  obtain ⟨inner, _, rfl⟩ := List.mem_map.mp member
  simp [Spot.join]

mutual

/-- What is seen of the members of a class is seen wherever the class is. -/
theorem members_of_styled (base : String) (spot : Spot) (isStyles : Bool) (node : Node)
    {inner : Spot} {head : ClassHead} {members : List Node}
    (member : .styled inner head members ∈ sights base spot isStyles node) :
    sightsOfAll base inner true members ⊆ sights base spot isStyles node := by
  intro sight inside
  cases node with
  | ident role id => cases List.mem_singleton.mp member
  | importDecl declaration attributes =>
      rcases List.mem_append.mp member with here | other
      · exact List.mem_append_left _ (members_of_styled base spot false attributes here inside)
      · cases List.mem_singleton.mp other
  | exportNames declaration attributes =>
      rcases List.mem_append.mp member with here | other
      · exact List.mem_append_left _ (members_of_styled base spot false attributes here inside)
      · obtain ⟨_, _, impossible⟩ := List.mem_map.mp other
        cases impossible
  | classNode other decorators parts parent rest =>
      rcases List.mem_append.mp member with member | itself
      · refine List.mem_append_left _ ?_
        rcases List.mem_append.mp member with member | ofRest
        · refine List.mem_append_left _ ?_
          rcases List.mem_append.mp member with member | ofParent
          · refine List.mem_append_left _ ?_
            rcases List.mem_append.mp member with ofDecorators | ofMembers
            · exact List.mem_append_left _
                (members_of_styledAll base spot false decorators ofDecorators inside)
            · exact List.mem_append_right _
                (members_of_styledAll base spot _ parts ofMembers inside)
          · exact List.mem_append_right _ (members_of_styled base spot false parent ofParent inside)
        · exact List.mem_append_right _ (members_of_styledAll base spot false rest ofRest inside)
      · split at itself
        next extending =>
          cases List.mem_singleton.mp itself
          rw [← extending] at inside
          exact List.mem_append_left _
            (List.mem_append_left _ (List.mem_append_left _ (List.mem_append_right _ inside)))
        next => cases itself
  | member other key front core back =>
      rcases List.mem_append.mp member with member | ofBack
      · refine List.mem_append_left _ ?_
        rcases List.mem_append.mp member with member | ofCore
        · refine List.mem_append_left _ ?_
          rcases List.mem_append.mp member with ofKey | ofFront
          · exact List.mem_append_left _ (members_of_styled base _ false key ofKey inside)
          · exact List.mem_append_right _ (members_of_styledAll base _ false front ofFront inside)
        · exact List.mem_append_right _ (members_of_styled base _ false core ofCore inside)
      · exact List.mem_append_right _ (members_of_styledAll base _ false back ofBack inside)
  | items body => exact members_of_styledItems base spot body member inside
  | form shape parts => exact members_of_styledAll base spot false parts member inside
termination_by node.weight
decreasing_by all_goals (subst_vars; simp only [Node.weight]; omega)

theorem members_of_styledAll (base : String) (spot : Spot) (matching : Bool) (nodes : List Node)
    {inner : Spot} {head : ClassHead} {members : List Node}
    (member : .styled inner head members ∈ sightsOfAll base spot matching nodes) :
    sightsOfAll base inner true members ⊆ sightsOfAll base spot matching nodes := by
  intro sight inside
  cases nodes with
  | nil => cases member
  | cons node rest =>
      rcases List.mem_append.mp member with here | later
      · exact List.mem_append_left _ (members_of_styled base spot _ node here inside)
      · exact List.mem_append_right _ (members_of_styledAll base spot matching rest later inside)
termination_by Node.weightOf nodes
decreasing_by all_goals (subst_vars; simp only [Node.weightOf]; omega)

theorem members_of_styledItems (base : String) (spot : Spot) (items : List Node)
    {inner : Spot} {head : ClassHead} {members : List Node}
    (member : .styled inner head members ∈ sightsOfItems base spot items) :
    sightsOfAll base inner true members ⊆ sightsOfItems base spot items := by
  intro sight inside
  cases items with
  | nil => cases member
  | cons item rest =>
      rcases item.isImport_or with ⟨declaration, attributes, rfl⟩ | plain
      · rw [sightsOfItems] at member ⊢
        rcases List.mem_append.mp member with here | later
        · exact List.mem_append_left _ (members_of_styled base _ false attributes here inside)
        · rcases List.mem_cons.mp later with impossible | later
          · cases impossible
          · exact List.mem_append_right _
              (List.mem_cons_of_mem _ (members_of_styledItems base spot rest later inside))
      · rw [sightsOfItems_cons base spot rest plain] at member ⊢
        rcases List.mem_append.mp member with here | later
        · exact List.mem_append_left _ (members_of_styled base spot false item here inside)
        · exact List.mem_append_right _ (members_of_styledItems base spot rest later inside)
termination_by Node.weightOf items
decreasing_by all_goals (subst_vars; simp only [Node.weight, Node.weightOf]; omega)

end

end StyleInline
