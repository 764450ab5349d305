import Mathlib.Data.List.Nodup
import Mathlib.Data.List.Perm.Subperm
import Std.Data.String.ToNat
import StyleInline.Proofs.Scan
import StyleInline.Substitution.Whole

/-!
# Fresh names

The scan of a module knows the name of every identifier, wherever it stands.  A fresh name is
none of them: the candidates for it are all different, and there is one more than there are
names to avoid.  The search for one tries the candidates in their order, so it comes to an end.
Names that are taken one after another avoid each other as well as the names of the module.
-/

namespace StyleInline

open Script

namespace Scan

open Substitution (identsOf identsOfAll)

def Names (ids : List Ident) (before after : Scan) : Prop :=
  ∀ name, name ∈ after.usedNames ↔ name ∈ before.usedNames ∨ ∃ id ∈ ids, id.name = name

namespace Names

theorem nil {before after : Scan} (same : after.usedNames = before.usedNames) :
    Names [] before after := by
  simp [Names, same]

theorem append {first second : List Ident} {start middle final : Scan}
    (head : Names first start middle) (tail : Names second middle final) :
    Names (first ++ second) start final := by
  intro name
  rw [tail, head]
  simp only [List.mem_append, or_and_right, exists_or, or_assoc]

theorem congr {ids : List Ident} {before after other : Scan}
    (names : Names ids before after) (same : other.usedNames = after.usedNames) :
    Names ids before other := by
  intro name
  rw [same]
  exact names name

end Names

theorem names_useNames (ids : List Ident) (scan : Scan) : Names ids scan (useNames ids scan) := by
  induction ids generalizing scan with
  | nil => exact .nil rfl
  | cons id rest ih =>
      have here : Names [id] scan (scan.useName id.name) := by
        intro name
        simp only [useName, List.mem_insert_iff, List.mem_singleton, exists_eq_left]
        rw [or_comm, eq_comm]
      exact here.append (ih _)

theorem usedNames_foldl (change : Ident → Scan → Scan)
    (keeps : ∀ id scan, (change id scan).usedNames = scan.usedNames) (ids : List Ident)
    (scan : Scan) :
    (ids.foldl (fun scan id => change id scan) scan).usedNames = scan.usedNames := by
  induction ids generalizing scan with
  | nil => rfl
  | cons id rest ih => rw [List.foldl_cons, ih, keeps]

theorem usedNames_refer (inStyles : Bool) (id : Ident) (scan : Scan) :
    (scan.refer inStyles id).usedNames = scan.usedNames := by
  cases inStyles <;> rfl

mutual

/-- A scan learns the names of all identifiers. -/
theorem names_collect (query : Query) (inStyles : Bool) (node : Node) (scan : Scan) :
    Names (identsOf node) scan (collect query inStyles node scan) := by
  cases node with
  | ident role id =>
      have used := names_useNames [id] scan
      cases reads : role.reads with
      | false =>
          rw [collect, reads]
          exact used
      | true =>
          rw [collect, reads]
          exact used.congr (usedNames_refer inStyles id _)
  | importDecl declaration attributes =>
      have used := (names_useNames (idsOfImport declaration) scan).append
        (names_collect query inStyles attributes _)
      refine used.congr ?_
      simp only [collect]
      split
      · rfl
      · exact usedNames_foldl importStyle (fun _ _ => rfl) _ _
  | exportNames declaration attributes =>
      have used := (names_useNames (idsOfExport declaration) scan).append
        (names_collect query inStyles attributes _)
      exact used.congr (usedNames_foldl (refer false) (usedNames_refer false) _ _)
  | classNode head decorators members parent rest =>
      exact ((((names_useNames head.name.toList scan).append
        (names_collectAll query inStyles decorators _)).append
        (names_collectMembers query inStyles _ members _)).append
        (names_collect query inStyles parent _)).append
        (names_collectAll query inStyles rest _)
  | member head key front core back =>
      exact (((names_collect query inStyles key scan).append
        (names_collectAll query inStyles front _)).append
        (names_collect query inStyles core _)).append
        (names_collectAll query inStyles back _)
  | items body => exact names_collectAll query inStyles body scan
  | form shape parts => exact names_collectAll query inStyles parts scan
termination_by node.weight
decreasing_by all_goals (subst_vars; simp only [Node.weight]; omega)

theorem names_collectAll (query : Query) (inStyles : Bool) (nodes : List Node) (scan : Scan) :
    Names (identsOfAll nodes) scan (collectAll query inStyles nodes scan) := by
  cases nodes with
  | nil => exact .nil rfl
  | cons node rest =>
      exact (names_collect query inStyles node scan).append
        (names_collectAll query inStyles rest _)
termination_by Node.weightOf nodes
decreasing_by all_goals (subst_vars; simp only [Node.weightOf]; omega)

theorem names_collectMembers (query : Query) (inStyles matching : Bool) (members : List Node)
    (scan : Scan) :
    Names (identsOfAll members) scan (collectMembers query inStyles matching members scan) := by
  cases members with
  | nil => exact .nil rfl
  | cons node rest =>
      exact (names_collect query _ node scan).append
        (names_collectMembers query inStyles matching rest _)
termination_by Node.weightOf members
decreasing_by all_goals (subst_vars; simp only [Node.weightOf]; omega)

end

/-- The scan of a module knows the names of its identifiers and no others. -/
theorem mem_usedNames_ofModule (query : Query) (module : Module) (name : String) :
    name ∈ (ofModule query module).usedNames ↔ ∃ id ∈ identsOfAll module.items, id.name = name := by
  have names := names_collectAll query false module.items {} name
  rwa [or_iff_right (List.not_mem_nil)] at names

/-- Different numbers give different candidates. -/
theorem candidate_injective (preferred : String) : Function.Injective (candidate preferred) := by
  intro first second same
  cases first with
  | zero =>
      cases second with
      | zero => rfl
      | succ other =>
          have empty : toString (other + 2) = "" := by
            simpa only [candidate, String.append_eq_left_iff] using same.symm
          exact absurd empty Nat.repr_ne_empty
  | succ index =>
      cases second with
      | zero =>
          have empty : toString (index + 2) = "" := by
            simpa only [candidate, String.append_eq_left_iff] using same
          exact absurd empty Nat.repr_ne_empty
      | succ other =>
          have digits := (String.append_right_inj _).mp same
          have numbers : index + 2 = other + 2 := Nat.repr_injective digits
          omega

/-- A fresh name is not in use. -/
theorem freshName_not_mem (scan : Scan) (preferred : String) :
    scan.freshName preferred ∉ scan.usedNames := by
  let candidates := (List.range (scan.usedNames.length + 1)).map (candidate preferred)
  cases found : candidates.find? fun name => !scan.usedNames.contains name with
  | some name =>
      have free := List.find?_some found
      have chosen : scan.freshName preferred = name := by
        simp only [freshName]
        rw [found]
        rfl
      rw [chosen]
      simpa using free
  | none =>
      have taken : candidates ⊆ scan.usedNames := by
        intro name member
        simpa using List.find?_eq_none.mp found name member
      have distinct : candidates.Nodup := (List.nodup_range).map (candidate_injective preferred)
      have bound := (distinct.subperm taken).length_le
      simp only [candidates, List.length_map, List.length_range] at bound
      omega

/-- No identifier of a module bears a name that is fresh for its scan. -/
theorem freshName_ne (query : Query) (module : Module) (preferred : String) {id : Ident}
    (member : id ∈ identsOfAll module.items) :
    id.name ≠ (ofModule query module).freshName preferred := by
  intro same
  exact freshName_not_mem _ preferred
    ((mem_usedNames_ofModule query module _).mpr ⟨id, member, same⟩)

end Scan

/-- The identifiers of a sight. -/
def Sight.ids : Sight → List Ident
  | name _ _ id => [id]
  | exported _ id => [id]
  | imported _ declaration _ => Scan.idsOfImport declaration
  | styled _ _ _ => []

theorem Scan.exportedBindings_subset (declaration : Export) :
    exportedBindings declaration ⊆ idsOfExport declaration := by
  intro id member
  rw [exportedBindings] at member
  split at member
  · cases member
  · obtain ⟨specifier, inside, found⟩ := List.mem_filterMap.mp member
    refine List.mem_flatMap.mpr ⟨specifier, inside, ?_⟩
    split at found
    · cases found
      simp [idsOfModuleName]
    · cases found

theorem Scan.defaultBindings_subset (declaration : Import) :
    defaultBindings declaration ⊆ idsOfImport declaration := by
  intro id member
  obtain ⟨specifier, inside, found⟩ := List.mem_filterMap.mp member
  refine List.mem_flatMap.mpr ⟨specifier, inside, ?_⟩
  split at found
  · cases found
    simp
  · cases found

open Substitution (identsOf identsOfAll)

mutual

/-- The identifiers that a visit comes upon are identifiers of the node. -/
theorem ids_of_sights (base : String) (spot : Spot) (isStyles : Bool) (node : Node) :
    ∀ sight ∈ sights base spot isStyles node, sight.ids ⊆ identsOf node := by
  cases node with
  | ident role id => simp [sights, Sight.ids, identsOf]
  | importDecl declaration attributes =>
      have inner := ids_of_sights base spot false attributes
      simp only [sights, identsOf, List.mem_append, List.mem_singleton]
      rintro sight (member | rfl)
      · exact List.subset_append_of_subset_right _ (inner sight member)
      · exact List.subset_append_left _ _
  | exportNames declaration attributes =>
      have inner := ids_of_sights base spot false attributes
      simp only [sights, identsOf, List.mem_append, List.mem_map]
      rintro sight (member | ⟨id, member, rfl⟩)
      · exact List.subset_append_of_subset_right _ (inner sight member)
      · have named := Scan.exportedBindings_subset declaration member
        simp [Sight.ids, named]
  | classNode head decorators members parent rest =>
      have ofDecorators := ids_of_sightsOfAll base spot false decorators
      have ofMembers := ids_of_sightsOfAll base spot (extendsBase base parent) members
      have ofParent := ids_of_sights base spot false parent
      have ofRest := ids_of_sightsOfAll base spot false rest
      simp only [sights, identsOf, List.mem_append]
      rintro sight ((((member | member) | member) | member) | member) id inside
      · simp [ofDecorators sight member inside]
      · simp [ofMembers sight member inside]
      · simp [ofParent sight member inside]
      · simp [ofRest sight member inside]
      · split at member
        · cases List.mem_singleton.mp member
          cases inside
        · cases member
  | member head key front core back =>
      have ofKey := fun spot => ids_of_sights base spot false key
      have ofFront := fun spot => ids_of_sightsOfAll base spot false front
      have ofCore := fun spot => ids_of_sights base spot false core
      have ofBack := fun spot => ids_of_sightsOfAll base spot false back
      simp only [sights, identsOf, List.mem_append]
      rintro sight (((member | member) | member) | member) id inside
      · simp [ofKey _ sight member inside]
      · simp [ofFront _ sight member inside]
      · simp [ofCore _ sight member inside]
      · simp [ofBack _ sight member inside]
  | items body => exact ids_of_sightsOfItems base spot body
  | form shape parts => exact ids_of_sightsOfAll base spot false parts
termination_by node.weight
decreasing_by all_goals (subst_vars; simp only [Node.weight]; omega)

theorem ids_of_sightsOfAll (base : String) (spot : Spot) (matching : Bool) (nodes : List Node) :
    ∀ sight ∈ sightsOfAll base spot matching nodes, sight.ids ⊆ identsOfAll nodes := by
  cases nodes with
  | nil => nofun
  | cons node rest =>
      have here := ids_of_sights base spot (matching && isStylesMember node) node
      have others := ids_of_sightsOfAll base spot matching rest
      simp only [sightsOfAll, identsOfAll, List.mem_append]
      rintro sight (member | member) id inside
      · simp [here sight member inside]
      · simp [others sight member inside]
termination_by Node.weightOf nodes
decreasing_by all_goals (subst_vars; simp only [Node.weightOf]; omega)

theorem ids_of_sightsOfItems (base : String) (spot : Spot) (items : List Node) :
    ∀ sight ∈ sightsOfItems base spot items, sight.ids ⊆ identsOfAll items := by
  cases items with
  | nil => nofun
  | cons item rest =>
      have others := ids_of_sightsOfItems base spot rest
      rcases item.isImport_or with ⟨declaration, attributes, rfl⟩ | plain
      · have inner := ids_of_sights base (spot.inside declaration) false attributes
        simp only [sightsOfItems, identsOfAll, identsOf, List.mem_append, List.mem_cons]
        rintro sight (member | rfl | member) id inside
        · simp [inner sight member inside]
        · simp [show id ∈ Scan.idsOfImport declaration from inside]
        · simp [others sight member inside]
      · have here := ids_of_sights base spot false item
        simp only [sightsOfItems_cons base spot rest plain, identsOfAll, List.mem_append]
        rintro sight (member | member) id inside
        · simp [here sight member inside]
        · simp [others sight member inside]
termination_by Node.weightOf items
decreasing_by all_goals (subst_vars; simp only [Node.weight, Node.weightOf]; omega)

end

/-- A default binding of an imported stylesheet is an identifier of the module. -/
theorem Scan.styleImports_subset (query : Query) (module : Module) :
    (ofModule query module).styleImports ⊆ identsOfAll module.items := by
  intro id member
  rcases (records_ofModule query module).imports id |>.mp member with impossible | seen
  · cases impossible
  · obtain ⟨sight, inside, tells⟩ := seen
    cases sight with
    | imported spot declaration isItem =>
        have named := defaultBindings_subset declaration tells.2.2
        exact ids_of_sightsOfItems _ _ _ _ inside named
    | _ => cases tells

namespace Scan

def allocateAll : List String → Scan → List String × Scan
  | [], scan => ([], scan)
  | preferred :: rest, scan =>
    let (name, scan) := scan.allocate preferred
    let (names, scan) := allocateAll rest scan
    (name :: names, scan)

/-- The search for a name that is not in use.  It goes from candidate to candidate as long as they
are in use; the last number is the one at which it ends. -/
inductive Search (used : List String) (preferred : String) : Nat → Nat → Prop where
  | found {index : Nat} (free : candidate preferred index ∉ used) :
      Search used preferred index index
  | next {index last : Nat} (taken : candidate preferred index ∈ used)
      (rest : Search used preferred (index + 1) last) : Search used preferred index last

namespace Search

variable {used : List String} {preferred : String} {start last : Nat}

theorem free (search : Search used preferred start last) : candidate preferred last ∉ used := by
  induction search with
  | found free => exact free
  | next taken rest ih => exact ih

/-- All candidates in front of the last one are in use. -/
theorem taken (search : Search used preferred start last) :
    ∀ index, start ≤ index → index < last → candidate preferred index ∈ used := by
  induction search with
  | found free =>
      intro index above below
      exact absurd below (Nat.not_lt_of_le above)
  | next taken rest ih =>
      intro index above below
      rcases Nat.eq_or_lt_of_le above with rfl | later
      · exact taken
      · exact ih index later below

/-- The search comes to a free candidate if all in front of it are in use. -/
theorem of_taken (free : candidate preferred last ∉ used) (below : start ≤ last)
    (taken : ∀ index, start ≤ index → index < last → candidate preferred index ∈ used) :
    Search used preferred start last := by
  obtain ⟨steps, rfl⟩ := Nat.exists_eq_add_of_le below
  induction steps generalizing start with
  | zero => exact .found free
  | succ steps ih =>
      refine .next (taken start (Nat.le_refl _) (by omega)) ?_
      have same : start + (steps + 1) = start + 1 + steps := by omega
      rw [same] at free taken ⊢
      exact ih free (Nat.le_add_right _ _) fun index above =>
        taken index (Nat.le_of_succ_le above)

/-- Only the names count, and neither their order nor their number. -/
theorem congr {other : List String} (search : Search used preferred start last)
    (same : ∀ name, name ∈ other ↔ name ∈ used) : Search other preferred start last := by
  induction search with
  | found free => exact .found (mt (same _).mp free)
  | next taken rest ih => exact .next ((same _).mpr taken) ih

end Search

/-- The search for a fresh name ends with it, and there are not more candidates to pass than there
are names in use. -/
theorem search_freshName (scan : Scan) (preferred : String) :
    ∃ last, Search scan.usedNames preferred 0 last ∧
      scan.freshName preferred = candidate preferred last ∧ last ≤ scan.usedNames.length := by
  have unused := freshName_not_mem scan preferred
  cases found : ((List.range (scan.usedNames.length + 1)).map (candidate preferred)).find?
      fun name => !scan.usedNames.contains name with
  | none =>
      -- The first candidate would be in use, and it is what the search would fall back on.
      have first : candidate preferred 0 ∈ scan.usedNames := by
        have member : candidate preferred 0 ∈
            (List.range (scan.usedNames.length + 1)).map (candidate preferred) :=
          List.mem_map_of_mem (List.mem_range.mpr (Nat.succ_pos _))
        simpa using List.find?_eq_none.mp found _ member
      rw [freshName, found] at unused
      exact absurd first unused
  | some name =>
      obtain ⟨free, last, inside, rfl, earlier⟩ := List.find?_eq_some_iff_getElem.mp found
      rw [List.length_map, List.length_range] at inside
      simp only [List.getElem_map, List.getElem_range] at free earlier found
      refine ⟨last, .of_taken (by simpa using free) (Nat.zero_le _) fun index _ below => ?_, ?_,
        Nat.le_of_lt_succ inside⟩
      · simpa using earlier index below
      · rw [freshName, found]
        rfl

/-- A name that is taken comes in front of the names in use. -/
theorem allocate_eq (scan : Scan) (preferred : String) :
    scan.allocate preferred =
      (scan.freshName preferred,
        { scan with usedNames := scan.freshName preferred :: scan.usedNames }) := by
  rw [allocate, useName, List.insert_of_not_mem (freshName_not_mem scan preferred)]

theorem allocateAll_cons (preferred : String) (rest : List String) (scan : Scan) :
    let later := allocateAll rest (scan.allocate preferred).2
    allocateAll (preferred :: rest) scan = (scan.freshName preferred :: later.1, later.2) := rfl

theorem length_allocateAll (preferred : List String) (scan : Scan) :
    (allocateAll preferred scan).1.length = preferred.length := by
  induction preferred generalizing scan with
  | nil => rfl
  | cons first rest ih => rw [allocateAll_cons, List.length_cons, ih, List.length_cons]

theorem allocateAll_scan (preferred : List String) (scan : Scan) :
    (allocateAll preferred scan).2 =
      { scan with usedNames := (allocateAll preferred scan).1.reverse ++ scan.usedNames } := by
  induction preferred generalizing scan with
  | nil => rfl
  | cons first rest ih =>
      rw [allocateAll_cons, ih, allocate_eq]
      simp only [List.reverse_cons, List.append_assoc, List.singleton_append]

theorem allocateAll_distinct (preferred : List String) (scan : Scan) :
    (allocateAll preferred scan).1.Nodup ∧
      ∀ name ∈ (allocateAll preferred scan).1, name ∉ scan.usedNames := by
  induction preferred generalizing scan with
  | nil => exact ⟨List.nodup_nil, nofun⟩
  | cons first rest ih =>
      obtain ⟨distinct, apart⟩ := ih (scan.allocate first).2
      rw [allocate_eq] at distinct apart
      simp only [List.mem_cons, not_or] at apart
      rw [allocateAll_cons, allocate_eq]
      refine ⟨List.nodup_cons.mpr ⟨fun again => (apart _ again).1 rfl, distinct⟩, ?_⟩
      intro name member
      rcases List.mem_cons.mp member with rfl | later
      · exact freshName_not_mem scan first
      · exact (apart name later).2

/-- Each name ends a search that avoids the names in use and those that were taken before. -/
theorem search_allocateAll {preferred : List String} {scan : Scan} {index : Nat}
    {text name : String} (asked : preferred[index]? = some text)
    (given : (allocateAll preferred scan).1[index]? = some name) :
    ∃ last,
      Search (scan.usedNames ++ (allocateAll preferred scan).1.take index) text 0 last ∧
        name = candidate text last ∧ last ≤ scan.usedNames.length + index := by
  induction preferred generalizing scan index with
  | nil => cases asked
  | cons first rest ih =>
      rw [allocateAll_cons] at given ⊢
      cases index with
      | zero =>
          obtain ⟨last, search, same, bound⟩ := search_freshName scan first
          cases asked
          cases given
          rw [List.take_zero, List.append_nil]
          exact ⟨last, search, same, bound⟩
      | succ index =>
          obtain ⟨last, search, same, bound⟩ := ih asked given
          rw [allocate_eq] at search bound
          refine ⟨last, search.congr fun other => ?_, same, ?_⟩
          · simp only [allocate_eq, List.take_succ_cons, List.mem_append, List.mem_cons]
            exact or_assoc.symm.trans (or_congr_left or_comm)
          · rw [List.length_cons] at bound
            omega

/-- Names that are taken one after another are distinct and new.  Each of them is the first candidate
for what is preferred that neither was in use nor has been taken before; the search for it ends, and
passes no more candidates than there are such names.  What is in use then is what was in use and the
names that were taken. -/
theorem allocateAll_fresh (preferred : List String) (scan : Scan) :
    let taken := allocateAll preferred scan
    taken.1.length = preferred.length ∧
    (∀ index text name, preferred[index]? = some text → taken.1[index]? = some name →
      ∃ last, Search (scan.usedNames ++ taken.1.take index) text 0 last ∧
        name = candidate text last ∧ last ≤ scan.usedNames.length + index ∧
        (name ∉ scan.usedNames ∧ name ∉ taken.1.take index) ∧
        ∀ earlier < last, candidate text earlier ∈ scan.usedNames ∨
          candidate text earlier ∈ taken.1.take index) ∧
    taken.1.Nodup ∧ (∀ name ∈ taken.1, name ∉ scan.usedNames) ∧
    taken.2 = { scan with usedNames := taken.1.reverse ++ scan.usedNames } := by
  intro taken
  obtain ⟨distinct, apart⟩ := allocateAll_distinct preferred scan
  refine ⟨length_allocateAll preferred scan, fun index text name asked given => ?_, distinct, apart,
    allocateAll_scan preferred scan⟩
  obtain ⟨last, search, same, bound⟩ := search_allocateAll asked given
  have free := search.free
  rw [← same, List.mem_append, not_or] at free
  refine ⟨last, search, same, bound, free, fun earlier below => ?_⟩
  exact List.mem_append.mp (search.taken earlier (Nat.zero_le _) below)

/-- Two names are preferred of which one is a candidate for the other, the second twice. -/
theorem allocateAll_fresh_colliding :
    let scan : Scan := { usedNames := ["_css", "css"] }
    let preferred := ["css", "css2", "__css"]
    (allocateAll preferred scan).1 = ["_css2", "_css22", "_css3"] ∧
      ∃ last, Search (scan.usedNames ++ ["_css2"]) "css2" 0 last ∧
        "_css22" = candidate "css2" last ∧ last ≤ 3 := by
  intro scan preferred
  have names : (allocateAll preferred scan).1 = ["_css2", "_css22", "_css3"] := by decide +kernel
  obtain ⟨_, first, _⟩ := allocateAll_fresh preferred scan
  obtain ⟨last, search, same, bound, _⟩ :=
    first 1 "css2" "_css22" rfl (by rw [names]; rfl)
  rw [names] at search
  exact ⟨names, last, search, same, bound⟩

end Scan

end StyleInline
