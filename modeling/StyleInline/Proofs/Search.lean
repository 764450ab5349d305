import StyleInline.Proofs.Listing

/-!
# Searching a tree for a pattern

The walk along the segments of a pattern, told by names instead of paths: from a directory it goes
to the names that fit a segment, and from there on along the other segments.
-/

namespace StyleInline

open Glob Location

namespace Disk

open Wildcards (Segment IsDirectories isDirectories Reaches)

def children (disk : Disk) (segment : Segment) (base : List String) : List String :=
  match disk.entry? base with
  | some .directory => (disk.namesIn base).filter (segment.fits ·)
  | _ => []

def places (disk : Disk) (base : List String) : List (List String) :=
  match disk.entry? base with
  | some .directory => ([] :: disk.directoriesBelow base).map (base ++ ·)
  | _ => []

/-- The names that a walk along segments comes to. -/
def listing (disk : Disk) : List Segment → List String → List (List String)
  | [], base => [base]
  | [.directories], _ => []
  | .directories :: segment :: rest, base =>
    (disk.places base).flatMap fun place =>
      (disk.children segment place).flatMap fun name => listing disk rest (place ++ [name])
  | segment :: rest, base =>
    (disk.children segment base).flatMap fun name => listing disk rest (base ++ [name])

/-- A segment that stands for one name, which a plain path can have if it is written out. -/
def IsProper (segment : Segment) : Prop :=
  ¬ IsDirectories segment ∧ ∀ text, segment = .name text → IsName text

/-- Segments that do not end with one for directories, of which no two follow each other; where the
walk goes on, no segment has a property. -/
inductive Listable (reveals : Segment → Prop) : List Segment → Prop where
  | nil : Listable reveals []
  | wide {segment : Segment} {rest : List Segment} (proper : IsProper segment)
      (listable : Listable reveals rest) : Listable reveals (.directories :: segment :: rest)
  | narrow {segment : Segment} {rest : List Segment} (proper : IsProper segment)
      (hidden : rest = [] ∨ ¬ reveals segment) (listable : Listable reveals rest) :
      Listable reveals (segment :: rest)

section Names

variable {disk : Disk} {segment : Segment} {segments rest : List Segment}
variable {base names : List String}

theorem listing_narrow (proper : IsProper segment) (base : List String) :
    disk.listing (segment :: rest) base =
      (disk.children segment base).flatMap fun name => disk.listing rest (base ++ [name]) := by
  cases segment with
  | directories => exact absurd rfl proper.1
  | name text => cases rest <;> rfl
  | pattern parts => cases rest <;> rfl

theorem mem_children (tree : disk.IsTree) {name : String} :
    name ∈ disk.children segment base ↔
      segment.fits name = true ∧ ∃ entry, disk.entry? (base ++ [name]) = some entry := by
  unfold children
  split
  next here => rw [List.mem_filter, mem_namesIn tree, and_comm]
  next other =>
    simp only [List.not_mem_nil, false_iff, not_and, not_exists]
    intro _ entry found
    exact other (entry?_above tree found (by simp))

theorem nodup_children (tree : disk.IsTree) (segment : Segment) (base : List String) :
    (disk.children segment base).Nodup := by
  unfold children
  split
  · exact (nodup_namesIn tree base).filter _
  · exact List.nodup_nil

theorem mem_places (tree : disk.IsTree) :
    names ∈ disk.places base ↔
      ∃ back, names = base ++ back ∧ disk.entry? base = some .directory ∧
        disk.entry? (base ++ back) = some .directory := by
  unfold places
  split
  next here =>
    simp only [List.mem_map, List.mem_cons, mem_directoriesBelow tree]
    constructor
    · rintro ⟨back, rfl | ⟨_, reached⟩, rfl⟩
      · exact ⟨[], rfl, here, by simpa using here⟩
      · exact ⟨back, rfl, here, reached⟩
    · rintro ⟨back, rfl, _, reached⟩
      refine ⟨back, ?_, rfl⟩
      by_cases top : back = []
      · exact .inl top
      · exact .inr ⟨top, reached⟩
  next other =>
    simp only [List.not_mem_nil, false_iff, not_exists, not_and]
    intro _ _ here
    exact absurd here other

theorem nodup_places (tree : disk.IsTree) (base : List String) : (disk.places base).Nodup := by
  unfold places
  split
  · apply List.Nodup.map
    · exact List.append_right_injective base
    · rw [List.nodup_cons]
      refine ⟨?_, nodup_directoriesBelow tree base⟩
      intro member
      exact ((mem_directoriesBelow tree _).mp member).1 rfl
  · exact List.nodup_nil

/-- What the walk comes to fits the segments. -/
theorem reaches_of_mem_listing {reveals : Segment → Prop} (tree : disk.IsTree)
    (listable : Listable reveals segments) (member : names ∈ disk.listing segments base) :
    ∃ back, names = base ++ back ∧ Reaches segments back := by
  induction listable generalizing base with
  | nil => exact ⟨[], by simpa [listing] using member, .nil⟩
  | wide proper _ ih =>
      rw [listing, List.mem_flatMap] at member
      obtain ⟨place, placed, member⟩ := member
      obtain ⟨name, child, member⟩ := List.mem_flatMap.mp member
      obtain ⟨front, rfl, _⟩ := (mem_places tree).mp placed
      obtain ⟨fit, _⟩ := (mem_children tree).mp child
      obtain ⟨back, rfl, reaches⟩ := ih member
      refine ⟨front ++ name :: back, by simp, (Spans.wide_iff isDirectories).mpr ⟨front, _, rfl, ?_⟩⟩
      exact .name proper.1 fit reaches
  | narrow proper _ _ ih =>
      rw [listing_narrow proper, List.mem_flatMap] at member
      obtain ⟨name, child, member⟩ := member
      obtain ⟨fit, _⟩ := (mem_children tree).mp child
      obtain ⟨back, rfl, reaches⟩ := ih member
      exact ⟨name :: back, by simp, .name proper.1 fit reaches⟩

/-- The walk comes to everything whose names fit the segments. -/
theorem mem_listing {reveals : Segment → Prop} (tree : disk.IsTree)
    (listable : Listable reveals segments) {back : List String} {entry : DiskEntry}
    (found : disk.entry? (base ++ back) = some entry) (reaches : Reaches segments back) :
    base ++ back ∈ disk.listing segments base := by
  induction listable generalizing base back with
  | nil =>
      obtain rfl := Spans.nil_iff.mp reaches
      simp [listing]
  | wide proper _ ih =>
      obtain ⟨front, _, rfl, spans⟩ := (Spans.wide_iff isDirectories).mp reaches
      obtain ⟨name, back, rfl, fit, spans⟩ := (Spans.narrow_iff proper.1).mp spans
      have joined : base ++ (front ++ name :: back) = (base ++ front ++ [name]) ++ back := by simp
      rw [joined] at found ⊢
      obtain ⟨entry', child⟩ := entry?_front tree found
      have place := entry?_above tree child (by simp)
      have here := directory_front tree place
      rw [listing, List.mem_flatMap]
      refine ⟨base ++ front, (mem_places tree).mpr ⟨front, rfl, here, place⟩, ?_⟩
      rw [List.mem_flatMap]
      exact ⟨name, (mem_children tree).mpr ⟨fit, entry', child⟩, ih found spans⟩
  | narrow proper _ _ ih =>
      obtain ⟨name, back, rfl, fit, spans⟩ := (Spans.narrow_iff proper.1).mp reaches
      have joined : base ++ name :: back = (base ++ [name]) ++ back := by simp
      rw [joined] at found ⊢
      obtain ⟨entry', child⟩ := entry?_front tree found
      rw [listing_narrow proper, List.mem_flatMap]
      exact ⟨name, (mem_children tree).mpr ⟨fit, entry', child⟩, ih found spans⟩

theorem Listable.append {reveals : Segment → Prop} {before : List Segment}
    (narrow : ∀ segment ∈ before, IsProper segment ∧ ¬ reveals segment)
    (listable : Listable reveals rest) : Listable reveals (before ++ rest) := by
  induction before with
  | nil => exact listable
  | cons segment before ih =>
      have first := narrow segment (by simp)
      exact .narrow first.1 (.inr first.2) (ih fun other member => narrow other (by simp [member]))

theorem Listable.of_narrow (narrow : ∀ segment ∈ segments, IsProper segment) :
    Listable (fun _ => False) segments := by
  rw [← List.append_nil segments]
  exact .append (fun segment member => ⟨narrow segment member, id⟩) .nil

/-- Names of a directory lead to different places. -/
theorem nodup_listing_cons {reveals : Segment → Prop} (tree : disk.IsTree)
    (proper : IsProper segment) (listable : Listable reveals rest)
    (nodup : ∀ base, (disk.listing rest base).Nodup) (base : List String) :
    (disk.listing (segment :: rest) base).Nodup := by
  rw [listing_narrow proper, List.nodup_flatMap]
  refine ⟨fun name _ => nodup _, (nodup_children tree segment base).imp ?_⟩
  intro name other apart names member member'
  obtain ⟨back, rfl, _⟩ := reaches_of_mem_listing tree listable member
  obtain ⟨back', same, _⟩ := reaches_of_mem_listing tree listable member'
  simp only [List.append_assoc, List.append_cancel_left_eq, List.cons_append, List.nil_append,
    List.cons.injEq] at same
  exact apart same.1

theorem nodup_listing_narrow (tree : disk.IsTree) (narrow : ∀ segment ∈ segments, IsProper segment)
    (base : List String) : (disk.listing segments base).Nodup := by
  induction segments generalizing base with
  | nil => exact List.nodup_singleton base
  | cons segment rest ih =>
      have behind : ∀ other ∈ rest, IsProper other := fun other member =>
        narrow other (by simp [member])
      exact nodup_listing_cons tree (narrow segment (by simp)) (.of_narrow behind) (ih behind) base

/-- Where directories are skipped once, nothing is come to twice: from what is come to, as many
names as there are segments behind lead back to the directory where the skipping ended. -/
theorem nodup_listing_wide {before : List Segment} (tree : disk.IsTree)
    (narrow : ∀ segment ∈ before, IsProper segment)
    (narrow' : ∀ other ∈ segment :: rest, IsProper other) (base : List String) :
    (disk.listing (before ++ .directories :: segment :: rest) base).Nodup := by
  have behind : ∀ other ∈ rest, IsProper other := fun other member =>
    narrow' other (by simp [member])
  have proper := narrow' segment (by simp)
  have listable : Listable (fun _ => False) (.directories :: segment :: rest) :=
    .wide proper (.of_narrow behind)
  induction before generalizing base with
  | nil =>
      rw [List.nil_append, listing, List.nodup_flatMap]
      constructor
      · intro place _
        rw [← listing_narrow proper]
        exact nodup_listing_narrow tree narrow' place
      · apply (nodup_places tree base).imp
        intro place other apart names member member'
        simp only [← listing_narrow proper] at member member'
        obtain ⟨back, rfl, reaches⟩ := reaches_of_mem_listing tree (.of_narrow narrow') member
        obtain ⟨back', same, reaches'⟩ := reaches_of_mem_listing tree (.of_narrow narrow') member'
        have length : ∀ names, Reaches (segment :: rest) names →
            names.length = (segment :: rest).length := by
          intro names reaches
          have each := (Spans.all_narrow_iff fun other member => (narrow' other member).1).mp reaches
          exact each.length_eq.symm
        have lengths : back.length = back'.length := by rw [length _ reaches, length _ reaches']
        exact apart (List.append_inj_left' same lengths)
  | cons first before ih =>
      have others : ∀ other ∈ before, IsProper other := fun other member =>
        narrow other (by simp [member])
      have later : Listable (fun _ => False) (before ++ .directories :: segment :: rest) :=
        .append (fun other member => ⟨others other member, id⟩) listable
      exact nodup_listing_cons tree (narrow first (by simp)) later (ih others) base

end Names

section Paths

variable {disk : Disk} {segment : Segment} {segments rest : List Segment}
variable {base names : List String}

def rooted (names : List String) : Path := path ⟨true, names⟩

theorem rooted_snoc (base : List String) (name : String) :
    rooted (base ++ [name]) = (rooted base).join ⟨name⟩ := path_snoc true base name

theorem rooted_foldl (base names : List String) :
    names.foldl (fun path name => path.join ⟨name⟩) (rooted base) = rooted (base ++ names) := by
  induction names generalizing base with
  | nil => simp
  | cons name rest ih =>
      rw [List.foldl_cons, ← rooted_snoc, ih]
      simp

theorem fitting_path (tree : disk.IsTree) (valid : ∀ name ∈ base, IsName name) (segment : Segment) :
    disk.fitting segment (rooted base) =
      (disk.children segment base).map fun name => rooted (base ++ [name]) := by
  have led := directory?_path tree valid
  unfold fitting children
  rw [rooted, led]
  cases disk.entry? base with
  | none => rfl
  | some entry =>
      cases entry with
      | file content time => rfl
      | directory =>
          apply List.map_congr_left
          intro name _
          exact (rooted_snoc base name).symm

theorem withDirectories_path (tree : disk.IsTree) (valid : ∀ name ∈ base, IsName name) :
    disk.withDirectories (rooted base) = (disk.places base).map rooted := by
  have led := directory?_path tree valid
  unfold withDirectories places
  rw [rooted, led]
  cases disk.entry? base with
  | none => rfl
  | some entry =>
      cases entry with
      | file content time => rfl
      | directory =>
          simp only [List.map_cons, List.map_map, List.append_nil]
          congr 1
          apply List.map_congr_left
          intro names _
          exact rooted_foldl base names

/-- A pattern that the special names of a directory fit. -/
def Reveals (segment : Segment) : Prop :=
  segment.startsWithDot = true ∧ (segment.fits "." = true ∨ segment.fits ".." = true)

/-- A walk comes to the names that fit a segment, and perhaps to special ones. -/
theorem reached_path (tree : disk.IsTree) (valid : ∀ name ∈ base, IsName name)
    (proper : IsProper segment) :
    ∃ special, disk.reached segment (rooted base) =
        ((disk.children segment base).map fun name => rooted (base ++ [name])) ++ special ∧
      (∀ path ∈ special, disk.isFile path = false) ∧ (¬ Reveals segment → special = []) := by
  cases segment with
  | directories => exact absurd rfl proper.1
  | pattern parts =>
      unfold reached
      dsimp only
      rw [fitting_path tree valid]
      refine ⟨_, rfl, ?_, ?_⟩
      · intro path member
        split at member
        · obtain ⟨name, inside, rfl⟩ := List.mem_map.mp member
          apply not_isFile_special tree valid
          split at inside
          · simpa using (List.mem_filter.mp inside).1
          · cases inside
        · cases member
      · intro hidden
        split
        · split
          next dotted =>
            have unfit := not_or.mp fun fit => hidden ⟨dotted, fit⟩
            simp [unfit.1, unfit.2]
          next => rfl
        · rfl
  | name text =>
      have named := proper.2 text rfl
      have other : ¬ (text = "." ∨ text = "..") := by
        rintro (rfl | rfl)
        · exact named.2.1 rfl
        · exact named.2.2.1 rfl
      refine ⟨[], ?_, by simp, fun _ => rfl⟩
      have valid' : ∀ name ∈ base ++ [text], IsName name := by
        intro name member
        rcases List.mem_append.mp member with inside | last
        · exact valid name inside
        · rw [List.mem_singleton.mp last]
          exact named
      have only : ∀ name ∈ disk.children (.name text) base, name = text := by
        intro name member
        have fit := ((mem_children tree).mp member).1
        exact (beq_iff_eq.mp fit).symm
      have led := leadsSomewhere_path tree valid'
      rw [reached]
      simp only [Bool.or_eq_true, decide_eq_true_eq, other, if_false, ← rooted_snoc,
        List.append_nil]
      split
      next somewhere =>
        have child : text ∈ disk.children (.name text) base :=
          (mem_children tree).mpr ⟨by simp [Segment.fits], led.mp somewhere⟩
        have single : disk.children (.name text) base = [text] := by
          have same := List.eq_replicate_of_mem only
          have once := nodup_children tree (.name text) base
          have positive := List.length_pos_of_mem child
          rw [same, List.nodup_replicate] at once
          rw [same, show (disk.children (.name text) base).length = 1 by omega]
          rfl
        rw [single]
        rfl
      next nowhere =>
        have none : disk.children (.name text) base = [] := by
          rw [List.eq_nil_iff_forall_not_mem]
          intro name member
          obtain rfl := only name member
          exact nowhere (led.mpr ((mem_children tree).mp member).2)
        rw [none]
        rfl

theorem matching_narrow (proper : IsProper segment) (path : Path) :
    disk.matching (segment :: rest) path = (disk.reached segment path).flatMap (disk.matching rest) := by
  cases segment with
  | directories => exact absurd rfl proper.1
  | name text => cases rest <;> rfl
  | pattern parts => cases rest <;> rfl

theorem valid_of_child (tree : disk.IsTree) {name : String}
    (child : name ∈ disk.children segment base) : ∀ other ∈ base ++ [name], IsName other := by
  obtain ⟨_, entry, found⟩ := (mem_children tree).mp child
  intro other member
  have named := named_of_entry? tree found other member
  exact named.1

theorem valid_of_place (tree : disk.IsTree) {place : List String}
    (placed : place ∈ disk.places base) : ∀ other ∈ place, IsName other := by
  obtain ⟨back, rfl, _, found⟩ := (mem_places tree).mp placed
  intro other member
  have named := named_of_entry? tree found other member
  exact named.1

theorem valid_of_mem_listing {reveals : Segment → Prop} (tree : disk.IsTree)
    (valid : ∀ name ∈ base, IsName name) (listable : Listable reveals segments)
    (member : names ∈ disk.listing segments base) : ∀ name ∈ names, IsName name := by
  induction listable generalizing base with
  | nil =>
      rw [listing, List.mem_singleton] at member
      rwa [member]
  | wide proper _ ih =>
      rw [listing, List.mem_flatMap] at member
      obtain ⟨place, _, member⟩ := member
      obtain ⟨name, child, member⟩ := List.mem_flatMap.mp member
      exact ih (valid_of_child tree child) member
  | narrow proper _ _ ih =>
      rw [listing_narrow proper, List.mem_flatMap] at member
      obtain ⟨name, child, member⟩ := member
      exact ih (valid_of_child tree child) member

/-- The walk along paths comes to everything that the walk along names comes to. -/
theorem rooted_mem_matching {reveals : Segment → Prop} (tree : disk.IsTree)
    (valid : ∀ name ∈ base, IsName name) (listable : Listable reveals segments)
    (member : names ∈ disk.listing segments base) :
    rooted names ∈ disk.matching segments (rooted base) := by
  induction listable generalizing base with
  | nil =>
      rw [listing, List.mem_singleton] at member
      rw [member, matching, List.mem_singleton]
  | @wide segment rest proper _ ih =>
      rw [listing, List.mem_flatMap] at member
      obtain ⟨place, placed, member⟩ := member
      obtain ⟨name, child, member⟩ := List.mem_flatMap.mp member
      rw [matching, withDirectories_path tree valid, List.mem_flatMap]
      refine ⟨rooted place, List.mem_map_of_mem placed, ?_⟩
      rw [fitting_path tree (valid_of_place tree placed), List.mem_flatMap]
      exact ⟨_, List.mem_map_of_mem child, ih (valid_of_child tree child) member⟩
  | narrow proper _ _ ih =>
      rw [listing_narrow proper, List.mem_flatMap] at member
      obtain ⟨name, child, member⟩ := member
      obtain ⟨special, came, _⟩ := reached_path tree valid proper
      rw [matching_narrow proper, came, List.mem_flatMap]
      refine ⟨_, List.mem_append_left _ (List.mem_map_of_mem child), ?_⟩
      exact ih (valid_of_child tree child) member

/-- Both walks come to the same files in the same order, where special names lead nowhere else. -/
theorem files_matching (tree : disk.IsTree) (valid : ∀ name ∈ base, IsName name)
    (listable : Listable Reveals segments) :
    (disk.matching segments (rooted base)).filter disk.isFile =
      ((disk.listing segments base).map rooted).filter disk.isFile := by
  induction listable generalizing base with
  | nil => rfl
  | wide proper _ ih =>
      rw [matching, listing, withDirectories_path tree valid]
      simp only [List.flatMap_map, List.map_flatMap, List.filter_flatMap]
      apply List.flatMap_congr
      intro place placed
      have valid' := valid_of_place tree placed
      rw [fitting_path tree valid']
      simp only [List.flatMap_map]
      apply List.flatMap_congr
      intro name child
      exact ih (valid_of_child tree child)
  | @narrow segment rest proper hidden _ ih =>
      obtain ⟨special, came, noFile, none⟩ := reached_path tree valid proper
      rw [matching_narrow proper, listing_narrow proper, came]
      simp only [List.flatMap_append, List.filter_append, List.flatMap_map, List.map_flatMap,
        List.filter_flatMap]
      have nothing : special.flatMap (fun path => (disk.matching rest path).filter disk.isFile) = [] := by
        rcases hidden with rfl | hidden
        · rw [List.flatMap_eq_nil_iff]
          intro path member
          simp [matching, noFile path member]
        · rw [none hidden]
          rfl
      rw [nothing, List.append_nil]
      apply List.flatMap_congr
      intro name child
      exact ih (valid_of_child tree child)

end Paths

end Disk

end StyleInline
