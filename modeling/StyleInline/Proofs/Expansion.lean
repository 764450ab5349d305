import StyleInline.FileSystem.Memory
import StyleInline.Proofs.ListingOrder
import StyleInline.Proofs.Search
import StyleInline.Proofs.WalkAcceptance

/-!
# Patterns in a tree and in memory

A pattern is expanded by a walk through the directories of a tree, or by a comparison of each path
in memory with the whole pattern.  The two go through different readings of a pattern, and list the
same files as long as these agree.
-/

namespace StyleInline

open Glob Location

/-- The segments of a pattern behind a working directory, without `.` and `..`. -/
def FileSystem.anchored (cwd : Path) (pattern : String) : List String :=
  (nowhere.follow (cwd.join ⟨pattern⟩).components).names

section Anchoring

variable {cwd : Path}

theorem isName_anchored (cwd : Path) (pattern : String) :
    ∀ segment ∈ FileSystem.anchored cwd pattern, IsName segment :=
  isValid_nowhere.follow_path (cwd.join ⟨pattern⟩)

theorem anchor_eq (absolute : cwd.isAbsolute = true) (pattern : String) :
    FileSystem.anchor cwd pattern = (path ⟨true, FileSystem.anchored cwd pattern⟩).text := by
  have rooted : (nowhere.follow (cwd.join ⟨pattern⟩).components).isRooted = true := by
    rw [← isAbsolute_path (isValid_nowhere.follow_path _), ← normalize_eq, isAbsolute_normalize]
    exact isAbsolute_join absolute _
  rw [FileSystem.anchor, normalize_eq, FileSystem.anchored, ← rooted]

end Anchoring

namespace Glob.Wildcards

variable {segments before rest : List Segment}

theorem collapse_narrow (narrow : ∀ segment ∈ before, ¬ IsDirectories segment) :
    collapse (before ++ rest) = before ++ collapse rest := by
  induction before with
  | nil => rfl
  | cons segment before ih =>
      rw [List.cons_append, collapse.eq_2, ih fun other member => narrow other (by simp [member])]
      · rfl
      · rintro _ rfl _
        exact narrow _ (by simp) rfl

/-- Segments for directories in a row are one. -/
theorem collapse_run {run : List Segment} (some : run ≠ [])
    (isWide : ∀ segment ∈ run, IsDirectories segment)
    (narrow : ∀ segment ∈ rest, ¬ IsDirectories segment) :
    collapse (run ++ rest) = .directories :: rest := by
  have plain : collapse rest = rest := by
    have whole : collapse (rest ++ []) = rest ++ collapse [] := collapse_narrow narrow
    rwa [List.append_nil, collapse.eq_3, List.append_nil] at whole
  induction run with
  | nil => exact absurd rfl some
  | cons segment run ih =>
      obtain rfl : segment = .directories := isWide segment (by simp)
      by_cases last : run = []
      · subst last
        rw [List.singleton_append, collapse.eq_2, plain]
        rintro tail _ rfl
        exact narrow .directories (by simp) rfl
      · obtain ⟨second, run, rfl⟩ := List.exists_cons_of_ne_nil last
        obtain rfl : second = .directories := isWide second (by simp)
        have later := ih last fun other member => isWide other (by simp [member])
        rw [List.cons_append, List.cons_append, collapse.eq_1]
        exact later

theorem isDirectories_ofName_iff {segment : String} :
    IsDirectories (.ofName segment) ↔ IsWide segment := by
  rcases ofName_cases segment with ⟨isWide, read⟩ | ⟨narrow, _, read⟩ | ⟨narrow, _, read⟩
  all_goals simp [IsDirectories, *]

theorem isProper_ofName {segment : String} (named : IsName segment) (narrow : ¬ IsWide segment) :
    Disk.IsProper (.ofName segment) := by
  refine ⟨mt isDirectories_ofName_iff.mp narrow, ?_⟩
  intro text read
  rcases ofName_cases segment with ⟨isWide, _⟩ | ⟨_, _, same⟩ | ⟨_, _, same⟩
  · exact absurd isWide narrow
  · rw [same] at read
    cases read
    exact named
  · rw [same] at read
    cases read

/-- Segments that do not end with one for directories can be walked along once runs of these are
one. -/
theorem listable_collapse (proper : ∀ segment ∈ segments, IsDirectories segment ∨ Disk.IsProper segment)
    (ended : ∀ segment ∈ segments.getLast?, ¬ IsDirectories segment) :
    Disk.Listable (fun _ => False) (collapse segments) := by
  induction segments using collapse.induct with
  | case1 rest ih =>
      rw [collapse]
      apply ih
      · intro segment member
        exact proper segment (List.mem_cons_of_mem _ member)
      · rwa [List.getLast?_cons_cons] at ended
  | case2 segment rest other ih =>
      rw [collapse.eq_2 _ _ other]
      have behind : Disk.Listable (fun _ => False) (collapse rest) := by
        apply ih
        · intro segment member
          exact proper segment (List.mem_cons_of_mem _ member)
        · intro last member
          apply ended last
          cases rest with
          | nil => cases member
          | cons second rest => rwa [List.getLast?_cons_cons]
      rcases proper segment (by simp) with isWide | isProper
      · -- the next segment is for one name, or the run would go on
        obtain rfl := isWide
        cases rest with
        | nil => exact absurd rfl (ended .directories (by simp))
        | cons second rest =>
            have narrow : ∀ tail, second = .directories → rest = .directories :: tail → False := by
              rintro _ rfl _
              exact other rest rfl rfl
            rw [collapse.eq_2 _ _ narrow] at behind ⊢
            generalize collapse rest = behind' at behind ⊢
            cases behind with
            | wide _ _ => exact absurd rfl fun same => other rest same rfl
            | narrow isProper _ listable => exact .wide isProper listable
      · exact .narrow isProper (.inr id) behind
  | case3 => exact .nil

end Glob.Wildcards

def Disk.HoldsFile (disk : Disk) (names : List String) : Prop :=
  ∃ content time, (names, .file content time) ∈ disk.entries

/-- A tree and a memory hold files under the same names and work in the same directory. -/
structure HoldSameFiles (disk : Disk) (memory : Memory) : Prop where
  cwd : memory.cwd = disk.cwd
  absolute : disk.cwd.isAbsolute = true
  tree : disk.IsTree
  unique : (memory.entries.map Prod.fst).Nodup
  files : ∀ path, path ∈ memory.filePaths ↔ ∃ names, disk.HoldsFile names ∧ path = Disk.rooted names

section Files

variable {disk : Disk} {memory : Memory} {names : List String} {pattern : String}

theorem Disk.HoldsFile.valid (holds : disk.HoldsFile names) (tree : disk.IsTree) :
    names ≠ [] ∧ ∀ name ∈ names, IsName name := by
  obtain ⟨content, time, member⟩ := holds
  obtain ⟨some, named⟩ := tree.named _ _ member
  exact ⟨some, fun name inside => (named name inside).1⟩

theorem isFile_rooted (tree : disk.IsTree) (valid : ∀ name ∈ names, IsName name) :
    disk.isFile (Disk.rooted names) = true ↔ disk.HoldsFile names := by
  rw [Disk.rooted, Disk.isFile_path tree valid, Disk.HoldsFile]
  simp only [Disk.entry?_eq_some_iff tree, reduceCtorEq, and_false, false_or]

theorem nodup_filePaths (unique : (memory.entries.map Prod.fst).Nodup) : memory.filePaths.Nodup := by
  have sublist : memory.filePaths.Sublist (memory.entries.map Prod.fst) := by
    unfold Memory.filePaths
    induction memory.entries with
    | nil => exact .slnil
    | cons pair rest ih =>
        obtain ⟨path, _ | _⟩ := pair
        · exact ih.cons_cons path
        · exact ih.cons path
  exact unique.sublist sublist

theorem rooted_nil : Disk.rooted [] = ⟨"/"⟩ := by
  apply Path.ext
  rw [← String.toList_inj]
  exact @toList_path ⟨true, []⟩ isValid_root

theorem fileSystem_glob (disk : Disk) : disk.fileSystem.glob = disk.glob := by
  rw [Disk.fileSystem]

/-- What a tree lists for a pattern without faults. -/
theorem glob_eq (absolute : disk.cwd.isAbsolute = true)
    (simple : ∀ segment ∈ FileSystem.anchored disk.cwd pattern, IsSimple segment) :
    disk.glob pattern = .ok (((disk.matching
      (Wildcards.collapse ((FileSystem.anchored disk.cwd pattern).map .ofName))
      (Disk.rooted [])).filter disk.isFile).mergeSort Path.notBehind) := by
  have read := Wildcards.segments_path (isName_anchored disk.cwd pattern) simple
  rw [← anchor_eq absolute] at read
  unfold Disk.glob
  rw [read]
  dsimp only
  rw [rooted_nil]
  rfl

theorem mem_glob_iff (same : HoldSameFiles disk memory) {found : Path} :
    found ∈ memory.glob pattern ↔ ∃ names, disk.HoldsFile names ∧ found = Disk.rooted names ∧
      Braces.accepts (path ⟨true, FileSystem.anchored disk.cwd pattern⟩).text
        (path ⟨true, names⟩).text = true := by
  rw [Memory.glob, List.mem_mergeSort, List.mem_filter, same.files, same.cwd,
    anchor_eq same.absolute]
  constructor
  · rintro ⟨⟨names, holds, rfl⟩, accepted⟩
    exact ⟨names, holds, rfl, accepted⟩
  · rintro ⟨names, holds, rfl, accepted⟩
    exact ⟨⟨names, holds, rfl⟩, accepted⟩

/-- What fits a pattern is found by a walk along its segments. -/
theorem mem_matching (same : HoldSameFiles disk memory) {reveals : Wildcards.Segment → Prop}
    {segments : List String}
    (listable : Disk.Listable reveals (Wildcards.collapse (segments.map .ofName)))
    (holds : disk.HoldsFile names) (covers : Covers segments names) :
    names ∈ disk.listing (Wildcards.collapse (segments.map .ofName)) [] := by
  obtain ⟨content, time, member⟩ := holds
  have found : disk.entry? ([] ++ names) = some (.file content time) :=
    (Disk.entry?_eq_some_iff same.tree).mpr (.inr member)
  have reaches := (Wildcards.reaches_collapse _ _).mpr ((Wildcards.reaches_map segments names).mpr covers)
  exact Disk.mem_listing same.tree listable found reaches

/-- Both list the same files if the comparison in memory accepts what fits, and the walk comes to
nothing twice. -/
theorem glob_eq_of_accepts (same : HoldSameFiles disk memory)
    (simple : ∀ segment ∈ FileSystem.anchored disk.cwd pattern, IsSimple segment)
    (listable : Disk.Listable Disk.Reveals
      (Wildcards.collapse ((FileSystem.anchored disk.cwd pattern).map .ofName)))
    (nodup : (disk.listing (Wildcards.collapse ((FileSystem.anchored disk.cwd pattern).map .ofName)) []).Nodup)
    (accepts : ∀ names, disk.HoldsFile names →
      (Braces.accepts (path ⟨true, FileSystem.anchored disk.cwd pattern⟩).text
        (path ⟨true, names⟩).text = true ↔ Covers (FileSystem.anchored disk.cwd pattern) names)) :
    disk.glob pattern = .ok (memory.glob pattern) := by
  have valid : ∀ names ∈ disk.listing
      (Wildcards.collapse ((FileSystem.anchored disk.cwd pattern).map .ofName)) [],
      ∀ name ∈ names, IsName name :=
    fun names member => Disk.valid_of_mem_listing same.tree (by simp) listable member
  rw [glob_eq same.absolute simple, Disk.files_matching same.tree (by simp) listable, Memory.glob,
    same.cwd, anchor_eq same.absolute]
  refine congrArg _ (Path.mergeSort_eq ?_ ?_).symm
  · intro found member
    obtain ⟨names, holds, rfl⟩ := (same.files found).mp (List.mem_filter.mp member).1
    exact ⟨⟨true, names⟩, (holds.valid same.tree).2, rfl⟩
  · apply (List.perm_ext_iff_of_nodup ?_ ?_).mpr
    · intro found
      simp only [List.mem_filter, same.files, List.mem_map]
      constructor
      · rintro ⟨⟨names, holds, rfl⟩, accepted⟩
        have covers := (accepts names holds).mp accepted
        refine ⟨⟨names, mem_matching same listable holds covers, rfl⟩, ?_⟩
        exact (isFile_rooted same.tree (holds.valid same.tree).2).mpr holds
      · rintro ⟨⟨names, member, rfl⟩, isFile⟩
        have holds := (isFile_rooted same.tree (valid names member)).mp isFile
        obtain ⟨back, joined, reaches⟩ := Disk.reaches_of_mem_listing same.tree listable member
        obtain rfl : names = back := joined
        have covers := (Wildcards.reaches_map _ names).mp
          ((Wildcards.reaches_collapse _ names).mp reaches)
        exact ⟨⟨names, holds, rfl⟩, (accepts names holds).mpr covers⟩
    · exact (nodup_filePaths same.unique).filter _
    · refine List.Nodup.filter _ (nodup.map_on ?_)
      intro names member names' member' same
      have located : (⟨true, names⟩ : Location) = ⟨true, names'⟩ :=
        (@path_inj ⟨true, names⟩ ⟨true, names'⟩ (valid names member) (valid names' member')).mp same
      cases located
      rfl

end Files

/-- The parts of a pattern that has segments for any names in one run at most: what is behind the run
is tame, and nothing in front of another segment is fitted by `.` or `..`, unless it is directly
behind the run. -/
structure RunsOnce (before run behind : List String) : Prop where
  narrow : ∀ segment ∈ before ++ behind, ¬ IsWide segment
  wide : ∀ segment ∈ run, IsWide segment
  whole : run = [] → behind = []
  tame : IsTame behind
  hidden : ∀ front segment back, before ++ behind = front ++ segment :: back → back ≠ [] →
    front ≠ before → ¬ Disk.Reveals (.ofName segment)

section Agreement

variable {disk : Disk} {memory : Memory} {segments before run behind : List String} {pattern : String}

theorem listable_narrow (valid : ∀ segment ∈ segments, IsName segment)
    (narrow : ∀ segment ∈ segments, ¬ IsWide segment)
    (hidden : ∀ front segment back, segments = front ++ segment :: back → back ≠ [] →
      ¬ Disk.Reveals (.ofName segment)) :
    Disk.Listable Disk.Reveals (segments.map .ofName) := by
  induction segments with
  | nil => exact .nil
  | cons segment segments ih =>
      refine .narrow (Wildcards.isProper_ofName (valid segment (by simp)) (narrow segment (by simp))) ?_ ?_
      · by_cases last : segments = []
        · exact .inl (by simp [last])
        · exact .inr (hidden [] segment segments rfl last)
      · apply ih (fun other member => valid other (by simp [member]))
          (fun other member => narrow other (by simp [member]))
        intro front other back split
        exact hidden (segment :: front) other back (by rw [split]; rfl)

/-- A pattern with one run at most is walked along as it stands, and nothing is come to twice. -/
theorem RunsOnce.listable (once : RunsOnce before run behind) (tree : disk.IsTree)
    (valid : ∀ segment ∈ before ++ run ++ behind, IsName segment) (ended : run ≠ [] → behind ≠ []) :
    Disk.Listable Disk.Reveals (Wildcards.collapse ((before ++ run ++ behind).map .ofName)) ∧
      (disk.listing (Wildcards.collapse ((before ++ run ++ behind).map .ofName)) []).Nodup := by
  have valid' : ∀ segment ∈ before ++ behind, IsName segment := by
    intro segment member
    rcases List.mem_append.mp member with left | right
    · exact valid segment (by simp [left])
    · exact valid segment (by simp [right])
  have proper : ∀ segment ∈ (before ++ behind).map Wildcards.Segment.ofName, Disk.IsProper segment := by
    intro segment member
    obtain ⟨segment, inside, rfl⟩ := List.mem_map.mp member
    exact Wildcards.isProper_ofName (valid' segment inside) (once.narrow segment inside)
  by_cases none : run = []
  · obtain rfl := once.whole none
    subst none
    simp only [List.append_nil] at valid proper ⊢
    rw [← List.append_nil (before.map _),
      Wildcards.collapse_narrow fun segment member => (proper segment member).1,
      Wildcards.collapse.eq_3, List.append_nil]
    refine ⟨listable_narrow valid (by simpa using once.narrow) ?_, Disk.nodup_listing_narrow tree proper []⟩
    intro front segment back split some
    refine once.hidden front segment back (by simpa using split) some ?_
    rintro rfl
    have lengths := congrArg List.length split
    simp at lengths
  · obtain ⟨first, others, rfl⟩ := List.exists_cons_of_ne_nil (ended none)
    have left : ∀ segment ∈ before.map Wildcards.Segment.ofName, Disk.IsProper segment :=
      fun segment member => proper segment (by rw [List.map_append]; exact List.mem_append_left _ member)
    have right : ∀ segment ∈ (first :: others).map Wildcards.Segment.ofName, Disk.IsProper segment :=
      fun segment member => proper segment (by rw [List.map_append]; exact List.mem_append_right _ member)
    have wide : ∀ segment ∈ run.map Wildcards.Segment.ofName, Wildcards.IsDirectories segment := by
      intro segment member
      obtain ⟨segment, inside, rfl⟩ := List.mem_map.mp member
      exact Wildcards.isDirectories_ofName_iff.mpr (once.wide segment inside)
    have read : Wildcards.collapse ((before ++ run ++ first :: others).map .ofName) =
        before.map .ofName ++ .directories :: .ofName first :: others.map .ofName := by
      rw [List.map_append, List.map_append, List.append_assoc,
        Wildcards.collapse_narrow fun segment member => (left segment member).1,
        Wildcards.collapse_run (by simpa using none) wide fun segment member => (right segment member).1]
      rfl
    have hidden : ∀ segment ∈ before.map Wildcards.Segment.ofName, ¬ Disk.Reveals segment := by
      intro segment member
      obtain ⟨segment, inside, rfl⟩ := List.mem_map.mp member
      obtain ⟨front, back, rfl⟩ := List.append_of_mem inside
      exact once.hidden front segment (back ++ first :: others) (by simp) (by simp) (by simp)
    have behind : Disk.Listable Disk.Reveals (others.map .ofName) := by
      apply listable_narrow (fun other member => valid' other (by simp [member]))
        (fun other member => once.narrow other (by simp [member]))
      rintro front segment back rfl some
      refine once.hidden (before ++ first :: front) segment back (by simp) some ?_
      intro same
      have lengths := congrArg List.length same
      simp at lengths
    rw [read]
    refine ⟨.append (fun segment member => ⟨left segment member, hidden segment member⟩)
      (.wide (right _ (by simp)) behind), Disk.nodup_listing_wide tree left right []⟩

theorem listable_anchored (valid : ∀ segment ∈ segments, IsName segment)
    (ended : ∀ segment ∈ segments.getLast?, ¬ IsWide segment) :
    Disk.Listable (fun _ => False) (Wildcards.collapse (segments.map .ofName)) := by
  apply Wildcards.listable_collapse
  · intro segment member
    obtain ⟨segment, inside, rfl⟩ := List.mem_map.mp member
    by_cases isWide : IsWide segment
    · exact .inl (Wildcards.isDirectories_ofName_iff.mpr isWide)
    · exact .inr (Wildcards.isProper_ofName (valid segment inside) isWide)
  · rw [List.getLast?_map]
    intro segment last
    obtain ⟨segment, inside, rfl⟩ := Option.mem_map.mp last
    exact mt Wildcards.isDirectories_ofName_iff.mp (ended segment inside)

/-- What fits a pattern with one run at most is accepted, unless the names engage what is behind the
run. -/
theorem RunsOnce.accepts (once : RunsOnce before run behind) {names : List String}
    (valid : ∀ segment ∈ before ++ run ++ behind, IsName segment)
    (simple : ∀ segment ∈ before ++ run ++ behind, IsSimple segment) (ended : run ≠ [] → behind ≠ [])
    (valid' : names ≠ [] ∧ ∀ name ∈ names, IsName name)
    (short : AreShort (before ++ run ++ behind) names) (quiet : IsQuiet before behind names)
    (covers : Covers (before ++ run ++ behind) names) :
    Braces.accepts (path ⟨true, before ++ run ++ behind⟩).text (path ⟨true, names⟩).text = true := by
  by_cases none : run = []
  · obtain rfl := once.whole none
    subst none
    have narrow := once.narrow
    simp only [List.append_nil] at narrow valid simple short covers ⊢
    exact accepts_narrow valid simple narrow valid'.2 valid'.1 short
      ((Spans.all_narrow_iff narrow).mp covers)
  · exact accepts_wide valid simple once.narrow once.wide none (ended none) once.tame valid'.2 short quiet
      covers

/-- What is listed in memory is listed in a tree of the same files, unless the pattern ends with a
segment for any names.  Both list the same if it has such segments in one run at most, and if the
names on the way to a file do not engage what is behind the run. -/
theorem glob_agrees (same : HoldSameFiles disk memory)
    (anchored : FileSystem.anchored disk.cwd pattern = segments)
    (simple : ∀ segment ∈ segments, IsSimple segment)
    (ended : ∀ segment ∈ segments.getLast?, ¬ IsWide segment)
    (short : ∀ names, disk.HoldsFile names → AreShort segments names) :
    ∃ found listed, memory.fileSystem.glob pattern = .ok found ∧
      disk.fileSystem.glob pattern = .ok listed ∧ found ⊆ listed ∧
      ∀ before run behind, segments = before ++ run ++ behind → RunsOnce before run behind →
        (∀ names, disk.HoldsFile names → Covers segments names → IsQuiet before behind names) →
          found = listed := by
  subst anchored
  have valid := isName_anchored disk.cwd pattern
  have covers : ∀ names, disk.HoldsFile names →
      Braces.accepts (path ⟨true, FileSystem.anchored disk.cwd pattern⟩).text
        (path ⟨true, names⟩).text = true → Covers (FileSystem.anchored disk.cwd pattern) names :=
    fun names holds => covers_of_accepts valid simple ended (holds.valid same.tree).2
      (holds.valid same.tree).1 (short names holds)
  have listed := glob_eq same.absolute simple
  rw [fileSystem_glob]
  refine ⟨memory.glob pattern, _, rfl, listed, ?_, ?_⟩
  · intro found member
    obtain ⟨names, holds, rfl, accepted⟩ := (mem_glob_iff same).mp member
    have listable := listable_anchored valid ended
    rw [List.mem_mergeSort, List.mem_filter]
    refine ⟨Disk.rooted_mem_matching same.tree (by simp) listable
      (mem_matching same listable holds (covers names holds accepted)), ?_⟩
    exact (isFile_rooted same.tree (holds.valid same.tree).2).mpr holds
  · intro before run behind split once quiet
    have ended' : run ≠ [] → behind ≠ [] := by
      rintro some rfl
      rw [split, List.append_nil, List.getLast?_append_of_ne_nil _ some, List.getLast?_eq_some_getLast some]
        at ended
      exact ended _ rfl (once.wide _ (List.getLast_mem some))
    have agreed : disk.glob pattern = .ok (memory.glob pattern) := by
      have along := once.listable same.tree (split ▸ valid) ended'
      apply glob_eq_of_accepts same simple
      · rw [split]
        exact along.1
      · rw [split]
        exact along.2
      · intro names holds
        refine ⟨covers names holds, fun fits => ?_⟩
        have quiet' := quiet names holds fits
        have short' := short names holds
        rw [split] at fits valid simple short' ⊢
        exact once.accepts valid simple ended' (holds.valid same.tree) short' quiet' fits
    rw [listed] at agreed
    exact (Except.ok.inj agreed).symm

end Agreement

/-- A tree with a name twice on the way to a file, a directory named like a stylesheet, and a name
that is not of ASCII. -/
def shelf : Disk where
  entries :=
    [(["a"], .directory), (["a", "a"], .directory), (["a", "a", "b"], .file ByteArray.empty 0),
      (["a.x"], .directory), (["a.x", "b.css"], .file ByteArray.empty 0),
      (["cé"], .file ByteArray.empty 0)]
  cwd := ⟨"/a"⟩

def shelfInMemory : Memory where
  entries :=
    [(⟨"/"⟩, .directory), (⟨"/a"⟩, .directory), (⟨"/a/a"⟩, .directory), (⟨"/a/a/b"⟩, .file "" 0),
      (⟨"/a.x"⟩, .directory), (⟨"/a.x/b.css"⟩, .file "" 0), (⟨"/cé"⟩, .file "" 0)]
  cwd := ⟨"/a"⟩

theorem isTree_shelf : shelf.IsTree where
  named := by
    have named : ∀ pair ∈ shelf.entries,
        pair.1 ≠ [] ∧ ∀ name ∈ pair.1, IsName name ∧ '\x00' ∉ name.toList := by
      unfold IsName
      decide +kernel
    exact fun names entry member => named _ member
  above := by
    intro front name entry member some
    have top : front = (front ++ [name]).dropLast := by simp
    generalize front ++ [name] = names at member top
    subst top
    simp only [shelf, List.mem_cons, Prod.mk.injEq, List.not_mem_nil, or_false] at member ⊢
    rcases member with ⟨rfl, _⟩ | ⟨rfl, _⟩ | ⟨rfl, _⟩ | ⟨rfl, _⟩ | ⟨rfl, _⟩ | ⟨rfl, _⟩ <;> simp at some ⊢
  unique := by decide +kernel

theorem holdsFile_shelf_iff {names : List String} :
    shelf.HoldsFile names ↔ names ∈ [["a", "a", "b"], ["a.x", "b.css"], ["cé"]] := by
  simp [Disk.HoldsFile, shelf, exists_or]

theorem shelves : HoldSameFiles shelf shelfInMemory where
  cwd := rfl
  absolute := by decide +kernel
  tree := isTree_shelf
  unique := by decide +kernel
  files := by
    have paths : shelfInMemory.filePaths =
        [["a", "a", "b"], ["a.x", "b.css"], ["cé"]].map Disk.rooted := by decide +kernel
    intro path
    simp only [paths, List.mem_map, holdsFile_shelf_iff, eq_comm]

/-- Both list what is here in the same directory, told from another one. -/
theorem shelves_agree :
    HoldSameFiles shelf shelfInMemory ∧
      shelfInMemory.fileSystem.glob "../a/./**/*b" = shelf.fileSystem.glob "../a/./**/*b" := by
  refine ⟨shelves, ?_⟩
  have once : RunsOnce ["a"] ["**"] ["*b"] := by
    refine ⟨by unfold IsWide; decide, by unfold IsWide; decide, by simp, .inl (by decide), ?_⟩
    intro front segment back split some apart
    obtain rfl : front = [] := by
      rcases front with _ | ⟨first, _ | ⟨second, front⟩⟩
      · rfl
      · obtain ⟨rfl, -⟩ : first = "a" ∧ _ := by simpa [eq_comm] using split
        exact absurd rfl apart
      · simp at split
    obtain ⟨rfl, -⟩ : "a" = segment ∧ _ := by simpa using split
    unfold Disk.Reveals
    decide +kernel
  have anchored : FileSystem.anchored shelf.cwd "../a/./**/*b" = ["a", "**", "*b"] := by
    decide +kernel
  obtain ⟨found, listed, inMemory, onDisk, _, agree⟩ := glob_agrees shelves anchored
    (by decide +kernel) (by unfold IsWide; decide +kernel)
    (fun names _ marked => absurd marked (by decide +kernel))
  rw [inMemory, onDisk, agree ["a"] ["**"] ["*b"] rfl once ?_]
  intro names holds _ front back split above longer engages
  have few := congrArg List.length split
  rw [List.length_append] at few
  rcases List.mem_cons.mp (holdsFile_shelf_iff.mp holds) with rfl | others
  · obtain ⟨rfl, rfl⟩ : front = ["a"] ∧ back = ["a", "b"] := by
      rcases front with _ | ⟨first, _ | ⟨second, front⟩⟩
      · cases above
      · simpa [eq_comm] using split
      · simp at few longer
        omega
    obtain ⟨b, member, solid, shared⟩ := Braces.Engages.exists_literal engages
    revert b
    decide +kernel
  · have short : ∀ names ∈ [["a.x", "b.css"], ["cé"]], names.length ≤ 2 := by decide
    have fewer := short names others
    simp at above longer
    omega

/-- Patterns of characters, wildcards and whole segments for any names are expanded differently: with
such a segment at the end, in two runs, in front of a star that directories engage, or in front of
another segment of stars; with a mark and a name that is not of ASCII; and with a segment that `..`
fits. -/
theorem shelves_differ :
    HoldSameFiles shelf shelfInMemory ∧
      (∀ pattern ∈ ["/a/**", "/**/a/**/b", "/**/*.css", "/**/*/b.css", "/c?", "/.?/a/a/b"],
        ∀ segment ∈ FileSystem.anchored shelf.cwd pattern, IsSimple segment) ∧
      (shelfInMemory.fileSystem.glob "/a/**" = .ok [⟨"/a/a/b"⟩] ∧
        shelf.fileSystem.glob "/a/**" = .ok []) ∧
      (shelfInMemory.fileSystem.glob "/**/a/**/b" = .ok [⟨"/a/a/b"⟩] ∧
        shelf.fileSystem.glob "/**/a/**/b" ≠ .ok [⟨"/a/a/b"⟩]) ∧
      (shelfInMemory.fileSystem.glob "/**/*.css" = .ok [] ∧
        shelf.fileSystem.glob "/**/*.css" = .ok [⟨"/a.x/b.css"⟩]) ∧
      (shelfInMemory.fileSystem.glob "/**/*/b.css" = .ok [] ∧
        shelf.fileSystem.glob "/**/*/b.css" = .ok [⟨"/a.x/b.css"⟩]) ∧
      (shelfInMemory.fileSystem.glob "/c?" = .ok [] ∧
        shelf.fileSystem.glob "/c?" = .ok [⟨"/cé"⟩]) ∧
      (shelfInMemory.fileSystem.glob "/.?/a/a/b" = .ok [] ∧
        shelf.fileSystem.glob "/.?/a/a/b" = .ok [⟨"/../a/a/b"⟩]) := by
  rw [fileSystem_glob]
  refine ⟨shelves, ?_, ?_, ?_, ?_, ?_, ?_, ?_⟩
  · decide +kernel
  · decide +kernel
  · refine ⟨by decide +kernel, fun same => ?_⟩
    rw [glob_eq (by decide +kernel) (by decide +kernel)] at same
    have lengths := congrArg List.length (Except.ok.inj same)
    rw [List.length_mergeSort] at lengths
    revert lengths
    decide +kernel
  · decide +kernel
  · decide +kernel
  · decide +kernel
  · decide +kernel

end StyleInline
