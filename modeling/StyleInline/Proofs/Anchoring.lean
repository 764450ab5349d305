import StyleInline.Proofs.LiteralPrefix
import StyleInline.Proofs.Overwriting

/-!
# Patterns behind a working directory

A pattern is put behind the working directory before it is compared with the files in memory.  What
is listed for it is told by that text alone, in the order of listings.  The name of the directory
becomes a part of the pattern: where it has a character with a meaning of its own, a relative
pattern is not held to the directory any more.
-/

namespace StyleInline

open Glob Location

namespace FileSystem

/-- A pattern that was put behind a directory stays as it is behind any other one. -/
theorem anchor_anchor {cwd home : Path} (absolute : cwd.isAbsolute = true) (pattern : String) :
    anchor home (anchor cwd pattern) = anchor cwd pattern := by
  have valid : IsValid ⟨true, anchored cwd pattern⟩ := isName_anchored cwd pattern
  have rooted : (path ⟨true, anchored cwd pattern⟩).isAbsolute = true := isAbsolute_path valid
  rw [anchor_eq absolute, anchor, Path.join, if_pos rooted, normalize_path valid]

end FileSystem

namespace Memory

section Listing

variable {memory : Memory} {path : Path} {pattern : String}

/-- The files are what is stored as a file. -/
theorem mem_filePaths (unique : (memory.entries.map Prod.fst).Nodup) :
    path ∈ memory.filePaths ↔ memory.HoldsFile path := by
  unfold filePaths HoldsFile
  simp only [List.mem_filterMap, entry?, lookup_eq_some_iff unique]
  constructor
  · rintro ⟨⟨key, _ | _⟩, stored, same⟩
    · cases same
      exact ⟨_, _, stored⟩
    · cases same
  · rintro ⟨content, time, stored⟩
    exact ⟨_, stored, rfl⟩

theorem mem_glob_iff_accepts (unique : (memory.entries.map Prod.fst).Nodup) :
    path ∈ memory.glob pattern ↔ memory.HoldsFile path ∧
      Braces.accepts (FileSystem.anchor memory.cwd pattern) path.text = true := by
  rw [glob, List.mem_mergeSort, List.mem_filter, mem_filePaths unique]

theorem nodup_glob (unique : (memory.entries.map Prod.fst).Nodup) :
    (memory.glob pattern).Nodup :=
  (List.mergeSort_perm _ _).nodup_iff.mpr ((nodup_filePaths unique).filter _)

/-- What is listed stands in the order of components, each path before the next. -/
theorem sorted_glob (unique : (memory.entries.map Prod.fst).Nodup)
    (plain : ∀ pair ∈ memory.entries, pair.1.IsPlain) :
    (memory.glob pattern).Pairwise fun left right => left.less right = true := by
  have listed : ∀ path ∈ memory.glob pattern, path.IsPlain := by
    intro path member
    obtain ⟨⟨content, time, found⟩, _⟩ := (mem_glob_iff_accepts unique).mp member
    exact plain _ ((lookup_eq_some_iff unique).mp found)
  have sorted : (memory.glob pattern).Pairwise
      fun left right => Path.notBehind left right = true :=
    List.pairwise_mergeSort Path.notBehind_trans Path.notBehind_total _
  refine (sorted.and (nodup_glob unique)).imp_of_mem ?_
  rintro left right member member' ⟨before, differs⟩
  by_contra other
  refine differs (Path.notBehind_antisymm (listed left member) (listed right member') before ?_)
  rw [Path.notBehind, Bool.eq_false_of_not_eq_true other]
  rfl

end Listing

/-- As long as no path climbs above the root, a pattern lists the files that it accepts behind the
working directory, each once and in the order of components; all of them are there and can be read.
Put behind the directory, it lists the same files from everywhere. -/
theorem glob_exact {memory : Memory}
    (reached : Reached (fun memory path => ¬ memory.Climbs path) memory) (pattern : String) :
    (memory.glob pattern).Pairwise (fun left right => left.less right = true) ∧
    (memory.glob pattern).Nodup ∧
    (∀ path, path ∈ memory.glob pattern ↔
      (∃ content time, (path, .file content time) ∈ memory.entries) ∧
        Braces.accepts (FileSystem.anchor memory.cwd pattern) path.text = true) ∧
    (∀ path ∈ memory.glob pattern, path.isAbsolute = true ∧ memory.plain path = path ∧
      memory.isFile path = true ∧ ∃ content, memory.read path = .ok content) ∧
    ∀ home : Path,
      FileSystem.anchor home (FileSystem.anchor memory.cwd pattern) =
          FileSystem.anchor memory.cwd pattern ∧
        glob { memory with cwd := home } (FileSystem.anchor memory.cwd pattern) =
          memory.glob pattern := by
  obtain ⟨⟨plain, absolute⟩, stored⟩ := reached.absolute
  have unique := reached.unique
  refine ⟨sorted_glob unique fun pair member => (stored pair member).1, nodup_glob unique, ?_, ?_,
    ?_⟩
  · intro path
    rw [mem_glob_iff_accepts unique]
    simp only [HoldsFile, entry?, lookup_eq_some_iff unique]
  · intro path member
    obtain ⟨⟨content, time, found⟩, _⟩ := (mem_glob_iff_accepts unique).mp member
    obtain ⟨plain', absolute'⟩ := stored _ ((lookup_eq_some_iff unique).mp found)
    have same : memory.plain path = path := plain_of_plain plain plain' absolute'
    rw [← same] at found
    obtain ⟨read, isFile, _⟩ := answers_file found
    exact ⟨absolute', same, isFile, content, read⟩
  · intro home
    have fixed : FileSystem.anchor home (FileSystem.anchor memory.cwd pattern) =
        FileSystem.anchor memory.cwd pattern := FileSystem.anchor_anchor absolute pattern
    refine ⟨fixed, ?_⟩
    unfold glob
    dsimp only
    rw [fixed]
    rfl

/-- A directory sorts by its name alone: what is in it comes before a file with a longer name. -/
theorem glob_exact_nested :
    let memory := ((setCwd {} ⟨"/src"⟩).write ⟨"./a.css"⟩ "1" 0).write ⟨"a//b.css"⟩ "2" 0
    memory.glob "../src/./**" = [⟨"/src/a/b.css"⟩, ⟨"/src/a.css"⟩] ∧
      glob { memory with cwd := ⟨"/lib"⟩ } "/src/**" = memory.glob "../src/./**" ∧
      ∃ content, memory.read ⟨"/src/a/b.css"⟩ = .ok content := by
  intro memory
  have reached : Reached (fun memory path => ¬ memory.Climbs path) memory :=
    .write (.write (.setCwd .start (not_climbs (by decide))) (not_climbs (by decide)) _ _)
      (not_climbs (by decide)) _ _
  obtain ⟨_, _, _, there, same⟩ := glob_exact reached "../src/./**"
  have found : memory.filePaths.filter (fun path =>
      Braces.accepts (FileSystem.anchor memory.cwd "../src/./**") path.text) =
        [⟨"/src/a.css"⟩, ⟨"/src/a/b.css"⟩] := by decide +kernel
  have behind : Path.less ⟨"/src/a/b.css"⟩ ⟨"/src/a.css"⟩ = true := by decide +kernel
  have listed : memory.glob "../src/./**" = [⟨"/src/a/b.css"⟩, ⟨"/src/a.css"⟩] := by
    unfold glob
    dsimp only
    rw [found]
    simp [List.mergeSort, behind]
  have anchored : FileSystem.anchor memory.cwd "../src/./**" = "/src/**" := by decide +kernel
  rw [anchored] at same
  exact ⟨listed, (same ⟨"/lib"⟩).2, (there _ (by simp [listed])).2.2.2⟩

section Directories

variable {memory : Memory} {pattern : String}

/-- A relative pattern without `..` adds names to those of the working directory, and they are made
of its own characters. -/
theorem anchored_below (plain : memory.cwd.IsPlain) (absolute : memory.cwd.isAbsolute = true)
    (relative : Path.isAbsolute ⟨pattern⟩ = false) (level : .up ∉ Path.components ⟨pattern⟩) :
    ∃ above names, IsValid ⟨true, above ++ names⟩ ∧ memory.cwd = path ⟨true, above⟩ ∧
      FileSystem.anchor memory.cwd pattern = (path ⟨true, above ++ names⟩).text ∧
      ∀ name ∈ names, ∀ c ∈ name.toList, c ∈ pattern.toList := by
  obtain ⟨⟨isRooted, above⟩, valid, spelled⟩ := plain
  have rooted : isRooted = true := by rwa [spelled, isAbsolute_path valid] at absolute
  subst rooted
  have unrooted : .root ∉ Path.components ⟨pattern⟩ := fun member =>
    (Path.mem_components member).2 relative rfl
  obtain ⟨names, led, among⟩ := follow_level level unrooted ⟨true, above⟩
  have anchored : FileSystem.anchored memory.cwd pattern = above ++ names := by
    have home : nowhere.follow memory.cwd.components = ⟨true, above⟩ := home_of_plain valid spelled
    rw [FileSystem.anchored, follow_join, home, led]
  refine ⟨above, names, ?_, spelled, ?_, ?_⟩
  · rw [← anchored]
    exact isName_anchored memory.cwd pattern
  · rw [anchor_eq absolute, anchored]
  · intro name member c inside
    exact Path.mem_of_name relative (among name member) c inside

/-- A pattern that accepts one path only lists it where it is a file. -/
theorem glob_eq_of_accepts (unique : (memory.entries.map Prod.fst).Nodup) {path : Path}
    (accepts : ∀ other : Path,
      Braces.accepts (FileSystem.anchor memory.cwd pattern) other.text = true ↔ other = path) :
    memory.HoldsFile path ∧ memory.glob pattern = [path] ∨
      ¬ memory.HoldsFile path ∧ memory.glob pattern = [] := by
  by_cases held : memory.HoldsFile path
  · refine .inl ⟨held, List.perm_singleton.mp ?_⟩
    rw [List.perm_ext_iff_of_nodup (nodup_glob unique) (List.nodup_singleton path)]
    intro other
    rw [mem_glob_iff_accepts unique, accepts, List.mem_singleton]
    constructor
    · exact And.right
    · rintro rfl
      exact ⟨held, rfl⟩
  · refine .inr ⟨held, List.eq_nil_iff_forall_not_mem.mpr ?_⟩
    intro other member
    obtain ⟨held', accepted⟩ := (mem_glob_iff_accepts unique).mp member
    rw [(accepts other).mp accepted] at held'
    exact held held'

end Directories

/-- What a relative pattern without `..` lists starts as the working directory does, up to the first
character with a meaning.  Without such characters in the directory all of it lies below the
directory, and a pattern that has none either lists the file it names.  A directory that opens a set
hides all that is below it. -/
theorem glob_anchored {memory : Memory} (reached : Reached (fun _ _ => True) memory)
    (absolute : memory.cwd.isAbsolute = true) {pattern : String}
    (relative : Path.isAbsolute ⟨pattern⟩ = false) (level : .up ∉ Path.components ⟨pattern⟩) :
    (∀ path ∈ memory.glob pattern,
      memory.cwd.text.toList.takeWhile (fun c => ¬ IsMeta c) <+: path.text.toList) ∧
    ((∀ c ∈ memory.cwd.text.toList, ¬ IsMeta c) →
      (∀ path ∈ memory.glob pattern, path.startsWith memory.cwd = true) ∧
      ((∀ c ∈ pattern.toList, ¬ IsMeta c) →
        memory.glob pattern =
          if memory.isFile ⟨pattern⟩ then [(memory.cwd.join ⟨pattern⟩).normalize] else [])) ∧
    ∀ front behind, memory.cwd.text.toList = front ++ '[' :: behind → (∀ c ∈ front, ¬ IsMeta c) →
      (∀ c ∈ ['[', '-', '\\', '^', '!'], c ∉ behind ∧ c ∉ pattern.toList) →
      ∀ path ∈ memory.glob pattern, path.startsWith memory.cwd = false := by
  have unique := reached.unique
  obtain ⟨plain, stored⟩ := reached.plain
  have accepted : ∀ path ∈ memory.glob pattern, path.IsPlain ∧
      Braces.accepts (FileSystem.anchor memory.cwd pattern) path.text = true := by
    intro path member
    obtain ⟨⟨content, time, found⟩, accepted⟩ := (mem_glob_iff_accepts unique).mp member
    exact ⟨stored _ ((lookup_eq_some_iff unique).mp found), accepted⟩
  obtain ⟨above, names, valid, home, anchored, made⟩ := anchored_below plain absolute relative level
  rw [anchored] at accepted
  refine ⟨?_, ?_, ?_⟩
  · intro path member
    rw [home]
    exact literal_prefix_of_accepts valid (accepted path member).2
  · intro literal
    rw [home] at literal
    refine ⟨?_, ?_⟩
    · intro path member
      rw [home]
      exact startsWith_of_accepts valid literal (accepted path member).2
    · intro literal'
      have all : ∀ c ∈ (path ⟨true, above ++ names⟩).text.toList, ¬ IsMeta c := by
        intro c member
        have valid' : IsValid ⟨true, above⟩ := fun name member => valid name (by simp [member])
        obtain rfl | ⟨name, among, inside⟩ := (mem_text_iff valid).mp member
        · decide
        rcases List.mem_append.mp among with front | behind
        · exact literal c ((mem_text_iff valid').mpr (.inr ⟨name, front, inside⟩))
        · exact literal' c (made name behind c inside)
      have target : (memory.cwd.join ⟨pattern⟩).normalize = path ⟨true, above ++ names⟩ :=
        Path.ext anchored
      have denoted : memory.plain ⟨pattern⟩ = path ⟨true, above ++ names⟩ := by
        rcases plain_cases plain ⟨pattern⟩ with ⟨_, same⟩ | ⟨climbs, _⟩
        · rw [same, target]
        · exact absurd climbs (not_climbs level)
      have accepts : ∀ other : Path,
          Braces.accepts (FileSystem.anchor memory.cwd pattern) other.text = true ↔
            other = path ⟨true, above ++ names⟩ := by
        intro other
        rw [anchored, accepts_literal valid all]
        exact ⟨Path.ext, congrArg Path.text⟩
      rw [target]
      rcases glob_eq_of_accepts unique accepts with ⟨held, listed⟩ | ⟨absent, listed⟩
      · rw [← denoted] at held
        rw [listed, if_pos (isFile_iff.mpr held)]
      · rw [← denoted] at absent
        rw [listed, if_neg (mt isFile_iff.mp absent)]
  · intro front behind split literal members path member
    rw [home] at split ⊢
    obtain ⟨plain', accepted⟩ := accepted path member
    refine not_startsWith_of_accepts valid plain' split literal ?_ accepted
    intro c listed
    obtain ⟨absent, absent'⟩ := members c listed
    exact ⟨absent, fun name among inside => absent' (made name among c inside)⟩

/-- Closing brackets are literals; a set takes the directory `ab` for `a[b]`. -/
theorem glob_anchored_set :
    (let memory := (setCwd {} ⟨"/p\x7dq!"⟩).write ⟨"x/y.css"⟩ "" 0
     memory.glob "./x//y.css" = [⟨"/p\x7dq!/x/y.css"⟩]) ∧
    let memory := ((setCwd {} ⟨"/a[b]"⟩).write ⟨"x.css"⟩ "" 0).write ⟨"/ab/x.css"⟩ "" 0
    memory.isFile ⟨"x.css"⟩ = true ∧ memory.glob "x.css" = [⟨"/ab/x.css"⟩] ∧
      ∀ path ∈ memory.glob "x.css", path.startsWith ⟨"/a[b]"⟩ = false := by
  constructor
  · intro memory
    have reached : Reached (fun _ _ => True) memory := .write (.setCwd .start trivial) trivial _ _
    have home : memory.cwd = ⟨"/p\x7dq!"⟩ := by decide +kernel
    obtain ⟨_, literal, _⟩ := @glob_anchored memory reached (by rw [home]; decide) "./x//y.css"
      (by decide) (by decide)
    rw [(literal (by rw [home]; decide +kernel)).2 (by decide +kernel)]
    decide +kernel
  · intro memory
    have reached : Reached (fun _ _ => True) memory :=
      .write (.write (.setCwd .start trivial) trivial _ _) trivial _ _
    have home : memory.cwd = ⟨"/a[b]"⟩ := by decide +kernel
    obtain ⟨_, _, sets⟩ := @glob_anchored memory reached (by rw [home]; decide) "x.css"
      (by decide) (by decide)
    have found : memory.filePaths.filter (fun path =>
        Braces.accepts (FileSystem.anchor memory.cwd "x.css") path.text) = [⟨"/ab/x.css"⟩] := by
      decide +kernel
    rw [home] at sets
    refine ⟨by decide +kernel, ?_, sets ['/', 'a'] ['b', ']'] (by decide +kernel)
      (by decide +kernel) (by decide +kernel)⟩
    unfold glob
    dsimp only
    rw [found, List.mergeSort_singleton]

end Memory

end StyleInline
