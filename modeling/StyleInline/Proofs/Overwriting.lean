import StyleInline.Proofs.MemoryWrites

/-!
# Files written over directories

A write makes directories of what stands above it, and does not look at what stands below.  So a
memory is a tree until something is written over what stands below it, and again as soon as
something below that is written.
-/

namespace StyleInline

namespace Memory

/-- What stands above something stored is a directory. -/
def IsTree (memory : Memory) : Prop :=
  ∀ path above : Path, memory.entry? path ≠ none → above.IsPlain → above.IsAbove path →
    memory.entry? above = some .directory

/-- The states that are reached by changes that do not climb above the root, with the plain paths
that were written, the latest first. -/
inductive Written : List Path → Memory → Prop where
  | start : Written [] {}
  | write {paths : List Path} {memory : Memory} (written : Written paths memory) {path : Path}
      (stays : ¬ memory.Climbs path) (content : String) (time : Time) :
      Written (memory.plain path :: paths) (memory.write path content time)
  | setCwd {paths : List Path} {memory : Memory} (written : Written paths memory) {path : Path}
      (stays : ¬ memory.Climbs path) : Written paths (memory.setCwd path)
  | setModified {paths : List Path} {memory next : Memory} (written : Written paths memory)
      {path : Path} (stays : ¬ memory.Climbs path) {time : Time}
      (changed : memory.setModified path time = .ok next) : Written paths next

/-- A path was written after others, and nothing below it has been written since. -/
def IsLastAfter (earlier paths : List Path) (path : Path) : Prop :=
  ∃ later, paths = later ++ path :: earlier ∧ ∀ other ∈ later, ¬ path.IsAbove other

/-- A path was written, and nothing below it has been written since. -/
def IsLast (paths : List Path) (path : Path) : Prop :=
  ∃ earlier, IsLastAfter earlier paths path

/-- A path was written over something below it, and nothing below it has been written since. -/
def Overwrites (paths : List Path) (path : Path) : Prop :=
  ∃ earlier, IsLastAfter earlier paths path ∧ ∃ other ∈ earlier, path.IsAbove other

section Histories

variable {earlier paths : List Path} {latest path : Path}

theorem not_isLast_nil : ¬ IsLast [] path := by
  rintro ⟨earlier, later, impossible, _⟩
  simp at impossible

theorem Overwrites.isLast (overwrites : Overwrites paths path) : IsLast paths path :=
  overwrites.imp fun _ stands => stands.1

theorem isLastAfter_cons :
    IsLastAfter earlier (latest :: paths) path ↔
      (path = latest ∧ earlier = paths) ∨
        (¬ path.IsAbove latest ∧ IsLastAfter earlier paths path) := by
  constructor
  · rintro ⟨later, split, apart⟩
    cases later with
    | nil =>
        rw [List.nil_append, List.cons.injEq] at split
        exact .inl ⟨split.1.symm, split.2.symm⟩
    | cons first later =>
        rw [List.cons_append, List.cons.injEq] at split
        obtain ⟨rfl, rfl⟩ := split
        obtain ⟨notFirst, others⟩ := List.forall_mem_cons.mp apart
        exact .inr ⟨notFirst, later, rfl, others⟩
  · rintro (⟨rfl, rfl⟩ | ⟨notFirst, later, rfl, others⟩)
    · exact ⟨[], rfl, List.forall_mem_nil _⟩
    · exact ⟨latest :: later, rfl, List.forall_mem_cons.mpr ⟨notFirst, others⟩⟩

theorem isLast_cons :
    IsLast (latest :: paths) path ↔
      path = latest ∨ (¬ path.IsAbove latest ∧ IsLast paths path) := by
  simp only [IsLast, isLastAfter_cons, exists_or, exists_and_left, exists_eq, and_true]

theorem overwrites_cons :
    Overwrites (latest :: paths) path ↔
      (path = latest ∧ ∃ other ∈ paths, path.IsAbove other) ∨
        (¬ path.IsAbove latest ∧ Overwrites paths path) := by
  simp only [Overwrites, isLastAfter_cons, or_and_right, and_assoc, exists_or, exists_and_left,
    exists_eq_left]

/-- Of the paths below one that were written, the last stands. -/
theorem exists_isLast_below (below : ∃ other ∈ paths, path.IsAbove other) :
    ∃ other, path.IsAbove other ∧ IsLast paths other := by
  induction paths with
  | nil =>
      obtain ⟨_, impossible, _⟩ := below
      cases impossible
  | cons latest paths ih =>
      by_cases above : path.IsAbove latest
      · exact ⟨latest, above, isLast_cons.mpr (.inl rfl)⟩
      · obtain ⟨other, member, under⟩ := below
        have earlier : other ∈ paths := by
          rcases List.mem_cons.mp member with rfl | earlier
          · exact absurd under above
          · exact earlier
        obtain ⟨last, under, stands⟩ := ih ⟨other, earlier, under⟩
        refine ⟨last, under, isLast_cons.mpr (.inr ⟨?_, stands⟩)⟩
        intro higher
        exact above (under.trans higher)

/-- What was written over stands above a file. -/
theorem Overwrites.exists_isLast (overwrites : Overwrites paths path) :
    ∃ other, path.IsAbove other ∧ IsLast paths other := by
  obtain ⟨earlier, ⟨later, rfl, _⟩, other, member, under⟩ := overwrites
  exact exists_isLast_below ⟨other, by simp [member], under⟩

end Histories

section Entries

variable {memory : Memory} {paths : List Path} {path : Path}

theorem nodup_put {entry : Entry} {entries : List (Path × Entry)}
    (unique : (entries.map Prod.fst).Nodup) : ((put path entry entries).map Prod.fst).Nodup := by
  induction entries with
  | nil => simp [put]
  | cons first rest ih =>
      obtain ⟨key, old⟩ := first
      rw [List.map_cons, List.nodup_cons] at unique
      rw [put]
      split
      · next same =>
        rw [List.map_cons, List.nodup_cons, ← same]
        exact unique
      · next differs =>
        rw [List.map_cons, List.nodup_cons]
        refine ⟨?_, ih unique.2⟩
        intro member
        obtain ⟨pair, inside, same⟩ := List.mem_map.mp member
        rcases mem_put inside with rfl | older
        · exact differs same.symm
        · exact unique.1 (List.mem_map.mpr ⟨pair, older, same⟩)

/-- No path is stored twice. -/
theorem Reached.unique {permits : Memory → Path → Prop} (reached : Reached permits memory) :
    (memory.entries.map Prod.fst).Nodup := by
  induction reached with
  | start => exact List.nodup_nil
  | @write memory _ path _ content time ih =>
      have above : ∀ (above : List Path) (entries : List (Path × Entry)),
          (entries.map Prod.fst).Nodup →
          ((above.foldl (fun entries directory => put directory .directory entries) entries).map
            Prod.fst).Nodup := by
        intro above
        induction above with
        | nil => exact fun entries unique => unique
        | cons first rest ih => exact fun entries unique => ih _ (nodup_put unique)
      exact above _ _ (nodup_put ih)
  | setCwd _ _ ih => exact ih
  | @setModified memory next _ path _ time changed ih =>
      rcases setModified_eq memory path time with ⟨_, _, _, next', set, _, entries⟩ | ⟨_, failed⟩
      · obtain rfl : next' = next := Except.ok.inj (set.symm.trans changed)
        rw [entries]
        exact nodup_put ih
      · rw [failed] at changed
        cases changed

theorem HoldsFile.stored (file : memory.HoldsFile path) : memory.entry? path ≠ none := by
  obtain ⟨content, time, found⟩ := file
  simp [found]

theorem holdsFile_of_mem_glob (unique : (memory.entries.map Prod.fst).Nodup) {pattern : String}
    (member : path ∈ memory.glob pattern) : memory.HoldsFile path := by
  have listed := (List.mem_filter.mp (List.mem_mergeSort.mp member)).1
  obtain ⟨⟨key, entry⟩, stored, file⟩ := List.mem_filterMap.mp listed
  cases entry with
  | file content time =>
      cases file
      exact ⟨content, time, (lookup_eq_some_iff unique).mpr stored⟩
  | directory => cases file

end Entries

section Trees

variable {memory : Memory} {paths : List Path} {path : Path}

theorem Written.reached (written : Written paths memory) :
    Reached (fun memory path => ¬ memory.Climbs path) memory := by
  induction written with
  | start => exact .start
  | write _ stays content time ih => exact .write ih stays content time
  | setCwd _ stays ih => exact .setCwd ih stays
  | setModified _ stays changed ih => exact .setModified ih stays changed

theorem Written.home (written : Written paths memory) : memory.cwd.IsPlain :=
  written.reached.plain.1

theorem Written.isPlain (written : Written paths memory) (stored : memory.entry? path ≠ none) :
    path.IsPlain := by
  obtain ⟨entry, found⟩ := Option.ne_none_iff_exists'.mp stored
  exact written.reached.plain.2 _ ((lookup_eq_some_iff written.reached.unique).mp found)

/-- Stored is what was written and what stands above it. -/
theorem Written.stored_iff (written : Written paths memory) (plain : path.IsPlain) :
    memory.entry? path ≠ none ↔ ∃ other ∈ paths, path = other ∨ path.IsAbove other := by
  induction written with
  | start => simp [ entry?]
  | @write paths memory written latest stays content time ih =>
      rw [List.exists_mem_cons_iff, ← ih]
      rcases entry?_write_cases written.home plain latest content time with
        ⟨above, _, directory⟩ | ⟨rfl, file⟩ | ⟨apart, differs, kept⟩
      · simp [directory, above]
      · simp [file]
      · simp [kept, apart, differs]
  | setCwd _ _ ih => exact ih
  | setModified _ _ changed ih =>
      obtain ⟨content, old, found, _, _, entries⟩ := setModified_ok changed
      rw [entries, ← ih]
      split
      · next same => simp [same, found]
      · rfl

/-- A file stands where nothing below was written after it. -/
theorem Written.holdsFile_iff (written : Written paths memory) (plain : path.IsPlain) :
    memory.HoldsFile path ↔ IsLast paths path := by
  induction written with
  | start =>
      constructor
      · rintro ⟨_, _, impossible⟩
        cases impossible
      · intro impossible
        exact absurd impossible not_isLast_nil
  | @write paths memory written latest stays content time ih =>
      rw [isLast_cons, ← ih, HoldsFile]
      rcases entry?_write_cases written.home plain latest content time with
        ⟨above, differs, directory⟩ | ⟨rfl, file⟩ | ⟨apart, differs, kept⟩
      · simp [directory, above, differs]
      · simp [file]
      · simp [kept, apart, differs, HoldsFile]
  | setCwd _ _ ih => exact ih
  | setModified _ _ changed ih =>
      obtain ⟨content, old, found, _, _, entries⟩ := setModified_ok changed
      rw [← ih, HoldsFile, HoldsFile, entries]
      split
      · next same => simp [same, found]
      · rfl

/-- Above something stored is above something written. -/
theorem Written.exists_below (written : Written paths memory) {above : Path}
    (stored : memory.entry? path ≠ none) (higher : above.IsAbove path) :
    ∃ other ∈ paths, above.IsAbove other := by
  obtain ⟨other, member, rfl | under⟩ := (written.stored_iff (written.isPlain stored)).mp stored
  · exact ⟨path, member, higher⟩
  · exact ⟨other, member, higher.trans under⟩

/-- What stands above something stored is stored as well. -/
theorem Written.stored_above (written : Written paths memory) {above : Path}
    (stored : memory.entry? path ≠ none) (plain : above.IsPlain) (higher : above.IsAbove path) :
    memory.entry? above ≠ none := by
  obtain ⟨other, member, under⟩ := written.exists_below stored higher
  exact (written.stored_iff plain).mpr ⟨other, member, .inr under⟩

theorem IsTree.not_above (tree : memory.IsTree) {other : Path} (plain : path.IsPlain)
    (file : memory.HoldsFile path) (stored : memory.entry? other ≠ none) :
    ¬ path.IsAbove other := by
  intro above
  obtain ⟨content, time, found⟩ := file
  rw [tree other path stored plain above] at found
  cases found

theorem Written.mem_isPlain (written : Written paths memory) (member : path ∈ paths) :
    path.IsPlain := by
  induction written with
  | start => cases member
  | @write paths memory written latest stays content time ih =>
      rcases List.mem_cons.mp member with rfl | older
      · exact plain_isPlain written.home latest
      · exact ih older
  | setCwd _ _ ih => exact ih member
  | setModified _ _ _ ih => exact ih member

theorem Written.holdsFile_of_isLast (written : Written paths memory) (last : IsLast paths path) :
    memory.HoldsFile path := by
  refine (written.holdsFile_iff (written.mem_isPlain ?_)).mpr last
  obtain ⟨later, earlier, rfl, _⟩ := last
  simp

/-- Something is stored below a path exactly if something was written below it. -/
theorem Written.stored_below_iff (written : Written paths memory) :
    (∃ other, memory.entry? other ≠ none ∧ path.IsAbove other) ↔
      ∃ other ∈ paths, path.IsAbove other := by
  constructor
  · rintro ⟨other, stored, under⟩
    exact written.exists_below stored under
  · rintro ⟨other, member, under⟩
    exact ⟨other, (written.stored_iff (written.mem_isPlain member)).mpr ⟨other, member, .inl rfl⟩,
      under⟩

/-- A memory is a tree if nothing was written over what stands below it, or not for good. -/
theorem Written.isTree_of_apart (written : Written paths memory)
    (apart : ∀ path, ¬ Overwrites paths path) : memory.IsTree := by
  intro path above stored plain higher
  obtain ⟨entry, found⟩ :=
    Option.ne_none_iff_exists'.mp (written.stored_above stored plain higher)
  cases entry with
  | directory => exact found
  | file content time =>
      -- A file above something stored: that was written before the file, as nothing was since.
      exfalso
      obtain ⟨earlier, later, split, since⟩ :=
        (written.holdsFile_iff plain).mp ⟨content, time, found⟩
      obtain ⟨other, member, under⟩ := written.exists_below stored higher
      rw [split, List.mem_append, List.mem_cons] at member
      rcases member with recent | rfl | old
      · exact since other recent under
      · exact Path.IsAbove.irrefl _ under
      · exact apart above ⟨earlier, ⟨later, split, since⟩, other, old, under⟩

theorem Written.isTree_iff_overwrites (written : Written paths memory) :
    memory.IsTree ↔ ∀ path, ¬ Overwrites paths path := by
  constructor
  · intro tree path overwrites
    obtain ⟨other, under, stands⟩ := overwrites.exists_isLast
    have file := written.holdsFile_of_isLast overwrites.isLast
    have file' := written.holdsFile_of_isLast stands
    exact tree.not_above (written.isPlain file.stored) file file'.stored under
  · exact written.isTree_of_apart

end Trees

/-- A memory is a tree exactly if every path that was written over something below it has been
written below since; that is, if no file stands above a file.  In a tree no file stands above
anything and nothing that a pattern lists above something else that it lists, and it stays a tree
under every write but one over something below.  In every memory all that stands above something
stored is stored as well. -/
theorem isTree_iff {memory : Memory} {paths : List Path} (written : Written paths memory) :
    (memory.IsTree ↔ ∀ path, ¬ Overwrites paths path) ∧
    (memory.IsTree ↔
      ∀ path other, memory.HoldsFile path → memory.HoldsFile other → ¬ path.IsAbove other) ∧
    (∀ path above : Path, memory.entry? path ≠ none → above.IsPlain → above.IsAbove path →
      memory.entry? above ≠ none) ∧
    (memory.IsTree →
      (∀ path other, memory.HoldsFile path → memory.entry? other ≠ none → ¬ path.IsAbove other) ∧
      (∀ pattern, ∀ path ∈ memory.glob pattern, ∀ other ∈ memory.glob pattern,
        ¬ path.IsAbove other) ∧
      ∀ path content time, ¬ memory.Climbs path →
        ((memory.write path content time).IsTree ↔
          ∀ other, memory.entry? other ≠ none → ¬ (memory.plain path).IsAbove other)) := by
  refine ⟨written.isTree_iff_overwrites, ?_, ?_, ?_⟩
  · constructor
    · intro tree path other file file'
      exact tree.not_above (written.isPlain file.stored) file file'.stored
    · intro apart
      apply written.isTree_of_apart
      intro path overwrites
      obtain ⟨other, under, stands⟩ := overwrites.exists_isLast
      exact apart path other (written.holdsFile_of_isLast overwrites.isLast)
        (written.holdsFile_of_isLast stands) under
  · intro path above stored plain higher
    exact written.stored_above stored plain higher
  · intro tree
    refine ⟨?_, ?_, ?_⟩
    · intro path other file stored
      exact tree.not_above (written.isPlain file.stored) file stored
    · intro pattern path listed other listed'
      have file := holdsFile_of_mem_glob written.reached.unique listed
      have file' := holdsFile_of_mem_glob written.reached.unique listed'
      exact tree.not_above (written.isPlain file.stored) file file'.stored
    · intro path content time stays
      have apart := written.isTree_iff_overwrites.mp tree
      have below := not_congr (@Written.stored_below_iff memory paths (memory.plain path) written)
      rw [(written.write stays content time).isTree_iff_overwrites]
      simp only [not_exists, not_and] at below
      simp only [overwrites_cons, apart, and_false, or_false, not_and, forall_eq, not_exists, below]

/-- A file becomes a directory when something is written below it; written once more, it is a file
above a file. -/
theorem isTree_iff_again :
    let memory := (write {} ⟨"/a"⟩ "" 0).write ⟨"/a/b.css"⟩ "" 0
    let again := memory.write ⟨"/a"⟩ "" 0
    memory.IsTree ∧ ¬ again.IsTree ∧
      again.isFile ⟨"/a"⟩ = true ∧ again.isFile ⟨"/a/b.css"⟩ = true := by
  intro memory again
  have stays : ∀ memory : Memory, ¬ memory.Climbs ⟨"/a"⟩ := fun _ => not_climbs (by decide)
  have stays' : ∀ memory : Memory, ¬ memory.Climbs ⟨"/a/b.css"⟩ := fun _ => not_climbs (by decide)
  have spelled : plain {} ⟨"/a"⟩ = ⟨"/a"⟩ := by decide +kernel
  have spelled' : plain (write {} ⟨"/a"⟩ "" 0) ⟨"/a/b.css"⟩ = ⟨"/a/b.css"⟩ := by decide +kernel
  have written : Written _ memory := .write (.write .start (stays _) "" 0) (stays' _) "" 0
  rw [spelled, spelled'] at written
  obtain ⟨tree_iff, _, _, keeps⟩ := isTree_iff written
  have apart : ¬ Path.IsAbove ⟨"/a/b.css"⟩ ⟨"/a"⟩ := fun above =>
    absurd above.starts (by decide +kernel)
  have tree : memory.IsTree := by
    rw [tree_iff]
    intro path
    simp only [overwrites_cons, List.mem_singleton, exists_eq_left]
    rintro (⟨rfl, below⟩ | ⟨_, ⟨_, _, impossible, _⟩ | ⟨_, impossible⟩⟩)
    · exact apart below
    · cases impossible
    · exact not_isLast_nil impossible.isLast
  obtain ⟨_, _, stays_tree⟩ := keeps tree
  refine ⟨tree, ?_, by decide +kernel, by decide +kernel⟩
  rw [stays_tree ⟨"/a"⟩ "" 0 (stays _)]
  intro none
  exact none ⟨"/a/b.css"⟩ (by decide +kernel) ⟨["b.css"], by decide, by decide +kernel⟩

end Memory

end StyleInline
