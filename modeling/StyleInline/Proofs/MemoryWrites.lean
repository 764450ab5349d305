import StyleInline.Proofs.Memory
import StyleInline.Session

/-!
# What a change in memory shows

A write shows under every spelling of its path, it makes directories of what stands above, and all
else answers as before.  Setting a time shows nowhere but in the time of the one file.
-/

namespace StyleInline

open Location

/-- A path stands above another one: some names lead from it to the other. -/
def Path.IsAbove (path other : Path) : Prop :=
  ∃ names : List String, names ≠ [] ∧ other.components = path.components ++ names.map .name

namespace Location

variable {location other : Location}

theorem components_inj : location.components = other.components ↔ location = other := by
  constructor
  · intro same
    have rooted_iff : ∀ location : Location,
        .root ∈ location.components ↔ location.isRooted = true := by
      intro location
      simp [components]
    have rooted : location.isRooted = other.isRooted := by
      rw [Bool.eq_iff_iff, ← rooted_iff, ← rooted_iff, same]
    rw [components, components, rooted, List.append_cancel_left_eq] at same
    exact Location.ext rooted (List.map_injective_iff.mpr (fun _ _ => Component.name.inj) same)
  · rintro rfl
    rfl

/-- Above a location are those with a proper beginning of its names. -/
theorem isAbove_path (valid : location.IsValid) (valid' : other.IsValid) :
    location.path.IsAbove other.path ↔
      other.isRooted = location.isRooted ∧ location.names <+: other.names ∧
        location.names ≠ other.names := by
  have longer : ∀ names : List String, other.components = location.components ++ names.map .name ↔
      other = ⟨location.isRooted, location.names ++ names⟩ := by
    intro names
    rw [← components_inj]
    simp [components]
  rw [Path.IsAbove, components_path valid, components_path valid']
  simp only [longer]
  constructor
  · rintro ⟨names, some, rfl⟩
    exact ⟨rfl, List.prefix_append _ _, fun same => some (List.self_eq_append_right.mp same)⟩
  · rintro ⟨rooted, ⟨names, joined⟩, differs⟩
    refine ⟨names, ?_, Location.ext rooted joined.symm⟩
    rintro rfl
    exact differs (by rw [← joined, List.append_nil])

end Location

namespace Path

variable {path other third : Path}

theorem IsAbove.irrefl (path : Path) : ¬ path.IsAbove path := by
  rintro ⟨names, some, same⟩
  have none := List.self_eq_append_right.mp same
  exact some (List.map_eq_nil_iff.mp none)

theorem IsAbove.starts (above : path.IsAbove other) : path.components <+: other.components := by
  obtain ⟨names, _, same⟩ := above
  exact ⟨names.map .name, same.symm⟩

theorem IsAbove.trans (above : path.IsAbove other) (below : other.IsAbove third) :
    path.IsAbove third := by
  obtain ⟨names, some, same⟩ := above
  obtain ⟨more, _, split⟩ := below
  refine ⟨names ++ more, by simp [some], ?_⟩
  rw [split, same, List.map_append, List.append_assoc]

/-- The proper ancestors of a plain path are the plain paths above it. -/
theorem IsPlain.mem_above (plain : path.IsPlain) (plain' : other.IsPlain) :
    other ∈ path.ancestors.drop 1 ↔ other.IsAbove path := by
  obtain ⟨location, valid, rfl⟩ := plain
  obtain ⟨upper, valid', rfl⟩ := plain'
  rw [Location.mem_above valid, isAbove_path valid' valid]
  constructor
  · rintro ⟨names, start, differs, same⟩
    have valid'' : IsValid ⟨location.isRooted, names⟩ := fun name member =>
      valid name (start.subset member)
    rw [(path_inj valid' valid'').mp same]
    exact ⟨rfl, start, differs⟩
  · rintro ⟨rooted, start, differs⟩
    exact ⟨upper.names, start, differs, by rw [rooted]⟩

end Path

namespace Memory

def HoldsFile (memory : Memory) (path : Path) : Prop :=
  ∃ content time, memory.entry? path = some (.file content time)

section Answers

variable {memory other : Memory} {path : Path}

/-- Reading, the time and being a file depend on the entry of a path and on nothing else. -/
theorem answers_eq (same : other.entry? (other.plain path) = memory.entry? (memory.plain path)) :
    other.read path = memory.read path ∧ other.isFile path = memory.isFile path ∧
      other.modified path = memory.modified path := by
  simp only [read, isFile, modified, same, and_self]

theorem answers_file {content : String} {time : Time}
    (found : memory.entry? (memory.plain path) = some (.file content time)) :
    memory.read path = .ok content ∧ memory.isFile path = true ∧
      memory.modified path = .ok time := by
  simp only [read, isFile, modified, found, and_self]

theorem answers_directory (found : memory.entry? (memory.plain path) = some .directory) :
    memory.read path = .error ⟨.invalidInput, "Path is a directory"⟩ ∧
      memory.isFile path = false ∧ memory.modified path = .ok 0 := by
  simp only [read, isFile, modified, found, and_self]

theorem isFile_iff : memory.isFile path = true ↔ memory.HoldsFile (memory.plain path) := by
  unfold isFile HoldsFile
  split
  · next content time found => simp [found]
  · next other => simpa using other

theorem plain_eq_of_cwd (same : other.cwd = memory.cwd) (path : Path) :
    other.plain path = memory.plain path := by
  rw [plain, plain, same]

theorem plain_write (memory : Memory) (path : Path) (content : String) (time : Time)
    (spelled : Path) : (memory.write path content time).plain spelled = memory.plain spelled := by
  have home : (memory.write path content time).cwd = memory.cwd := by simp only [write]
  rw [plain_eq_of_cwd home]

end Answers

section Writing

variable {memory : Memory} {other : Path}

theorem entry?_write_same (home : memory.cwd.IsPlain) (path : Path) (content : String)
    (time : Time) :
    entry? (memory.write path content time) (memory.plain path) = some (.file content time) := by
  have plain := plain_isPlain home path
  have apart : memory.plain path ∉ (memory.plain path).ancestors.drop 1 := fun member =>
    Path.IsAbove.irrefl _ ((plain.mem_above plain).mp member)
  rw [entry?_write, if_neg apart, if_pos rfl]

theorem entry?_write_above (home : memory.cwd.IsPlain) {path : Path} (plain : other.IsPlain)
    (above : other.IsAbove (memory.plain path)) (content : String) (time : Time) :
    entry? (memory.write path content time) other = some .directory := by
  rw [entry?_write, if_pos (((plain_isPlain home path).mem_above plain).mpr above)]

theorem entry?_write_other (home : memory.cwd.IsPlain) {path : Path} (plain : other.IsPlain)
    (differs : other ≠ memory.plain path) (apart : ¬ other.IsAbove (memory.plain path))
    (content : String) (time : Time) :
    entry? (memory.write path content time) other = memory.entry? other := by
  rw [entry?_write, if_neg (mt ((plain_isPlain home path).mem_above plain).mp apart),
    if_neg differs]

/-- A write makes a directory, is the file itself, or changes nothing. -/
theorem entry?_write_cases (home : memory.cwd.IsPlain) (plain : other.IsPlain) (path : Path)
    (content : String) (time : Time) :
    (other.IsAbove (memory.plain path) ∧ other ≠ memory.plain path ∧
      entry? (memory.write path content time) other = some .directory) ∨
    (other = memory.plain path ∧
      entry? (memory.write path content time) other = some (.file content time)) ∨
    (¬ other.IsAbove (memory.plain path) ∧ other ≠ memory.plain path ∧
      entry? (memory.write path content time) other = memory.entry? other) := by
  by_cases above : other.IsAbove (memory.plain path)
  · left
    refine ⟨above, ?_, entry?_write_above home plain above content time⟩
    rintro rfl
    exact Path.IsAbove.irrefl _ above
  · right
    by_cases same : other = memory.plain path
    · left
      exact ⟨same, same ▸ entry?_write_same home path content time⟩
    · right
      exact ⟨above, same, entry?_write_other home plain same above content time⟩

/-- A written file is read back under every spelling of its path, and what stands above it is a
directory; everywhere else the answers are as before. -/
theorem answers_write (home : memory.cwd.IsPlain) (path : Path) (content : String) (time : Time)
    (other : Path) :
    let written := memory.write path content time
    (memory.plain other = memory.plain path →
      written.read other = .ok content ∧ written.isFile other = true ∧
        written.modified other = .ok time) ∧
    ((memory.plain other).IsAbove (memory.plain path) →
      written.read other = .error ⟨.invalidInput, "Path is a directory"⟩ ∧
        written.isFile other = false ∧ written.modified other = .ok 0) ∧
    (memory.plain other ≠ memory.plain path → ¬ (memory.plain other).IsAbove (memory.plain path) →
      written.read other = memory.read other ∧ written.isFile other = memory.isFile other ∧
        written.modified other = memory.modified other) := by
  intro written
  have plain := plain_isPlain home other
  refine ⟨?_, ?_, ?_⟩
  · intro same
    apply answers_file
    rw [plain_write, same]
    exact entry?_write_same home path content time
  · intro above
    apply answers_directory
    rw [plain_write]
    exact entry?_write_above home plain above content time
  · intro differs apart
    apply answers_eq
    rw [plain_write]
    exact entry?_write_other home plain differs apart content time

end Writing

section Timing

variable {memory next : Memory} {path : Path} {time : Time}

/-- Another time of a file is no other list of files. -/
theorem filePaths_put {content : String} {old : Time} {entries : List (Path × Entry)}
    (found : entries.lookup path = some (.file content old)) (time : Time) (cwd : Path) :
    filePaths ⟨put path (.file content time) entries, cwd⟩ = filePaths ⟨entries, cwd⟩ := by
  induction entries with
  | nil => cases found
  | cons first rest ih =>
      obtain ⟨key, entry⟩ := first
      rw [lookup_cons] at found
      rw [put]
      by_cases same : key = path
      · subst same
        rw [if_pos rfl, Option.some.injEq] at found
        subst found
        rw [if_pos rfl]
        rfl
      · rw [if_neg (Ne.symm same)] at found
        rw [if_neg same]
        have later := ih found
        simp only [filePaths, List.filterMap_cons] at later ⊢
        rw [later]

/-- What setting a time leads to: the same files and directories, and one file with that time. -/
theorem setModified_ok (changed : memory.setModified path time = .ok next) :
    ∃ content old, memory.entry? (memory.plain path) = some (.file content old) ∧
      next.cwd = memory.cwd ∧ next.filePaths = memory.filePaths ∧
      ∀ other, next.entry? other =
        if other = memory.plain path then some (.file content time) else memory.entry? other := by
  rcases setModified_eq memory path time with
    ⟨content, old, found, next', set, cwd, entries⟩ | ⟨_, failed⟩
  · obtain rfl : next' = next := Except.ok.inj (set.symm.trans changed)
    refine ⟨content, old, found, cwd, ?_, ?_⟩
    · obtain ⟨_, _⟩ := next'
      obtain rfl := entries
      exact filePaths_put found time _
    · intro other
      rw [ entry?, entries, lookup_put]
      rfl
  · rw [failed] at changed
    cases changed

/-- A path answers as before setting a time, but for the time of that file. -/
theorem answers_setModified (changed : memory.setModified path time = .ok next) (other : Path) :
    next.read other = memory.read other ∧ next.isFile other = memory.isFile other ∧
      (memory.plain other ≠ memory.plain path → next.modified other = memory.modified other) := by
  obtain ⟨content, old, found, cwd, _, entries⟩ := setModified_ok changed
  have plain := plain_eq_of_cwd cwd other
  by_cases same : memory.plain other = memory.plain path
  · have before : memory.entry? (memory.plain other) = some (.file content old) := by
      rw [same, found]
    have after : next.entry? (next.plain other) = some (.file content time) := by
      rw [plain, entries, if_pos same]
    obtain ⟨read, isFile, _⟩ := answers_file before
    obtain ⟨read', isFile', _⟩ := answers_file after
    exact ⟨read'.trans read.symm, isFile'.trans isFile.symm, fun differs => absurd same differs⟩
  · have unchanged : next.entry? (next.plain other) = memory.entry? (memory.plain other) := by
      rw [plain, entries, if_neg same]
    obtain ⟨read, isFile, modified⟩ := answers_eq unchanged
    exact ⟨read, isFile, fun _ => modified⟩

/-- Setting a time is seen in the time of that file only. -/
theorem reply_setModified (changed : memory.setModified path time = .ok next)
    {inquiry : Inquiry}
    (elsewhere : ∀ other, inquiry = .modified other → memory.plain other ≠ memory.plain path) :
    next.fileSystem.reply inquiry = memory.fileSystem.reply inquiry := by
  obtain ⟨_, _, _, cwd, files, _⟩ := setModified_ok changed
  have answers := answers_setModified changed
  cases inquiry with
  | cwd => simp only [FileSystem.reply, fileSystem, cwd]
  | read other => simp only [FileSystem.reply, fileSystem, (answers other).1]
  | modified other =>
      simp only [FileSystem.reply, fileSystem, (answers other).2.2 (elsewhere other rfl)]
  | isFile other => simp only [FileSystem.reply, fileSystem, (answers other).2.1]
  | glob pattern => simp only [FileSystem.reply, fileSystem, glob, cwd, files]
  | findAncestor names start root =>
      have isFile : next.isFile = memory.isFile := funext fun other => (answers other).2.1
      simp only [FileSystem.reply, FileSystem.findAncestor, fileSystem, isFile]

end Timing

/-- Whatever was done to a memory, a write is read back under every spelling of its path, makes
directories of what stands above and changes no other answer; setting the time of a file changes no
answer but its time, and setting the time of anything else fails and changes nothing. -/
theorem answers_framed {memory : Memory} (reached : Reached (fun _ _ => True) memory)
    (path : Path) (time : Time) :
    (∀ content other,
      let written := memory.write path content time
      (memory.plain other = memory.plain path →
        written.read other = .ok content ∧ written.isFile other = true ∧
          written.modified other = .ok time) ∧
      ((memory.plain other).IsAbove (memory.plain path) →
        written.read other = .error ⟨.invalidInput, "Path is a directory"⟩ ∧
          written.isFile other = false ∧ written.modified other = .ok 0) ∧
      (memory.plain other ≠ memory.plain path →
        ¬ (memory.plain other).IsAbove (memory.plain path) →
        written.read other = memory.read other ∧ written.isFile other = memory.isFile other ∧
          written.modified other = memory.modified other)) ∧
    (memory.isFile path = true →
      ∃ next, memory.setModified path time = .ok next ∧
        (∀ other, memory.plain other = memory.plain path → next.modified other = .ok time) ∧
        ∀ inquiry, (∀ other, inquiry = .modified other → memory.plain other ≠ memory.plain path) →
          next.fileSystem.reply inquiry = memory.fileSystem.reply inquiry) ∧
    (memory.isFile path = false →
      memory.setModified path time = .error missing ∧
        ∀ session : Session, session.memory = memory →
          (session.perform (.setModified path time)).session = session) := by
  refine ⟨?_, ?_, ?_⟩
  · intro content other
    exact answers_write reached.plain.1 path content time other
  · intro file
    obtain ⟨content, old, found⟩ := isFile_iff.mp file
    rcases setModified_eq memory path time with ⟨_, _, _, next, changed, _⟩ | ⟨none, _⟩
    · refine ⟨next, changed, ?_, fun inquiry elsewhere => reply_setModified changed elsewhere⟩
      intro other same
      obtain ⟨content, _, _, cwd, _, entries⟩ := setModified_ok changed
      have stored : next.entry? (next.plain other) = some (.file content time) := by
        rw [plain_eq_of_cwd cwd, entries, if_pos same]
      exact (answers_file stored).2.2
    · exact absurd found (none content old)
  · intro other
    rcases setModified_eq memory path time with ⟨content, old, found, _⟩ | ⟨_, failed⟩
    · rw [isFile_iff.mpr ⟨content, old, found⟩] at other
      cases other
    · refine ⟨failed, ?_⟩
      rintro session rfl
      simp only [Session.perform, failed, Session.tell]

/-- A file below another one, written from a working directory. -/
theorem answers_framed_below :
    let memory := ((setCwd {} ⟨"/src"⟩).write ⟨"a.css"⟩ "a" 1).write ⟨"b.css"⟩ "b" 2
    let written := memory.write ⟨"./a.css/c.css"⟩ "c" 3
    written.read ⟨"/src/a.css//c.css"⟩ = .ok "c" ∧
      written.read ⟨"../src/a.css"⟩ = .error ⟨.invalidInput, "Path is a directory"⟩ ∧
      written.modified ⟨"/src/b.css"⟩ = .ok 2 := by
  intro memory written
  have reached : Reached (fun _ _ => True) memory :=
    .write (.write (.setCwd .start trivial) trivial _ _) trivial _ _
  obtain ⟨frame, _⟩ := answers_framed reached ⟨"./a.css/c.css"⟩ 3
  have below : memory.plain ⟨"./a.css/c.css"⟩ = ⟨"/src/a.css/c.css"⟩ := by decide +kernel
  have beside : memory.plain ⟨"/src/b.css"⟩ = ⟨"/src/b.css"⟩ := by decide +kernel
  have apart : ¬ Path.IsAbove ⟨"/src/b.css"⟩ ⟨"/src/a.css/c.css"⟩ := fun above =>
    absurd above.starts (by decide +kernel)
  rw [below] at frame
  obtain ⟨same, _⟩ := frame "c" ⟨"/src/a.css//c.css"⟩
  obtain ⟨_, above, _⟩ := frame "c" ⟨"../src/a.css"⟩
  obtain ⟨_, _, others⟩ := frame "c" ⟨"/src/b.css"⟩
  refine ⟨(same (by decide +kernel)).1, (above ⟨["c.css"], by decide, by decide +kernel⟩).1, ?_⟩
  rw [beside] at others
  rw [(others (by decide +kernel) apart).2.2]
  decide +kernel

end Memory

end StyleInline
