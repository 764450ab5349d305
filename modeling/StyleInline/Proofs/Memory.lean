import StyleInline.FileSystem.Memory
import StyleInline.Proofs.Location

/-!
# Places in memory

A path in memory is followed like any other, but for a `..` at the root, which takes the root away.
What is stored stays under plain spellings of locations whatever is done, and under locations from
the root as long as no path climbs above it.
-/

namespace StyleInline

namespace Location

/-- One step of a path in memory; `..` at the top leaves the root. -/
def walk (location : Location) (component : Component) : Location :=
  if component = .up ∧ location.names = [] then nowhere else location.step component

def walkAll (location : Location) (components : List Component) : Location :=
  components.foldl walk location

def Climbs (location : Location) (components : List Component) : Prop :=
  ∃ before after, components = before ++ .up :: after ∧ location.follow before = root

section Walking

variable {location : Location}

theorem IsValid.walk (valid : location.IsValid) {component : Component}
    (proper : component.IsProper) : (location.walk component).IsValid := by
  unfold Location.walk
  split
  · exact isValid_nowhere
  · exact valid.step proper

theorem IsValid.walkAll {components : List Component} (valid : location.IsValid)
    (proper : ∀ component ∈ components, component.IsProper) :
    (location.walkAll components).IsValid := by
  induction components generalizing location with
  | nil => exact valid
  | cons component rest ih =>
      apply ih (valid.walk (proper component (by simp)))
      intro later member
      exact proper later (by simp [member])

/-- A step of memory is a step of the location, told by reversed components. -/
theorem plainStep_components {component : Component} (other : component ≠ .root) :
    Memory.plainStep location.components.reverse component =
      (location.walk component).components.reverse := by
  obtain ⟨isRooted, names⟩ := location
  cases component with
  | root => exact absurd rfl other
  | here => simp [Memory.plainStep, walk, step]
  | up =>
      rcases List.eq_nil_or_concat names with rfl | ⟨front, last, rfl⟩
      · cases isRooted <;> rfl
      · simp [Memory.plainStep, components, walk, step]
  | name text => cases isRooted <;> simp [Memory.plainStep, components, walk, step]

theorem foldl_plainStep {components : List Component} (unrooted : .root ∉ components) :
    (components.foldl Memory.plainStep location.components.reverse).reverse =
      (location.walkAll components).components := by
  induction components generalizing location with
  | nil => simp [walkAll]
  | cons component rest ih =>
      simp only [List.mem_cons, not_or] at unrooted
      rw [List.foldl_cons, plainStep_components (Ne.symm unrooted.1), ih unrooted.2]
      rfl

theorem walkAll_unrooted {components : List Component} (unrooted : .root ∉ components)
    (off : location.isRooted = false) :
    location.walkAll components = location.follow components := by
  induction components generalizing location with
  | nil => rfl
  | cons component rest ih =>
      simp only [List.mem_cons, not_or] at unrooted
      obtain ⟨isRooted, names⟩ := location
      cases off
      have same : walk ⟨false, names⟩ component = step ⟨false, names⟩ component := by
        unfold walk
        split
        next up =>
          obtain ⟨rfl, rfl⟩ := up
          rfl
        next => rfl
      have still : (step ⟨false, names⟩ component).isRooted = false :=
        @isRooted_follow ⟨false, names⟩ [component] (by simpa using unrooted.1)
      rw [walkAll, List.foldl_cons, same]
      exact ih unrooted.2 still

theorem climbs_cons {component : Component} {rest : List Component}
    (stays : ¬ (component = .up ∧ location = root)) :
    location.Climbs (component :: rest) ↔ (location.step component).Climbs rest := by
  constructor
  · rintro ⟨before, after, split, top⟩
    cases before with
    | nil =>
        rw [List.nil_append, List.cons.injEq] at split
        exact absurd ⟨split.1, top⟩ stays
    | cons first before =>
        rw [List.cons_append, List.cons.injEq] at split
        obtain ⟨rfl, rfl⟩ := split
        exact ⟨before, after, rfl, top⟩
  · rintro ⟨before, after, rfl, top⟩
    exact ⟨component :: before, after, rfl, top⟩

/-- What memory makes of a path is where it leads, exactly if it does not climb above the root;
otherwise it leads nowhere from the root any more. -/
theorem walkAll_cases {components : List Component} (unrooted : .root ∉ components) :
    (¬ location.Climbs components ∧ location.walkAll components = location.follow components) ∨
    (location.Climbs components ∧ (location.walkAll components).isRooted = false ∧
      (location.follow components).isRooted = true) := by
  induction components generalizing location with
  | nil =>
      refine .inl ⟨?_, rfl⟩
      rintro ⟨before, after, split, _⟩
      simp at split
  | cons component rest ih =>
      simp only [List.mem_cons, not_or] at unrooted
      by_cases climbing : component = .up ∧ location = root
      · obtain ⟨rfl, rfl⟩ := climbing
        refine .inr ⟨⟨[], rest, rfl, rfl⟩, ?_, ?_⟩
        · have left : root.walkAll (.up :: rest) = nowhere.walkAll rest := rfl
          rw [left, walkAll_unrooted unrooted.2 rfl]
          exact isRooted_follow unrooted.2
        · exact isRooted_follow (by simpa using unrooted.2)
      · rw [climbs_cons climbing]
        have same : location.walk component = location.step component := by
          unfold walk
          split
          next up =>
            obtain ⟨isRooted, names⟩ := location
            obtain ⟨rfl, rfl⟩ := up
            cases isRooted
            · rfl
            · exact absurd ⟨rfl, rfl⟩ climbing
          next => rfl
        rw [walkAll, List.foldl_cons, same]
        exact ih unrooted.2

/-- What memory makes of a path, by the walk from any location. -/
theorem walkAll_path (path : Path) :
    (¬ location.Climbs path.components ∧
      location.walkAll path.components = location.follow path.components) ∨
    (location.Climbs path.components ∧ (location.walkAll path.components).isRooted = false ∧
      (location.follow path.components).isRooted = true) := by
  cases absolute : path.isAbsolute with
  | true =>
      obtain ⟨rest, split, unrooted⟩ := Path.components_of_absolute absolute
      rw [split, climbs_cons (by simp)]
      exact @walkAll_cases root _ unrooted
  | false =>
      exact walkAll_cases fun member => (Path.mem_components member).2 absolute rfl

end Walking

end Location

open Location

/-- Where every key stands once, a look-up finds what stands beside the key. -/
theorem lookup_eq_some_iff {α β : Type} [BEq α] [LawfulBEq α] {entries : List (α × β)} {key : α}
    {entry : β} (unique : (entries.map Prod.fst).Nodup) :
    entries.lookup key = some entry ↔ (key, entry) ∈ entries := by
  induction entries with
  | nil => simp
  | cons first rest ih =>
      obtain ⟨other, old⟩ := first
      simp only [List.map_cons, List.nodup_cons] at unique
      rw [List.lookup_cons, List.mem_cons, Prod.mk.injEq]
      by_cases same : key = other
      · subst same
        simp only [beq_self_eq_true, Option.some.injEq, true_and]
        constructor
        · rintro rfl
          exact .inl rfl
        · rintro (rfl | later)
          · rfl
          · exact absurd (List.mem_map_of_mem later) unique.1
      · rw [beq_eq_false_iff_ne.mpr same]
        simp [same, ih unique.2]

/-- A path that is spelled as a location. -/
def Path.IsPlain (path : Path) : Prop :=
  ∃ location : Location, location.IsValid ∧ path = location.path

namespace Memory

def home (memory : Memory) : Location := nowhere.follow memory.cwd.components

/-- A path climbs above the root. -/
def Climbs (memory : Memory) (path : Path) : Prop := memory.home.Climbs path.components

/-- The states that are reached by changes whose paths are permitted. -/
inductive Reached (permits : Memory → Path → Prop) : Memory → Prop where
  | start : Reached permits {}
  | write {memory : Memory} (reached : Reached permits memory) {path : Path}
      (permitted : permits memory path) (content : String) (time : Time) :
      Reached permits (memory.write path content time)
  | setCwd {memory : Memory} (reached : Reached permits memory) {path : Path}
      (permitted : permits memory path) : Reached permits (memory.setCwd path)
  | setModified {memory next : Memory} (reached : Reached permits memory) {path : Path}
      (permitted : permits memory path) {time : Time}
      (changed : memory.setModified path time = .ok next) : Reached permits next

section Plain

variable {memory : Memory}

theorem home_valid : memory.home.IsValid := isValid_nowhere.follow_path memory.cwd

theorem not_climbs {path : Path} (level : .up ∉ path.components) : ¬ memory.Climbs path := by
  rintro ⟨before, after, split, _⟩
  exact level (by simp [split])

theorem home_of_plain {location : Location} (valid : location.IsValid)
    (spelled : memory.cwd = location.path) : memory.home = location := by
  rw [home, spelled, follow_path nowhere valid]
  obtain ⟨isRooted, names⟩ := location
  cases isRooted <;> simp [nowhere]

/-- The plain path of a path is where the walk from the working directory leads. -/
theorem plain_eq (plain : memory.cwd.IsPlain) (path : Path) :
    memory.plain path = (memory.home.walkAll path.components).path := by
  obtain ⟨location, valid, spelled⟩ := plain
  have known : memory.cwd.components = location.components := by
    rw [spelled, components_path valid]
  rw [home_of_plain valid spelled]
  unfold Memory.plain
  cases absolute : path.isAbsolute with
  | true =>
      obtain ⟨rest, split, unrooted⟩ := Path.components_of_absolute absolute
      have walked := @foldl_plainStep root _ unrooted
      simp only [if_true, split]
      rw [List.reverse_nil, List.foldl_cons]
      exact congrArg Path.ofComponents walked
  | false =>
      have unrooted : .root ∉ path.components := fun member =>
        (Path.mem_components member).2 absolute rfl
      simp only [Bool.false_eq_true, if_false, known, foldl_plainStep unrooted]
      rfl

theorem plain_isPlain (plain : memory.cwd.IsPlain) (path : Path) : (memory.plain path).IsPlain := by
  refine ⟨memory.home.walkAll path.components, ?_, plain_eq plain path⟩
  exact home_valid.walkAll fun _ member => (Path.mem_components member).1

/-- The normal form of a path joined to the working directory. -/
theorem normalize_join (path : Path) :
    (memory.cwd.join path).normalize = (memory.home.follow path.components).path := by
  rw [normalize_eq, follow_join]
  rfl

/-- What a path stands for in memory is the normal form of the path joined to the working directory,
exactly if it does not climb above the root; a path that does stands for a relative one. -/
theorem plain_cases (plain : memory.cwd.IsPlain) (path : Path) :
    (¬ memory.Climbs path ∧ memory.plain path = (memory.cwd.join path).normalize) ∨
    (memory.Climbs path ∧ (memory.plain path).isAbsolute = false ∧
      (memory.cwd.join path).normalize.isAbsolute = true) := by
  rw [plain_eq plain, normalize_join]
  rcases @walkAll_path memory.home path with ⟨stays, same⟩ | ⟨climbs, off, on⟩
  · exact .inl ⟨stays, by rw [same]⟩
  · refine .inr ⟨climbs, ?_, ?_⟩
    · rw [isAbsolute_path (home_valid.walkAll fun _ member => (Path.mem_components member).1), off]
    · rw [isAbsolute_path (home_valid.follow_path path), on]

end Plain

section Entries

theorem lookup_cons (key other : Path) (entry : Entry) (rest : List (Path × Entry)) :
    ((key, entry) :: rest).lookup other =
      if other = key then some entry else rest.lookup other := by
  rw [List.lookup_cons]
  by_cases found : other = key
  · simp [found]
  · rw [beq_eq_false_iff_ne.mpr found, if_neg found]

theorem lookup_put (path : Path) (entry : Entry) (entries : List (Path × Entry)) (other : Path) :
    (put path entry entries).lookup other =
      if other = path then some entry else entries.lookup other := by
  induction entries with
  | nil => rw [put, lookup_cons]
  | cons first rest ih =>
      obtain ⟨key, old⟩ := first
      rw [put]
      split
      · rename_i same
        subst same
        rw [lookup_cons, lookup_cons]
        split <;> rfl
      · rename_i differs
        rw [lookup_cons, lookup_cons, ih]
        by_cases found : other = key
        · subst found
          rw [if_pos rfl, if_neg differs, if_pos rfl]
        · rw [if_neg found, if_neg found]

theorem mem_put {path : Path} {entry : Entry} {entries : List (Path × Entry)}
    {pair : Path × Entry} (member : pair ∈ put path entry entries) :
    pair = (path, entry) ∨ pair ∈ entries := by
  induction entries with
  | nil => exact .inl (List.mem_singleton.mp member)
  | cons first rest ih =>
      rw [put] at member
      split at member
      · rcases List.mem_cons.mp member with same | later
        · exact .inl same
        · exact .inr (by simp [later])
      · rcases List.mem_cons.mp member with same | later
        · exact .inr (by simp [same])
        · rcases ih later with same | old
          · exact .inl same
          · exact .inr (by simp [old])

theorem lookup_above (above : List Path) (entries : List (Path × Entry)) (other : Path) :
    (above.foldl (fun entries directory => put directory .directory entries) entries).lookup other =
      if other ∈ above then some .directory else entries.lookup other := by
  induction above generalizing entries with
  | nil => simp
  | cons first rest ih =>
      rw [List.foldl_cons, ih, lookup_put]
      by_cases later : other ∈ rest
      · simp [later]
      · by_cases found : other = first <;> simp [later, found]

variable {memory : Memory}

/-- A write puts a file under its plain path and directories above, and nothing else. -/
theorem entry?_write (memory : Memory) (path : Path) (content : String) (time : Time)
    (other : Path) :
    entry? (memory.write path content time) other =
      if other ∈ (memory.plain path).ancestors.drop 1 then some .directory
      else if other = memory.plain path then some (.file content time)
      else memory.entry? other := by
  simp only [write, entry?, lookup_above, lookup_put]

/-- Setting a time changes the file under the plain path of its path, and nothing else. -/
theorem setModified_eq (memory : Memory) (path : Path) (time : Time) :
    (∃ content old, memory.entry? (memory.plain path) = some (.file content old) ∧
      ∃ next, memory.setModified path time = .ok next ∧ next.cwd = memory.cwd ∧
        next.entries = put (memory.plain path) (.file content time) memory.entries) ∨
    ((∀ content old, memory.entry? (memory.plain path) ≠ some (.file content old)) ∧
      memory.setModified path time = .error missing) := by
  unfold setModified
  dsimp only
  split
  case h_1 content old found => exact .inl ⟨content, old, found, _, rfl, rfl, rfl⟩
  case h_2 other => exact .inr ⟨fun content old found => other content old found, rfl⟩

theorem mem_above_entries {above : List Path} {entries : List (Path × Entry)} {pair : Path × Entry}
    (member : pair ∈ above.foldl (fun entries directory => put directory .directory entries) entries) :
    pair ∈ entries ∨ ∃ directory ∈ above, pair = (directory, .directory) := by
  induction above generalizing entries with
  | nil => exact .inl member
  | cons first rest ih =>
      rcases ih member with put | ⟨directory, inside, same⟩
      · rcases mem_put put with same | old
        · exact .inr ⟨first, by simp, same⟩
        · exact .inl old
      · exact .inr ⟨directory, by simp [inside], same⟩

@[simp]
theorem cwd_write (memory : Memory) (path : Path) (content : String) (time : Time) :
    (memory.write path content time).cwd = memory.cwd := by
  dsimp only [write]

theorem entries_write (memory : Memory) (path : Path) (content : String) (time : Time) :
    (memory.write path content time).entries =
      ((memory.plain path).ancestors.drop 1).foldl
        (fun entries directory => put directory .directory entries)
        (put (memory.plain path) (.file content time) memory.entries) := by
  dsimp only [write]

/-- A path that is stored by a write is the plain path of the write or stands above it. -/
theorem mem_entries_write {path : Path} {content : String} {time : Time} {pair : Path × Entry}
    (member : pair ∈ (memory.write path content time).entries) :
    pair ∈ memory.entries ∨ pair = (memory.plain path, .file content time) ∨
      (pair.1 ∈ (memory.plain path).ancestors.drop 1 ∧ pair.2 = .directory) := by
  rw [entries_write] at member
  rcases mem_above_entries member with put | ⟨directory, above, rfl⟩
  · rcases mem_put put with same | old
    · exact .inr (.inl same)
    · exact .inl old
  · exact .inr (.inr ⟨above, rfl⟩)

end Entries

section States

variable {memory : Memory}

/-- A property of plain spellings that goes up to what stands above. -/
structure Rises (property : Path → Prop) : Prop where
  plain : ∀ path, property path → path.IsPlain
  above : ∀ path other, property path → other ∈ path.ancestors.drop 1 → property other

theorem rises_isPlain : Rises Path.IsPlain := by
  constructor
  · intro path plain
    exact plain
  · rintro _ other ⟨location, valid, rfl⟩ member
    obtain ⟨names, start, _, rfl⟩ := (mem_above valid other).mp member
    exact ⟨_, fun name inside => valid name (start.subset inside), rfl⟩

theorem rises_absolute : Rises fun path => path.IsPlain ∧ path.isAbsolute = true := by
  constructor
  · intro path plain
    exact plain.1
  · rintro _ other ⟨⟨location, valid, rfl⟩, absolute⟩ member
    obtain ⟨names, start, _, rfl⟩ := (mem_above valid other).mp member
    have valid' : IsValid ⟨location.isRooted, names⟩ := fun name inside =>
      valid name (start.subset inside)
    rw [isAbsolute_path valid] at absolute
    exact ⟨⟨_, valid', rfl⟩, by rw [isAbsolute_path valid', absolute]⟩

/-- What holds of the plain paths of permitted changes holds of everything that is stored. -/
theorem Reached.stored {permits : Memory → Path → Prop} {property : Path → Prop}
    (rises : Rises property) (start : property ⟨"/"⟩)
    (plain : ∀ memory path, property memory.cwd → permits memory path →
      property (memory.plain path))
    (reached : Reached permits memory) :
    property memory.cwd ∧ ∀ pair ∈ memory.entries, property pair.1 := by
  induction reached with
  | start => exact ⟨start, by simp⟩
  | @write memory reached path permitted content time ih =>
      rw [cwd_write]
      refine ⟨ih.1, ?_⟩
      intro pair member
      have holds := plain memory path ih.1 permitted
      rcases mem_entries_write member with old | same | ⟨above, _⟩
      · exact ih.2 pair old
      · rw [same]
        exact holds
      · exact rises.above _ _ holds above
  | @setCwd memory reached path permitted ih => exact ⟨plain memory path ih.1 permitted, ih.2⟩
  | @setModified memory next reached path permitted time changed ih =>
      rcases setModified_eq memory path time with ⟨content, old, found, next', set, cwd, entries⟩ | ⟨_, failed⟩
      · rw [set] at changed
        cases changed
        rw [cwd, entries]
        refine ⟨ih.1, ?_⟩
        intro pair member
        rcases mem_put member with same | old
        · rw [same]
          exact plain memory path ih.1 permitted
        · exact ih.2 pair old
      · rw [failed] at changed
        cases changed

theorem isPlain_root : Path.IsPlain ⟨"/"⟩ := ⟨root, isValid_root, rfl⟩

theorem Reached.plain {permits : Memory → Path → Prop} (reached : Reached permits memory) :
    memory.cwd.IsPlain ∧ ∀ pair ∈ memory.entries, pair.1.IsPlain :=
  reached.stored rises_isPlain isPlain_root fun _ path plain _ => plain_isPlain plain path

/-- A path stands for an absolute one exactly if it is absolute from the working directory and does
not climb above the root. -/
theorem isAbsolute_plain (plain : memory.cwd.IsPlain) (path : Path) :
    (memory.plain path).isAbsolute = true ↔
      (memory.cwd.join path).isAbsolute = true ∧ ¬ memory.Climbs path := by
  rcases plain_cases plain path with ⟨stays, same⟩ | ⟨climbs, off, _⟩
  · rw [same, isAbsolute_normalize]
    simp [stays]
  · simp [off, climbs]

/-- As long as no path climbs above the root, everything is stored from the root. -/
theorem Reached.absolute
    (reached : Reached (fun memory path => ¬ memory.Climbs path) memory) :
    (memory.cwd.IsPlain ∧ memory.cwd.isAbsolute = true) ∧
      ∀ pair ∈ memory.entries, pair.1.IsPlain ∧ pair.1.isAbsolute = true := by
  apply reached.stored rises_absolute ⟨isPlain_root, rfl⟩
  rintro memory path ⟨plain, absolute⟩ stays
  refine ⟨plain_isPlain plain path, ?_⟩
  exact (isAbsolute_plain plain path).mpr ⟨isAbsolute_join absolute path, stays⟩

/-- An absolute path that is plain stands for itself, whatever the working directory is. -/
theorem plain_of_plain (home : memory.cwd.IsPlain) {path : Path} (plain : path.IsPlain)
    (absolute : path.isAbsolute = true) : memory.plain path = path := by
  obtain ⟨location, valid, rfl⟩ := plain
  rw [isAbsolute_path valid] at absolute
  obtain ⟨isRooted, names⟩ := location
  cases absolute
  have stays : ¬ memory.Climbs (Location.path ⟨true, names⟩) := by
    apply not_climbs
    rw [components_path valid]
    simp [components]
  rcases plain_cases home (Location.path ⟨true, names⟩) with ⟨_, same⟩ | ⟨climbs, _⟩
  · rw [same, normalize_join, follow_path _ valid]
    rfl
  · exact absurd climbs stays

end States

end Memory

end StyleInline
