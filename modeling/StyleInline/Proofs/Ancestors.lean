import StyleInline.FileSystem.Memory
import StyleInline.Proofs.Resolution

/-!
# The closest file above a path

However a path is written, its parent is the path without the last component, and there is none
above the root and above the empty path.  A walk upwards therefore ends, and it finds the closest of
the files that it looks for.
-/

namespace StyleInline

namespace Path

section Parents

theorem joinSegments_segmentsOf (chars : List Char) : joinSegments (segmentsOf chars) = chars := by
  induction chars with
  | nil => rfl
  | cons c rest ih =>
      by_cases slash : c = '/'
      · subst slash
        obtain ⟨first, more, split⟩ := List.exists_cons_of_ne_nil (segmentsOf_ne_nil rest)
        rw [segmentsOf, split, joinSegments_cons, ← split, ih]
        rfl
      · obtain ⟨first, more, split, joined⟩ := segmentsOf_cons slash rest
        rw [split] at ih
        rw [joined]
        cases more with
        | nil => exact congrArg (c :: ·) ih
        | cons second more =>
            rw [joinSegments_cons] at ih ⊢
            exact congrArg (c :: ·) ih

/-- A path has a parent unless it has no component but the root; the parent has all components but
the last one, and starts where the path does. -/
theorem parent?_starts (path : Path) :
    (path.parent? = none ∧ path.components = if path.isAbsolute then [.root] else []) ∨
      ∃ above last, path.parent? = some above ∧ path.components = above.components ++ [last] ∧
        above.isAbsolute = path.isAbsolute := by
  rcases path.parent?_cases with ⟨top, spelled⟩ | ⟨above, last, found, unrooted, spelled⟩
  · refine .inl ⟨top, ?_⟩
    cases absolute : path.isAbsolute with
    | true =>
        have rooted := isAbsolute_iff_root_mem.mp absolute
        obtain none | root := spelled
        · rw [none] at rooted
          cases rooted
        · exact root
    | false =>
        obtain none | root := spelled
        · exact none
        · have rooted : path.isAbsolute = true :=
            isAbsolute_iff_root_mem.mpr (root ▸ List.mem_singleton_self _)
          cases absolute.symm.trans rooted
  · refine .inr ⟨above, last, found, spelled, Bool.eq_iff_iff.mpr ?_⟩
    rw [isAbsolute_iff_root_mem, isAbsolute_iff_root_mem, spelled, List.mem_append,
      List.mem_singleton]
    exact (or_iff_left unrooted.symm).symm

/-- How many components stand behind the root, or behind the start of a relative path. -/
def depth (path : Path) : Nat := path.components.length - if path.isAbsolute then 1 else 0

theorem components_length (path : Path) :
    path.components.length = path.depth + if path.isAbsolute then 1 else 0 := by
  rw [depth]
  cases absolute : path.isAbsolute with
  | true =>
      have some := List.length_pos_of_mem (isAbsolute_iff_root_mem.mp absolute)
      rw [if_pos rfl]
      omega
  | false => rfl

def above? (path : Path) : Nat → Option Path
  | 0 => some path
  | index + 1 => (path.above? index).bind parent?

theorem above?_succ (path : Path) (index : Nat) :
    path.above? (index + 1) = path.parent?.bind fun above => above.above? index := by
  induction index with
  | zero => cases parent : path.parent? <;> simp [above?, parent]
  | succ index ih =>
      rw [above?, ih, Option.bind_assoc]
      rfl

theorem parent?_eq_none_iff {path : Path} : path.parent? = none ↔ path.depth = 0 := by
  have counted := components_length path
  rcases parent?_starts path with ⟨missing, spelled⟩ | ⟨above, last, found, spelled, absolute⟩
  · rw [spelled] at counted
    refine iff_of_true missing ?_
    cases absolute : path.isAbsolute <;> simp_all
  · have counted' := components_length above
    rw [absolute] at counted'
    rw [spelled, List.length_append, counted', List.length_singleton] at counted
    refine iff_of_false (by rw [found]; nofun) ?_
    omega

theorem depth_of_parent? {path above : Path} (found : path.parent? = some above) :
    path.depth = above.depth + 1 := by
  rcases parent?_starts path with ⟨missing, _⟩ | ⟨other, last, same, spelled, absolute⟩
  · cases missing.symm.trans found
  · cases found.symm.trans same
    have counted := components_length path
    rw [spelled, List.length_append, components_length, absolute, List.length_singleton] at counted
    omega

/-- The walk upwards ends where the components do. -/
theorem above?_eq_none_iff {path : Path} {index : Nat} :
    path.above? index = none ↔ path.depth < index := by
  induction index generalizing path with
  | zero => simp [above?]
  | succ index ih =>
      rw [above?_succ]
      cases found : path.parent? with
      | none =>
          have bottom := parent?_eq_none_iff.mp found
          rw [bottom]
          simp
      | some above =>
          rw [Option.bind_some, ih, depth_of_parent? found]
          omega

/-- So many steps above a path so many components are missing at its end. -/
theorem components_above? {path above : Path} {index : Nat} (found : path.above? index = some above) :
    above.isAbsolute = path.isAbsolute ∧
      above.components = path.components.take (path.components.length - index) := by
  induction index generalizing path with
  | zero =>
      cases found
      exact ⟨rfl, by rw [Nat.sub_zero, List.take_length]⟩
  | succ index ih =>
      rw [above?_succ] at found
      obtain ⟨parent, first, found⟩ := Option.bind_eq_some_iff.mp found
      obtain ⟨absolute, components⟩ := ih found
      rcases parent?_starts path with ⟨missing, _⟩ | ⟨other, last, same, spelled, absolute'⟩
      · cases missing.symm.trans first
      · cases first.symm.trans same
        refine ⟨absolute.trans absolute', ?_⟩
        rw [components, spelled, List.length_append, List.length_singleton, Nat.add_sub_add_right]
        exact (List.take_append_of_le_length (Nat.sub_le _ _)).symm

/-- Each component takes at least one character. -/
theorem length_carried_le (absolute : Bool) (segments : List (List Char)) (start : Nat) :
    ((segments.zipIdx start).filterMap (carried absolute)).length ≤
      (joinSegments segments).length := by
  induction segments generalizing start with
  | nil => exact Nat.zero_le _
  | cons first rest ih =>
      have here : ([(first, start)].filterMap (carried absolute)).length ≤ first.length := by
        cases first with
        | nil => simp [carried, componentOf]
        | cons c first =>
            exact (List.length_filterMap_le _ _).trans (Nat.succ_le_succ (Nat.zero_le _))
      have later := ih (start + 1)
      rw [List.zipIdx_cons, ← List.singleton_append, List.filterMap_append, List.length_append]
      cases rest with
      | nil => exact here
      | cons second rest =>
          rw [joinSegments_cons, List.length_append, List.length_cons]
          omega

theorem depth_le (path : Path) : path.depth ≤ path.text.length := by
  have counted := components_length path
  have bound := length_carried_le path.isAbsolute (segmentsOf path.text.toList) 0
  rw [joinSegments_segmentsOf, String.length_toList] at bound
  rw [components_eq_carried, List.length_append] at counted
  cases absolute : path.isAbsolute with
  | true =>
      rw [absolute] at counted bound
      rw [if_pos rfl, if_pos rfl, List.length_singleton] at counted
      omega
  | false =>
      rw [absolute] at counted bound
      rw [if_neg Bool.false_ne_true, if_neg Bool.false_ne_true, List.length_nil] at counted
      omega

/-- All that stands above a path is among its ancestors, in the order of the walk. -/
theorem getElem?_ancestors (path : Path) (index : Nat) :
    path.ancestors[index]? = path.above? index := by
  have within (fuel : Nat) (path : Path) (enough : path.depth ≤ fuel) (index : Nat) :
      (ancestorsWithin fuel path)[index]? = path.above? index := by
    induction fuel generalizing path index with
    | zero =>
        have top := parent?_eq_none_iff.mpr (Nat.le_zero.mp enough)
        cases index with
        | zero => rfl
        | succ index => rw [above?_succ, top]; rfl
    | succ fuel ih =>
        rw [ancestorsWithin]
        cases found : path.parent? with
        | none =>
            cases index with
            | zero => rfl
            | succ index => rw [above?_succ, found]; rfl
        | some above =>
            cases index with
            | zero => rfl
            | succ index =>
                rw [depth_of_parent? found] at enough
                rw [above?_succ, found, List.getElem?_cons_succ, Option.bind_some]
                exact ih above (Nat.le_of_succ_le_succ enough) index
  exact within _ path (depth_le path) index

example : (⟨"./a//b/."⟩ : Path).ancestors = [⟨"./a//b/."⟩, ⟨"./a"⟩, ⟨"."⟩, ⟨""⟩] := by
  decide +kernel

end Parents

end Path

namespace FileSystem

section Searching

theorem getElem?_upTo {α : Type} (stop : α → Bool) (list : List α) (index : Nat) (element : α) :
    (upTo stop list)[index]? = some element ↔
      list[index]? = some element ∧
        ∀ before < index, ∀ other, list[before]? = some other → stop other = false := by
  induction list generalizing index with
  | nil => simp [upTo]
  | cons first rest ih =>
      cases stops : stop first with
      | true =>
          rw [upTo, if_pos stops]
          cases index with
          | zero => simp
          | succ index =>
              refine iff_of_false (by simp) ?_
              rintro ⟨_, onward⟩
              exact absurd (onward 0 (Nat.succ_pos _) first rfl) (by rw [stops]; nofun)
      | false =>
          rw [upTo, if_neg (by rw [stops]; exact Bool.false_ne_true)]
          cases index with
          | zero => simp
          | succ index =>
              rw [List.getElem?_cons_succ, List.getElem?_cons_succ, ih]
              refine and_congr_right fun _ => ⟨fun onward before below other here => ?_,
                fun onward before below other here => ?_⟩
              · cases before with
                | zero =>
                    cases here
                    exact stops
                | succ before => exact onward before (Nat.lt_of_succ_lt_succ below) other here
              · exact onward (before + 1) (Nat.succ_lt_succ below) other here

/-- An element of a row is found first. -/
theorem find?_row {β γ : Type} (make : β → γ) (test : γ → Bool) (row : List β) (found : γ) :
    (row.map make).find? test = some found ↔
      ∃ (j : Nat) (element : β), row[j]? = some element ∧ found = make element ∧
        test found = true ∧ ∀ (j' : Nat) element', row[j']? = some element' → test (make element') = true → j ≤ j' := by
  rw [List.find?_map, Option.map_eq_some_iff]
  constructor
  · rintro ⟨element, first, rfl⟩
    obtain ⟨passes, j, inside, rfl, earlier⟩ := List.find?_eq_some_iff_getElem.mp first
    refine ⟨j, row[j], List.getElem?_eq_getElem inside, rfl, passes, fun j' other here passes' => ?_⟩
    by_contra before
    obtain ⟨inside', rfl⟩ := List.getElem?_eq_some_iff.mp here
    have fails := earlier j' (Nat.lt_of_not_le before)
    rw [Function.comp_apply, passes'] at fails
    cases fails
  · rintro ⟨j, element, here, rfl, passes, least⟩
    obtain ⟨inside, rfl⟩ := List.getElem?_eq_some_iff.mp here
    refine ⟨row[j], List.find?_eq_some_iff_getElem.mpr
      ⟨passes, j, inside, rfl, fun j' before => ?_⟩, rfl⟩
    rw [Bool.not_eq_true', ← Bool.not_eq_true]
    intro passes'
    have inside' := Nat.lt_trans before inside
    exact Nat.not_le_of_lt before (least j' _ (List.getElem?_eq_getElem inside') passes')

/-- Of the elements of several rows, one of the first row that has any is found first. -/
theorem find?_rows {α β γ : Type} (make : α → β → γ) (test : γ → Bool) (rows : List α)
    (columns : List β) (found : γ) :
    (rows.flatMap fun row => columns.map (make row)).find? test = some found ↔
      ∃ (i j : Nat) (row : α) (column : β), rows[i]? = some row ∧ columns[j]? = some column ∧
        found = make row column ∧ test found = true ∧
        ∀ (i' j' : Nat) row' column', rows[i']? = some row' → columns[j']? = some column' →
          test (make row' column') = true → i < i' ∨ i = i' ∧ j ≤ j' := by
  induction rows with
  | nil => simp
  | cons first rest ih =>
      rw [List.flatMap_cons, List.find?_append, Option.or_eq_some_iff, ih, find?_row]
      constructor
      · rintro (⟨j, column, here, same, passes, least⟩ | ⟨none, i, j, row, column, above, here, same,
          passes, least⟩)
        · refine ⟨0, j, first, column, rfl, here, same, passes, fun i' j' row' column' above' => ?_⟩
          cases i' with
          | zero =>
              cases above'
              exact fun here' passes' => .inr ⟨rfl, least j' column' here' passes'⟩
          | succ i' => exact fun _ _ => .inl (Nat.succ_pos _)
        · refine ⟨i + 1, j, row, column, above, here, same, passes,
            fun i' j' row' column' above' here' passes' => ?_⟩
          cases i' with
          | zero =>
              cases above'
              have fails := List.find?_eq_none.mp none (make first column')
                (List.mem_map_of_mem (List.mem_of_getElem? here'))
              exact absurd passes' fails
          | succ i' =>
              have behind := least i' j' row' column' above' here' passes'
              omega
      · rintro ⟨i, j, row, column, above, here, same, passes, least⟩
        cases i with
        | zero =>
            cases above
            refine .inl ⟨j, column, here, same, passes, fun j' column' here' passes' => ?_⟩
            have behind := least 0 j' first column' rfl here' passes'
            omega
        | succ i =>
            refine .inr ⟨List.find?_eq_none.mpr fun element member => ?_, i, j, row, column, above,
              here, same, passes, fun i' j' row' column' above' here' passes' => ?_⟩
            · obtain ⟨column', member', rfl⟩ := List.mem_map.mp member
              obtain ⟨j', here'⟩ := List.mem_iff_getElem?.mp member'
              intro passes'
              have behind := least 0 j' first column' rfl here' passes'
              omega
            · have behind := least (i' + 1) j' row' column' above' here' passes'
              omega

/-- A directory of the walk upwards, so many steps above its start: the walk does not meet the root
before. -/
structure IsVisited (start root : Path) (index : Nat) (directory : Path) : Prop where
  above : start.above? index = some directory
  onward : ∀ before < index, ∀ other, start.above? before = some other → other.same root = false

/-- A place that is looked at: the directory and the name are told by their numbers. -/
def IsCandidate (names : List String) (start root : Path) (i j : Nat) (path : Path) : Prop :=
  ∃ directory name, IsVisited start root i directory ∧ names[j]? = some name ∧
    path = directory.join ⟨name⟩

theorem isVisited_iff {start root : Path} {index : Nat} {directory : Path} :
    IsVisited start root index directory ↔
      (upTo (fun directory => directory.same root) start.ancestors)[index]? = some directory := by
  simp only [getElem?_upTo, Path.getElem?_ancestors]
  exact ⟨fun ⟨above, onward⟩ => ⟨above, onward⟩, fun ⟨above, onward⟩ => ⟨above, onward⟩⟩

theorem findAncestor_eq_some_iff {files : FileSystem} {names : List String} {start root found : Path} :
    files.findAncestor names start root = some found ↔
      ∃ i j, IsCandidate names start root i j found ∧ files.isFile found = true ∧
        ∀ i' j' other, IsCandidate names start root i' j' other → files.isFile other = true →
          i < i' ∨ i = i' ∧ j ≤ j' := by
  rw [findAncestor, find?_rows (fun (directory : Path) name => directory.join ⟨name⟩)]
  simp only [← isVisited_iff]
  constructor
  · rintro ⟨i, j, directory, name, visited, named, same, isFile, least⟩
    refine ⟨i, j, ⟨directory, name, visited, named, same⟩, isFile, ?_⟩
    rintro i' j' other ⟨directory', name', visited', named', rfl⟩
    exact least i' j' directory' name' visited' named'
  · rintro ⟨i, j, ⟨directory, name, visited, named, same⟩, isFile, least⟩
    exact ⟨i, j, directory, name, visited, named, same, isFile,
      fun i' j' directory' name' visited' named' =>
        least i' j' _ ⟨directory', name', visited', named', rfl⟩⟩

theorem findAncestor_eq_none_iff {files : FileSystem} {names : List String} {start root : Path} :
    files.findAncestor names start root = none ↔
      ∀ i j path, IsCandidate names start root i j path → files.isFile path = false := by
  rw [findAncestor, List.find?_eq_none]
  constructor
  · rintro missing i j _ ⟨directory, name, visited, named, rfl⟩
    have member := List.mem_of_getElem? (isVisited_iff.mp visited)
    exact Bool.not_eq_true _ ▸ missing _ (List.mem_flatMap.mpr
      ⟨directory, member, List.mem_map_of_mem (List.mem_of_getElem? named)⟩)
  · intro missing path member
    obtain ⟨directory, inside, row⟩ := List.mem_flatMap.mp member
    obtain ⟨name, listed, rfl⟩ := List.mem_map.mp row
    obtain ⟨i, visited⟩ := List.mem_iff_getElem?.mp inside
    obtain ⟨j, named⟩ := List.mem_iff_getElem?.mp listed
    rw [missing i j _ ⟨directory, name, isVisited_iff.mpr visited, named, rfl⟩]
    exact Bool.false_ne_true

end Searching

/-- Of the files with one of some names the closest is found.  The walk goes from the start through
all that stands above it and ends at the root, or where there is nothing above; the names are tried
in their order in one directory after the other.  Nothing else matters. -/
theorem findAncestor_closest (files : FileSystem) (names : List String) (start root : Path) :
    (∀ found, files.findAncestor names start root = some found ↔
      ∃ i j, IsCandidate names start root i j found ∧ files.isFile found = true ∧
        ∀ i' j' other, IsCandidate names start root i' j' other → files.isFile other = true →
          i < i' ∨ i = i' ∧ j ≤ j') ∧
    (files.findAncestor names start root = none ↔
      ∀ i j path, IsCandidate names start root i j path → files.isFile path = false) ∧
    (∀ other : FileSystem,
      (∀ i j path, IsCandidate names start root i j path → other.isFile path = files.isFile path) →
        other.findAncestor names start root = files.findAncestor names start root) ∧
    (∀ index above, start.above? index = some above →
      above.isAbsolute = start.isAbsolute ∧
        above.components = start.components.take (start.components.length - index)) ∧
    ∀ index, start.above? index = none ↔
      start.components.length < index + if start.isAbsolute then 1 else 0 := by
  refine ⟨fun _ => findAncestor_eq_some_iff, findAncestor_eq_none_iff, fun other agree => ?_,
    fun _ _ => Path.components_above?, fun index => ?_⟩
  · cases found : files.findAncestor names start root with
    | none =>
        rw [findAncestor_eq_none_iff] at found ⊢
        exact fun i j path candidate => (agree i j path candidate).trans (found i j path candidate)
    | some path =>
        rw [findAncestor_eq_some_iff] at found ⊢
        obtain ⟨i, j, candidate, isFile, least⟩ := found
        refine ⟨i, j, candidate, (agree i j path candidate).trans isFile, ?_⟩
        intro i' j' other' candidate' isFile'
        exact least i' j' other' candidate' ((agree i' j' other' candidate').symm.trans isFile')
  · rw [Path.above?_eq_none_iff, Path.components_length]
    exact (Nat.add_lt_add_iff_right).symm

/-- A closer directory comes before an earlier name, and a file above the root does not matter. -/
theorem findAncestor_closest_nested :
    let files := Memory.fileSystem { entries := [(⟨"/p/a"⟩, .file "" 0), (⟨"/p/q/b"⟩, .file "" 0)] }
    let other := Memory.fileSystem
      { entries := [(⟨"/a"⟩, .file "" 0), (⟨"/p/a"⟩, .file "" 0), (⟨"/p/q/b"⟩, .file "" 0)] }
    files.findAncestor ["a", "b"] ⟨"/p/q/r"⟩ ⟨"/p"⟩ = some ⟨"/p/q/b"⟩ ∧
      other.findAncestor ["a", "b"] ⟨"/p/q/r"⟩ ⟨"/p"⟩ = some ⟨"/p/q/b"⟩ := by
  intro files other
  have found : files.findAncestor ["a", "b"] ⟨"/p/q/r"⟩ ⟨"/p"⟩ = some ⟨"/p/q/b"⟩ := by
    decide +kernel
  obtain ⟨_, _, framed, _⟩ := findAncestor_closest files ["a", "b"] ⟨"/p/q/r"⟩ ⟨"/p"⟩
  refine ⟨found, (framed other ?_).trans found⟩
  rintro i j _ ⟨directory, name, visited, named, rfl⟩
  have agree : ∀ directory ∈ upTo (fun directory => directory.same ⟨"/p"⟩)
      (⟨"/p/q/r"⟩ : Path).ancestors, ∀ name ∈ ["a", "b"],
        other.isFile (directory.join ⟨name⟩) = files.isFile (directory.join ⟨name⟩) := by
    decide +kernel
  exact agree directory (List.mem_of_getElem? (isVisited_iff.mp visited)) name
    (List.mem_of_getElem? named)

end FileSystem

end StyleInline
