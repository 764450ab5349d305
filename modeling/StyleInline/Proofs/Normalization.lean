import StyleInline.Proofs.Memory
import StyleInline.Resolution

/-!
# Normal forms in memory

Memory makes a path plain component by component; specifiers and patterns are made normal by pushing
to the text of a path and popping from it.  Both ways lead to one path, exactly as long as no `..`
is met at the root: there memory takes the root away, and the text stays as it is.
-/

namespace StyleInline

open Location

namespace Path

/-- One component pushed to the text of a path, or popped from it. -/
def advance (path : Path) : Component → Path
  | .here => path
  | .up => path.parent?.getD path
  | component => path.pushComponent component

theorem advance_path {location : Location} (valid : location.IsValid) {component : Component}
    (proper : component.IsProper) :
    location.path.advance component = (location.step component).path := by
  obtain ⟨isRooted, names⟩ := location
  cases component with
  | root => rfl
  | here => rfl
  | up =>
      rw [advance, parent?_path valid]
      rcases List.eq_nil_or_concat names with rfl | ⟨front, last, rfl⟩
      · rfl
      · rw [List.concat_eq_append, up?_snoc]
        simp [step]
  | name text => exact (path_snoc isRooted names text).symm

/-- The normal form of a path is what comes of pushing and popping its components. -/
theorem foldl_advance (path : Path) : path.components.foldl advance ⟨""⟩ = path.normalize := by
  have along : ∀ (components : List Component) (location : Location), location.IsValid →
      (∀ component ∈ components, component.IsProper) →
      components.foldl advance location.path = (location.follow components).path := by
    intro components
    induction components with
    | nil =>
        intro location _ _
        rfl
    | cons component rest ih =>
        intro location valid proper
        have first := proper component (by simp)
        rw [List.foldl_cons, advance_path valid first]
        exact ih _ (valid.step first) fun later member => proper later (by simp [member])
  rw [normalize_eq]
  exact along _ nowhere isValid_nowhere fun _ member => (mem_components member).1

theorem IsPlain.normal {path : Path} (plain : path.IsPlain) :
    path.normalize = path ∧ .here ∉ path.components ∧ .up ∉ path.components := by
  obtain ⟨location, valid, rfl⟩ := plain
  refine ⟨normalize_path valid, ?_, ?_⟩
  all_goals
    rw [components_path valid]
    simp [Location.components]

end Path

/-- The directory of a module is absolute if the working directory is. -/
theorem isAbsolute_directoryOf {cwd : Path} (absolute : cwd.isAbsolute = true) (filename : Path) :
    (directoryOf filename cwd).isAbsolute = true := by
  have anchored : (if filename.isAbsolute then filename else cwd.join filename).isAbsolute = true := by
    split
    · assumption
    · exact isAbsolute_join absolute filename
  unfold directoryOf
  dsimp only
  cases above : (if filename.isAbsolute then filename else cwd.join filename).parent? with
  | none => simpa using anchored
  | some parent => simpa using isAbsolute_parent? anchored above

namespace Memory

variable {memory : Memory}

theorem plain_eq_normalize_iff (plain : memory.cwd.IsPlain) (path : Path) :
    memory.plain path = (memory.cwd.join path).normalize ↔ ¬ memory.Climbs path := by
  rcases plain_cases plain path with ⟨stays, same⟩ | ⟨climbs, off, on⟩
  · simp [stays, same]
  · refine iff_of_false ?_ (by simpa using climbs)
    intro same
    rw [same, on] at off
    cases off

/-- The normal form of an absolute path stands for the same path in memory as the path itself,
exactly if the path does not climb above the root. -/
theorem plain_normalize_iff (plain : memory.cwd.IsPlain) {path : Path}
    (absolute : path.isAbsolute = true) :
    memory.plain path.normalize = memory.plain path ↔ ¬ memory.Climbs path := by
  have normal : path.normalize.IsPlain :=
    ⟨_, isValid_nowhere.follow_path path, normalize_eq path⟩
  have rooted : path.normalize.isAbsolute = true := by rw [isAbsolute_normalize, absolute]
  have joined : memory.cwd.join path = path := by simp only [Path.join, absolute, if_true]
  rw [plain_of_plain plain normal rooted, ← plain_eq_normalize_iff plain, joined]
  exact eq_comm

/-- Whatever was done to a memory, its working directory and its stored paths are normal forms, and
they are absolute as long as no path climbs above the root.  A path stands for the normal form of
the path joined to the working directory, which anchoring a pattern and resolving a specifier give
as well, exactly if it does not climb above the root. -/
theorem plain_iff_normal (reached : Reached (fun _ _ => True) memory) :
    (∀ path, path = memory.cwd ∨ path ∈ memory.entries.map Prod.fst →
      path.normalize = path ∧ .here ∉ path.components ∧ .up ∉ path.components) ∧
    (Reached (fun memory path => ¬ memory.Climbs path) memory →
      ∀ path, path = memory.cwd ∨ path ∈ memory.entries.map Prod.fst → path.isAbsolute = true) ∧
    (∀ path,
      (memory.plain path = (memory.cwd.join path).normalize ↔ ¬ memory.Climbs path) ∧
      ((memory.plain path).text = FileSystem.anchor memory.cwd path.text ↔ ¬ memory.Climbs path) ∧
      ((memory.plain path).isAbsolute = true ↔
        (memory.cwd.join path).isAbsolute = true ∧ ¬ memory.Climbs path) ∧
      (memory.cwd.join path).components.foldl Path.advance ⟨""⟩ =
        (memory.cwd.join path).normalize) ∧
    ∀ specifier filename, namesNothing specifier = false → memory.cwd.isAbsolute = true →
      let joined := (directoryOf filename memory.cwd).join ⟨specifier⟩
      ∃ path, resolveImport specifier filename memory.cwd = .ok path ∧
        (memory.plain path = memory.plain joined ↔ ¬ memory.Climbs joined) ∧
        (¬ memory.Climbs joined → memory.read path = memory.read joined) := by
  obtain ⟨home, stored⟩ := reached.plain
  refine ⟨?_, ?_, ?_, ?_⟩
  · rintro path (rfl | member)
    · exact home.normal
    · obtain ⟨pair, inside, rfl⟩ := List.mem_map.mp member
      exact (stored pair inside).normal
  · intro inside path
    obtain ⟨⟨_, absolute⟩, absolutes⟩ := inside.absolute
    rintro (rfl | member)
    · exact absolute
    · obtain ⟨pair, inside, rfl⟩ := List.mem_map.mp member
      exact (absolutes pair inside).2
  · intro path
    refine ⟨plain_eq_normalize_iff home path, ?_, isAbsolute_plain home path, Path.foldl_advance _⟩
    rw [← plain_eq_normalize_iff home path]
    constructor
    · exact Path.ext
    · intro same
      rw [same]
      rfl
  · intro specifier filename named absolute joined
    have rooted : joined.isAbsolute = true := isAbsolute_join (isAbsolute_directoryOf absolute _) _
    refine ⟨joined.normalize, ?_, plain_normalize_iff home rooted, ?_⟩
    · simp only [resolveImport, named, Bool.false_eq_true, if_false, joined]
    · intro stays
      have same := (plain_normalize_iff home rooted).mpr stays
      simp only [read, same]

/-- A path with a `..` below the root, and one with a `..` at the root. -/
theorem plain_iff_normal_climbing :
    let memory := (setCwd {} ⟨"/project"⟩).write ⟨"./src/../a.css"⟩ ".a {}" 0
    Reached (fun _ _ => True) memory ∧ ¬ memory.Climbs ⟨"../b.css"⟩ ∧
      memory.Climbs ⟨"../../b.css"⟩ ∧ memory.plain ⟨"../../b.css"⟩ = ⟨"b.css"⟩ := by
  intro memory
  have reached : Reached (fun _ _ => True) memory := .write (.setCwd .start trivial) trivial _ _
  obtain ⟨_, _, forms, _⟩ := plain_iff_normal reached
  refine ⟨reached, (forms ⟨"../b.css"⟩).1.mp (by decide +kernel), ?_, by decide +kernel⟩
  by_contra stays
  exact absurd ((forms ⟨"../../b.css"⟩).1.mpr stays) (by decide +kernel)

end Memory

end StyleInline
