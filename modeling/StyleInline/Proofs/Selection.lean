import Mathlib.Data.List.Nodup
import StyleInline.Proofs.Registration

/-!
# What patterns select

The patterns of a list are expanded one by one, and what the negated ones list is left out at the
end.  So a registration depends on what the others list, in their order, and of the negated ones
only on the set of what they list.
-/

namespace StyleInline

/-- What a tracker is told. -/
inductive Tracker.Call where
  | add (path : Path)
  | invalidateOn (key : InvalidationKey)
  deriving DecidableEq, Repr

/-- The state of a tracker that has been told something. -/
def Tracker.told {τ : Type} (tracker : Tracker τ) (files : FileSystem) (state : τ) :
    Tracker.Call → τ
  | .add path => (tracker.add path state).1
  | .invalidateOn key => (tracker.invalidateOn key files state).1

namespace Dependency

/-- The patterns without a `!`. -/
def positives (patterns : List String) : List String :=
  patterns.filter fun pattern => (negated? pattern).isNone

def negatives (patterns : List String) : List String := patterns.filterMap negated?

/-- What patterns list, one behind the other. -/
def listed (files : FileSystem) (patterns : List String) : List Path :=
  patterns.flatMap fun pattern => (files.glob pattern).toOption.getD []

def unmatched (files : FileSystem) (patterns : List String) : List Event :=
  patterns.flatMap fun pattern =>
    if ((files.glob pattern).toOption.getD []).isEmpty then [.patternMatchedNothing pattern] else []

/-- What a list of patterns selects: all that those without a `!` list, each path in its first
place, but for what those behind a `!` list. -/
def selected (files : FileSystem) (patterns : List String) : List Path :=
  ((listed files (positives patterns)).eraseDupsBy Path.same).filter fun path =>
    !(listed files (negatives patterns)).any path.same

section Spelling

variable {path other : Path} {known added : List Path}

theorem same_iff : path.same other = true ↔ path.components = other.components := by
  simp [Path.same]

theorem any_same_iff :
    known.any path.same = true ↔ path.components ∈ known.map Path.components := by
  rw [List.any_eq_true, List.mem_map]
  constructor
  · rintro ⟨other, member, same⟩
    exact ⟨other, member, (same_iff.mp same).symm⟩
  · rintro ⟨other, member, same⟩
    exact ⟨other, member, same_iff.mpr same.symm⟩

theorem addMissing_cons :
    addMissing known (path :: added) =
      addMissing (if known.any path.same then known else known ++ [path]) added := rfl

/-- Paths are added in their order, each in its first place. -/
theorem addMissing_eq (known added : List Path) :
    addMissing known added =
      known ++ (added.filter fun path => !known.any path.same).eraseDupsBy Path.same := by
  induction added generalizing known with
  | nil => simp [addMissing]
  | cons path rest ih =>
      rw [addMissing_cons, ih]
      cases present : known.any path.same with
      | true => simp [present]
      | false =>
          have first : (path :: rest).filter (fun path => !known.any path.same) =
              path :: rest.filter fun path => !known.any path.same := by
            rw [List.filter_cons_of_pos (by simp [present])]
          rw [first, List.eraseDupsBy_cons, List.filter_filter]
          simp [Bool.and_comm]

theorem addMissing_nil (added : List Path) : addMissing [] added = added.eraseDupsBy Path.same := by
  simp [addMissing_eq]

/-- Nothing is added twice. -/
theorem nodup_addMissing (unique : (known.map Path.components).Nodup) :
    ((addMissing known added).map Path.components).Nodup := by
  induction added generalizing known with
  | nil => exact unique
  | cons path rest ih =>
      rw [addMissing_cons]
      apply ih
      split
      · exact unique
      · next absent =>
        rw [any_same_iff] at absent
        rw [List.map_append, List.map_singleton, ← List.concat_eq_append]
        exact unique.concat absent

theorem mem_addMissing {component : List Component} :
    component ∈ (addMissing known added).map Path.components ↔
      component ∈ known.map Path.components ∨ component ∈ added.map Path.components := by
  induction added generalizing known with
  | nil => simp [addMissing]
  | cons path rest ih =>
      rw [addMissing_cons, ih]
      split
      · next present =>
        rw [any_same_iff] at present
        rw [List.map_cons, List.mem_cons]
        constructor
        · rintro (old | later)
          · exact .inl old
          · exact .inr (.inr later)
        · rintro (old | rfl | later)
          · exact .inl old
          · exact .inl present
          · exact .inr later
      · simp [or_assoc]

end Spelling

section Expanding

variable {files : FileSystem}

/-- Patterns that can be expanded come to what they list. -/
theorem expandAll_eq {patterns : List String}
    (expands : ∀ pattern ∈ patterns, Expands files pattern) (expansion : Expansion) :
    expandAll files patterns expansion =
      ⟨none,
        { matched := addMissing expansion.matched (listed files (positives patterns))
          excluded := expansion.excluded ++ listed files (negatives patterns)
          events := expansion.events ++ unmatched files (positives patterns) }⟩ := by
  induction patterns generalizing expansion with
  | nil => simp [expandAll, positives, negatives, listed, unmatched, addMissing]
  | cons pattern rest ih =>
      obtain ⟨⟨paths, expanded⟩, later⟩ := List.forall_mem_cons.mp expands
      rw [expandAll_cons_ok expanded, ih later]
      cases negated : negated? pattern with
      | none =>
          rw [bare, negated, Option.getD_none] at expanded
          have first : positives (pattern :: rest) = pattern :: positives rest := by
            simp [positives, negated]
          have others : negatives (pattern :: rest) = negatives rest := by
            simp [negatives, negated]
          rw [first, others]
          simp [Expansion.grow, negated, listed, unmatched, expanded, Except.toOption, addMissing,
            List.foldl_append]
      | some positive =>
          rw [bare, negated, Option.getD_some] at expanded
          have first : negatives (pattern :: rest) = positive :: negatives rest := by
            simp [negatives, negated]
          have others : positives (pattern :: rest) = positives rest := by
            simp [positives, negated]
          rw [first, others]
          simp [Expansion.grow, negated, listed, expanded, Except.toOption]

end Expanding

section Registering

variable {τ : Type} (tracker : Tracker τ) {files : FileSystem}

theorem registerPaths_eq_filter (excluded paths : List Path) (state : τ) :
    (registerPaths tracker files excluded paths state).1 =
      paths.filter fun path => !excluded.any path.same := by
  induction paths generalizing state with
  | nil => rfl
  | cons path rest ih =>
      rw [registerPaths]
      split
      · next found => rw [List.filter_cons_of_neg (by simp [found]), ← ih state]
      · next missing =>
        rw [List.filter_cons_of_pos (by simpa using missing),
          ← ih (registerPath tracker files path state).1]

/-- Of the excluded paths it only matters which they are. -/
theorem registerPaths_congr {excluded excluded' : List Path}
    (same : ∀ path : Path, excluded.any path.same = excluded'.any path.same) (paths : List Path)
    (state : τ) :
    registerPaths tracker files excluded paths state =
      registerPaths tracker files excluded' paths state := by
  induction paths generalizing state with
  | nil => rfl
  | cons path rest ih => simp only [registerPaths, same, ih]

/-- A registration of patterns that can be expanded. -/
theorem register_eq {patterns : List String}
    (expands : ∀ pattern ∈ patterns, Expands files pattern) (state : τ) :
    register tracker files patterns state =
      let (paths, state, events) :=
        registerPaths tracker files (listed files (negatives patterns))
          ((listed files (positives patterns)).eraseDupsBy Path.same) state
      ⟨.ok paths, state, unmatched files (positives patterns) ++ events⟩ := by
  simp only [register, expandAll_eq expands, addMissing_nil, List.nil_append]

/-- A path and its key are told one after the other. -/
theorem foldl_told (paths : List Path) (state : τ) :
    (paths.flatMap fun path => [Tracker.Call.add path, .invalidateOn ⟨path⟩]).foldl
        (tracker.told files) state =
      paths.foldl (fun state path => (registerPath tracker files path state).1) state := by
  rw [List.foldl_flatMap]
  rfl

end Registering

section Rearranging

variable {files : FileSystem} {patterns others : List String}

theorem selected_components (files : FileSystem) (patterns : List String) :
    ((selected files patterns).map Path.components).Nodup ∧
      ∀ components, components ∈ (selected files patterns).map Path.components ↔
        components ∈ (listed files (positives patterns)).map Path.components ∧
          components ∉ (listed files (negatives patterns)).map Path.components := by
  rw [selected, ← addMissing_nil]
  constructor
  · exact (List.filter_sublist.map _).nodup (nodup_addMissing List.nodup_nil)
  · intro components
    constructor
    · intro member
      obtain ⟨path, kept, rfl⟩ := List.mem_map.mp member
      obtain ⟨found, missing⟩ := List.mem_filter.mp kept
      have somewhere := mem_addMissing.mp (List.mem_map_of_mem found)
      rw [Bool.not_eq_true', ← Bool.not_eq_true, any_same_iff] at missing
      exact ⟨somewhere.resolve_left (List.not_mem_nil), missing⟩
    · rintro ⟨somewhere, missing⟩
      have added : components ∈ (addMissing [] (listed files (positives patterns))).map
          Path.components := mem_addMissing.mpr (.inr somewhere)
      obtain ⟨path, found, rfl⟩ := List.mem_map.mp added
      refine List.mem_map_of_mem (List.mem_filter.mpr ⟨found, ?_⟩)
      rw [Bool.not_eq_true', ← Bool.not_eq_true, any_same_iff]
      exact missing

theorem listed_perm (rearranged : others.Perm patterns) (components : List Component) :
    components ∈ (listed files others).map Path.components ↔
      components ∈ (listed files patterns).map Path.components :=
  ((rearranged.flatMap_right _).map _).mem_iff

end Rearranging

/-- Patterns that can all be expanded register what those without a `!` list, in their order, each
path in its first place, but for what those behind a `!` list wherever they stand.  The tracker is
told of just these paths in this order, and of one key for each right behind it.  Other orders of
the patterns register the same paths in some order, and if the patterns without a `!` keep theirs
nothing changes at all. -/
theorem register_selected {τ : Type} (tracker : Tracker τ) {files : FileSystem}
    {patterns : List String} (expands : ∀ pattern ∈ patterns, Expands files pattern) (state : τ) :
    let registered := register tracker files patterns state
    let paths := selected files patterns
    registered.paths = .ok paths ∧
    registered.state =
      (paths.flatMap fun path => [Tracker.Call.add path, .invalidateOn ⟨path⟩]).foldl
        (tracker.told files) state ∧
    paths.Pairwise (fun path other => path.same other = false) ∧
    ∀ others : List String, others.Perm patterns →
      (∃ paths', (register tracker files others state).paths = .ok paths' ∧
        (paths'.map Path.components).Perm (paths.map Path.components)) ∧
      (positives others = positives patterns →
        register tracker files others state = registered) := by
  intro registered paths
  have found : ∀ {patterns : List String}, (∀ pattern ∈ patterns, Expands files pattern) →
      (register tracker files patterns state).paths = .ok (selected files patterns) := by
    intro patterns expands
    rw [register_eq tracker expands]
    dsimp only
    rw [registerPaths_eq_filter]
    rfl
  refine ⟨found expands, ?_, ?_, ?_⟩
  · obtain ⟨_, complete, gained⟩ := register_expands tracker expands state
    obtain rfl := Except.ok.inj (complete.symm.trans (found expands))
    rw [foldl_told]
    exact gained
  · have unique := (selected_components files patterns).1
    rw [List.Nodup, List.pairwise_map] at unique
    refine unique.imp ?_
    intro path other differs
    rw [Bool.eq_false_iff]
    exact mt same_iff.mp differs
  · intro others rearranged
    -- What is selected depends on two sets, and an order can only be seen in that of the first.
    have expands' : ∀ pattern ∈ others, Expands files pattern := fun pattern member =>
      expands pattern (rearranged.mem_iff.mp member)
    have positive : (positives others).Perm (positives patterns) := rearranged.filter _
    have negative : (negatives others).Perm (negatives patterns) := rearranged.filterMap _
    constructor
    · refine ⟨_, found expands', ?_⟩
      rw [List.perm_ext_iff_of_nodup (selected_components files others).1
        (selected_components files patterns).1]
      intro components
      rw [(selected_components files others).2, (selected_components files patterns).2,
        listed_perm positive, listed_perm negative]
    · intro unmoved
      have excluded : ∀ path : Path, (listed files (negatives others)).any path.same =
          (listed files (negatives patterns)).any path.same := by
        intro path
        rw [Bool.eq_iff_iff, any_same_iff, any_same_iff]
        exact listed_perm negative path.components
      simp only [registered]
      rw [register_eq tracker expands, register_eq tracker expands', unmoved,
        registerPaths_congr tracker excluded]

/-- A negated pattern in front of two that overlap, of which it takes one path. -/
theorem register_selected_overlapping :
    let colors : Path := ⟨"/theme/colors.css"⟩
    let spacing : Path := ⟨"/theme/spacing.css"⟩
    let tokens : Path := ⟨"/tokens.css"⟩
    let files : FileSystem :=
      { Memory.fileSystem {} with
        glob := fun pattern =>
          if pattern = "theme/spacing.css" then .ok [spacing]
          else if pattern = "theme/*.css" then .ok [colors, spacing]
          else .ok [colors, spacing, tokens] }
    let registered (patterns : List String) :=
      register (⟨fun path told => (.add path :: told, []),
        fun key _ told => (.invalidateOn key :: told, [])⟩ : Tracker (List Tracker.Call))
        files patterns []
    let ahead := registered ["!theme/spacing.css", "theme/*.css", "**/*.css"]
    ahead.paths = .ok [colors, tokens] ∧
    ahead.state.reverse =
      [.add colors, .invalidateOn ⟨colors⟩, .add tokens, .invalidateOn ⟨tokens⟩] ∧
    registered ["theme/*.css", "**/*.css", "!theme/spacing.css"] = ahead := by
  intro colors spacing tokens files registered ahead
  have expands : ∀ pattern ∈ ["!theme/spacing.css", "theme/*.css", "**/*.css"],
      Expands files pattern := by
    intro pattern _
    simp only [Expands, files]
    split
    · exact ⟨_, rfl⟩
    · split
      · exact ⟨_, rfl⟩
      · exact ⟨_, rfl⟩
  obtain ⟨paths, told, _, moved⟩ := register_selected
    (⟨fun path told => (.add path :: told, []),
      fun key _ told => (.invalidateOn key :: told, [])⟩ : Tracker (List Tracker.Call))
    expands []
  have chosen : selected files ["!theme/spacing.css", "theme/*.css", "**/*.css"] =
      [colors, tokens] := by decide +kernel
  rw [chosen] at paths told
  refine ⟨paths, ?_, ?_⟩
  · rw [show ahead.state = _ from told]
    rfl
  · exact (moved ["theme/*.css", "**/*.css", "!theme/spacing.css"] (by decide)).2 (by decide)

end Dependency

end StyleInline
