import StyleInline.Proofs.Location
import StyleInline.Resolution

/-!
# Where a specifier leads

A specifier is followed step by step from the directory of the module that imports it, and the
answer is the plain spelling of the location that is reached.  The directory has the components of
the file name but for the last one, whatever the spelling of either.
-/

namespace StyleInline

open Location

namespace Path

section Parents

variable {path parent : Path}

def carried (absolute : Bool) (place : List Char × Nat) : Option Component :=
  componentOf (place.2 == 0 && !absolute) place.1

/-- Behind the first place a segment has the component that it has in front of nothing. -/
theorem filterMap_carried (absolute : Bool) (segments : List (List Char)) (start : Nat)
    (behind : absolute = true ∨ 0 < start) :
    (segments.zipIdx start).filterMap (carried absolute) =
      segments.filterMap (componentOf false) := by
  induction segments generalizing start with
  | nil => rfl
  | cons segment rest ih =>
      have same : carried absolute (segment, start) = componentOf false segment := by
        rcases behind with rfl | positive
        · simp [carried]
        · have inner : (start == 0) = false := beq_eq_false_iff_ne.mpr (by omega)
          simp [carried, inner]
      rw [List.zipIdx_cons, List.filterMap_cons, List.filterMap_cons, same,
        ih (start + 1) (.inr (Nat.succ_pos start))]

/-- The components of a path are those of its segments at their places. -/
theorem components_eq_carried (path : Path) :
    path.components = (if path.isAbsolute then [.root] else []) ++
      (segmentsOf path.text.toList).zipIdx.filterMap (carried path.isAbsolute) := by
  cases absolute : path.isAbsolute with
  | true =>
      obtain ⟨rest, spelled⟩ := isAbsolute_eq_true_iff.mp absolute
      rw [filterMap_carried true _ 0 (.inl rfl), spelled, segmentsOf, components, spelled]
      rfl
  | false =>
      obtain ⟨first, rest, segments, spelled⟩ :=
        componentsOf_relative (isAbsolute_eq_false_iff.mp absolute)
      have leading : carried false (first, 0) = componentOf true first := rfl
      rw [components, spelled, segments, List.zipIdx_cons, List.filterMap_cons,
        filterMap_carried false rest (0 + 1) (.inr Nat.one_pos), leading]
      cases componentOf true first <;> rfl

/-- A path is absolute if its first segment is empty and is not the only one. -/
theorem isAbsolute_iff_segments :
    path.isAbsolute = true ↔
      ∃ second more, segmentsOf path.text.toList = [] :: second :: more := by
  constructor
  · intro absolute
    obtain ⟨rest, spelled⟩ := isAbsolute_eq_true_iff.mp absolute
    obtain ⟨second, more, segments⟩ := List.exists_cons_of_ne_nil (segmentsOf_ne_nil rest)
    exact ⟨second, more, by rw [spelled, segmentsOf, segments]⟩
  · rintro ⟨second, more, segments⟩
    cases spelled : path.text.toList with
    | nil => simp [spelled, segmentsOf] at segments
    | cons c rest =>
        by_cases slash : c = '/'
        · exact isAbsolute_eq_true_iff.mpr ⟨rest, by rw [spelled, slash]⟩
        · obtain ⟨first, others, _, joined⟩ := segmentsOf_cons slash rest
          rw [spelled, joined] at segments
          cases segments

/-- The root is a component of absolute paths only. -/
theorem isAbsolute_iff_root_mem : path.isAbsolute = true ↔ .root ∈ path.components := by
  constructor
  · intro absolute
    obtain ⟨rest, spelled, _⟩ := components_of_absolute absolute
    simp [spelled]
  · intro member
    by_contra relative
    exact (mem_components member).2 (by simpa using relative) rfl

/-- What a test keeps of a list with its places is cut behind the second last that it keeps. -/
theorem filter_zipIdx_take {α : Type} {keeps : α × Nat → Bool} {list : List α} {start : Nat}
    {front : List (α × Nat)} {place last : α × Nat}
    (kept : (list.zipIdx start).filter keeps = front ++ [place, last]) :
    ((list.take (place.2 + 1 - start)).zipIdx start).filter keeps = front ++ [place] := by
  induction list generalizing start front with
  | nil => simp at kept
  | cons first rest ih =>
      rw [List.zipIdx_cons, List.filter_cons] at kept
      -- A place that is kept of the rest lies behind the first element, so the cut takes that one.
      have later : ∀ {front : List (α × Nat)},
          (rest.zipIdx (start + 1)).filter keeps = front ++ [place, last] →
          (first :: rest).take (place.2 + 1 - start) =
            first :: rest.take (place.2 + 1 - (start + 1)) := by
        intro front same
        have member : place ∈ (rest.zipIdx (start + 1)).filter keeps := by simp [same]
        have behind := List.le_snd_of_mem_zipIdx (List.mem_filter.mp member).1
        have longer : place.2 + 1 - start = (place.2 + 1 - (start + 1)) + 1 := by omega
        rw [longer, List.take_succ_cons]
      split at kept
      · next keeps_first =>
        cases front with
        | nil =>
            rw [List.nil_append, List.cons.injEq] at kept
            obtain ⟨rfl, -⟩ := kept
            simp [keeps_first]
        | cons other front =>
            rw [List.cons_append, List.cons.injEq] at kept
            obtain ⟨rfl, same⟩ := kept
            rw [later same, List.zipIdx_cons, List.filter_cons_of_pos keeps_first, ih same]
            rfl
      · next skips_first =>
        rw [later kept, List.zipIdx_cons, List.filter_cons_of_neg skips_first, ih kept]

def carrying (path : Path) : List (List Char × Nat) :=
  (segmentsOf path.text.toList).zipIdx.filter fun place => (carried path.isAbsolute place).isSome

theorem parent?_eq (path : Path) :
    path.parent? =
      match path.carrying.reverse with
      | [] => none
      | [_] => some ⟨if path.isAbsolute then "/" else ""⟩
      | _ :: (_, index) :: _ =>
        some ⟨String.ofList (joinSegments ((segmentsOf path.text.toList).take (index + 1)))⟩ := rfl

theorem mem_carrying {place : List Char × Nat} (member : place ∈ path.carrying) :
    ∃ component, carried path.isAbsolute place = some component ∧ component ≠ .root := by
  obtain ⟨placed, carries⟩ := List.mem_filter.mp member
  obtain ⟨component, found⟩ := Option.isSome_iff_exists.mp carries
  have plain := slash_not_mem_of_segmentsOf _ _ (List.fst_mem_of_mem_zipIdx placed)
  exact ⟨component, found, (isProper_componentOf plain found).2.1⟩

theorem components_eq_carrying (path : Path) :
    path.components = (if path.isAbsolute then [.root] else []) ++
      path.carrying.filterMap (carried path.isAbsolute) := by
  rw [components_eq_carried, carrying, List.filterMap_filter]
  congr 1
  apply List.filterMap_congr
  intro place _
  cases carried path.isAbsolute place <;> rfl

/-- The text up to a segment that has another one with a component behind it. -/
theorem carrying_take {front : List (List Char × Nat)} {place last : List Char × Nat}
    (places : path.carrying = front ++ [place, last]) :
    let parent : Path :=
      ⟨String.ofList (joinSegments ((segmentsOf path.text.toList).take (place.2 + 1)))⟩
    path.parent? = some parent ∧ parent.isAbsolute = path.isAbsolute ∧
      parent.carrying = front ++ [place] := by
  intro parent
  have reversed : path.carrying.reverse = last :: place :: front.reverse := by simp [places]
  have found : path.parent? = some parent := by
    rw [parent?_eq, reversed]
  have segments : segmentsOf parent.text.toList =
      (segmentsOf path.text.toList).take (place.2 + 1) := by
    rw [String.toList_ofList, segmentsOf_joinSegments]
    · simp [segmentsOf_ne_nil]
    · intro segment member
      exact slash_not_mem_of_segmentsOf _ _ (List.mem_of_mem_take member)
  have same : parent.isAbsolute = path.isAbsolute := by
    cases absolute : path.isAbsolute with
    | true => exact isAbsolute_parent? absolute found
    | false =>
        rw [Bool.eq_false_iff] at absolute ⊢
        intro above
        -- An absolute beginning would make the whole path absolute.
        obtain ⟨second, more, starts⟩ := isAbsolute_iff_segments.mp above
        rw [segments] at starts
        have whole := List.take_append_drop (place.2 + 1) (segmentsOf path.text.toList)
        rw [starts] at whole
        exact absolute (isAbsolute_iff_segments.mpr ⟨second, _, whole.symm⟩)
  refine ⟨found, same, ?_⟩
  rw [carrying, segments, same, ← Nat.sub_zero (place.2 + 1)]
  exact filter_zipIdx_take places

/-- A parent has all components but the last; a path without one is the root or has none. -/
theorem parent?_cases (path : Path) :
    (path.parent? = none ∧ (path.components = [] ∨ path.components = [.root])) ∨
    ∃ parent last, path.parent? = some parent ∧ last ≠ .root ∧
      path.components = parent.components ++ [last] := by
  have spelled := components_eq_carrying path
  rcases List.eq_nil_or_concat path.carrying with none | ⟨front, last, places⟩
  · left
    constructor
    · rw [parent?_eq, none]
      rfl
    · rw [spelled, none]
      cases path.isAbsolute
      · exact .inl rfl
      · exact .inr rfl
  · right
    obtain ⟨component, found, unrooted⟩ := @mem_carrying path last (by simp [places])
    rcases List.eq_nil_or_concat front with rfl | ⟨front, place, rfl⟩
    · refine ⟨⟨if path.isAbsolute then "/" else ""⟩, component, ?_, unrooted, ?_⟩
      · rw [parent?_eq, places]
        rfl
      · rw [spelled, places]
        simp only [List.concat_eq_append, List.nil_append, List.filterMap_cons, found,
          List.filterMap_nil]
        cases path.isAbsolute <;> rfl
    · have last_two : path.carrying = front ++ [place, last] := by simp [places]
      obtain ⟨above, same, before⟩ := carrying_take last_two
      refine ⟨_, component, above, unrooted, ?_⟩
      have split : front ++ [place, last] = (front ++ [place]) ++ [last] := by simp
      rw [spelled, last_two, components_eq_carrying, same, before, split, List.filterMap_append,
        List.append_assoc, List.filterMap_cons_some found]
      rfl

end Parents

end Path

namespace Location

open StyleInline.Path

variable {location : Location}

/-- No plain spelling has two separators in a row. -/
theorem not_doubled_path (valid : location.IsValid) :
    ¬ ['/', '/'] <:+: location.path.text.toList := by
  rintro ⟨front, rest, doubled⟩
  have segments : segmentsOf location.path.text.toList =
      segmentsOf front ++ [] :: segmentsOf rest := by
    rw [← doubled, List.append_assoc]
    exact segmentsOf_append_any front ('/' :: rest)
  obtain ⟨first, more, before⟩ := List.exists_cons_of_ne_nil (segmentsOf_ne_nil front)
  obtain ⟨second, others, behind⟩ := List.exists_cons_of_ne_nil (segmentsOf_ne_nil rest)
  rw [before, behind, toList_path valid] at segments
  obtain ⟨isRooted, names⟩ := location
  have named := valid.map_toList
  by_cases none : names = []
  · subst none
    have count := congrArg List.length segments
    simp only [List.map_nil, joinSegments, List.append_nil, List.length_append,
      List.length_cons] at count
    cases isRooted with
    | true =>
        rw [if_pos rfl, segmentsOf, segmentsOf, List.length_cons, List.length_singleton] at count
        omega
    | false =>
        rw [if_neg (by simp), segmentsOf, List.length_singleton] at count
        omega
  · have spelled : segmentsOf (joinSegments (names.map String.toList)) = names.map String.toList :=
      segmentsOf_joinSegments (by simpa using none) fun segment member => (named segment member).2
    have empty : [] ∈ names.map String.toList := by
      cases isRooted with
      | true =>
          rw [if_pos rfl, List.singleton_append, segmentsOf, spelled, List.cons_append,
            List.cons.injEq] at segments
          simp [segments.2]
      | false =>
          rw [if_neg (by simp), List.nil_append, spelled] at segments
          simp [segments]
    exact (named [] empty).1 rfl

end Location

theorem directoryOf_eq (filename cwd : Path) :
    directoryOf filename cwd = (cwd.join filename).parent?.getD (cwd.join filename) := by
  have named :
      (if filename.isAbsolute then filename else cwd.join filename) = cwd.join filename := by
    split
    · next absolute => rw [Path.join, if_pos absolute]
    · rfl
  simp only [directoryOf, named]

/-- The components of the directory of a module: those of its file name but for the last one. -/
theorem components_directoryOf (filename cwd : Path) :
    (directoryOf filename cwd).components =
      if (cwd.join filename).components = [.root] then [.root]
      else (cwd.join filename).components.dropLast := by
  rw [directoryOf_eq]
  rcases (cwd.join filename).parent?_cases with
    ⟨above, none | top⟩ | ⟨parent, last, above, unrooted, split⟩
  · simp [above, none]
  · simp [above, top]
  · rw [above, Option.getD_some, split, List.dropLast_concat, if_neg]
    intro alone
    have ends := congrArg List.getLast? alone
    simp only [List.getLast?_concat, List.getLast?_singleton, Option.some.injEq] at ends
    exact unrooted ends

theorem namesNothing_iff {specifier : String} :
    namesNothing specifier = true ↔ specifier = "" ∨ '\x00' ∈ specifier.toList := by
  simp [namesNothing]

theorem isAbsolute_join_iff {base addition : Path} :
    (base.join addition).isAbsolute = true ↔
      addition.isAbsolute = true ∨ base.isAbsolute = true := by
  cases relative : addition.isAbsolute with
  | true => simp only [Path.join, relative, if_true, true_or]
  | false =>
      simp only [Bool.false_eq_true, false_or]
      constructor
      · intro joined
        rcases toList_join relative base with
          ⟨_, same⟩ | ⟨front, ended, spelled⟩ | ⟨some, _, spelled⟩
        · rw [same, relative] at joined
          cases joined
        · have same := @isAbsolute_of_append base (base.join addition) addition.text.toList
            (by simp [ended]) (by simp [spelled, ended])
          rw [← same, joined]
        · rw [← isAbsolute_of_append some spelled, joined]
      · intro absolute
        exact isAbsolute_join absolute addition

theorem isAbsolute_directoryOf_iff {filename cwd : Path} :
    (directoryOf filename cwd).isAbsolute = true ↔
      filename.isAbsolute = true ∨ cwd.isAbsolute = true := by
  rw [← isAbsolute_join_iff, directoryOf_eq]
  rcases (cwd.join filename).parent?_cases with ⟨above, _⟩ | ⟨parent, last, above, unrooted, split⟩
  · rw [above, Option.getD_none]
  · rw [above, Option.getD_some, Path.isAbsolute_iff_root_mem, Path.isAbsolute_iff_root_mem, split]
    simp [unrooted.symm]

theorem follow_normalize (path : Path) :
    nowhere.follow path.normalize.components = nowhere.follow path.components := by
  have valid : (nowhere.follow path.components).IsValid := isValid_nowhere.follow_path path
  rw [normalize_eq, follow_path nowhere valid]
  split
  · rfl
  · next off => exact Location.ext (Bool.eq_false_iff.mpr off).symm (List.nil_append _)

/-- A specifier names nothing exactly if it is empty or has a NUL.  Any other one is followed from
the directory of the file name, or from the root if it is absolute, and the location that is reached
is spelled plainly: without `.`, `..` and repeated separators, and absolute if the specifier, the
file name or the working directory is.  It does not matter whether the directory is made normal
first, and an absolute answer stands for itself wherever it is resolved. -/
theorem resolveImport_follows (specifier : String) (filename cwd : Path) :
    let steps : Path := ⟨specifier⟩
    let named := cwd.join filename
    let above := if named.components = [.root] then [.root] else named.components.dropLast
    let start := if steps.isAbsolute then root else nowhere.follow above
    ((specifier = "" ∨ '\x00' ∈ specifier.toList) →
      resolveImport specifier filename cwd = .error (.resolve specifier filename)) ∧
    (¬ (specifier = "" ∨ '\x00' ∈ specifier.toList) →
      ∃ path, resolveImport specifier filename cwd = .ok path ∧
        path = (start.follow steps.components).path ∧
        path.components = (start.follow steps.components).components ∧
        (.here ∉ path.components ∧ .up ∉ path.components ∧ ¬ ['/', '/'] <:+: path.text.toList) ∧
        (path.isAbsolute = true ↔
          steps.isAbsolute = true ∨ filename.isAbsolute = true ∨ cwd.isAbsolute = true) ∧
        (directoryOf filename cwd).normalize = (nowhere.follow above).path ∧
        ((directoryOf filename cwd).normalize.join steps).normalize = path ∧
        (path.isAbsolute = true → '\x00' ∉ path.text.toList →
          ∀ otherName otherCwd, resolveImport path.text otherName otherCwd = .ok path)) := by
  intro steps named above start
  have directory : nowhere.follow (directoryOf filename cwd).components = nowhere.follow above :=
    congrArg _ (components_directoryOf filename cwd)
  -- The directory and its normal form lead to the same place, and only that counts.
  have reached : ∀ base : Path, nowhere.follow base.components = nowhere.follow above →
      (base.join steps).normalize = (start.follow steps.components).path := by
    intro base same
    rw [normalize_eq, follow_join, same, follow_components, follow_components]
    simp only [start]
    split <;> rfl
  have valid : (start.follow steps.components).IsValid := by
    apply IsValid.follow_path
    simp only [start]
    split
    · exact isValid_root
    · rw [← directory]
      exact isValid_nowhere.follow_path _
  constructor
  · intro empty
    rw [resolveImport, namesNothing_iff.mpr empty, if_pos rfl]
  · intro filled
    refine ⟨(start.follow steps.components).path, ?_, rfl, components_path valid,
      ?_, ?_, ?_, ?_, ?_⟩
    · rw [resolveImport, if_neg (mt namesNothing_iff.mp filled), reached _ directory]
    · rw [components_path valid]
      refine ⟨?_, ?_, not_doubled_path valid⟩ <;> simp [Location.components]
    · rw [← reached _ directory, isAbsolute_normalize, isAbsolute_join_iff,
        isAbsolute_directoryOf_iff]
    · rw [normalize_eq, directory]
    · exact reached _ ((follow_normalize _).trans directory)
    · intro absolute clean otherName otherCwd
      have rooted : (start.follow steps.components).isRooted = true := by
        rw [← isAbsolute_path valid, absolute]
      have written : ¬ ((start.follow steps.components).path.text = "" ∨
          '\x00' ∈ (start.follow steps.components).path.text.toList) := by
        rintro (empty | dirty)
        · simp [Path.isAbsolute, empty] at absolute
        · exact clean dirty
      rw [resolveImport, if_neg (mt namesNothing_iff.mp written), normalize_eq, follow_join,
        follow_path _ valid, if_pos rooted]

/-- A specifier that leaves the directory again, from a file name that is not spelled plainly. -/
theorem resolveImport_follows_theme :
    resolveImport "../../styles/./theme.css" ⟨"src//components/./button.js"⟩ ⟨"/project"⟩ =
        .ok ⟨"/project/styles/theme.css"⟩ ∧
      resolveImport "/project/styles/theme.css" ⟨"index.js"⟩ ⟨"app"⟩ =
        .ok ⟨"/project/styles/theme.css"⟩ := by
  obtain ⟨_, follows⟩ := resolveImport_follows "../../styles/./theme.css"
    ⟨"src//components/./button.js"⟩ ⟨"/project"⟩
  obtain ⟨path, resolved, same, _, _, _, _, _, again⟩ := follows (by decide)
  have reached : path = ⟨"/project/styles/theme.css"⟩ := same.trans (by decide +kernel)
  subst reached
  exact ⟨resolved, again (by decide) (by decide) ⟨"index.js"⟩ ⟨"app"⟩⟩

end StyleInline
