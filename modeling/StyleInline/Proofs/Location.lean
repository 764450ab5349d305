import Mathlib.Data.List.Induction
import Mathlib.Data.List.Infix
import StyleInline.Path

/-!
# Locations

The place that a path leads to when nothing but its text is looked at: names, from the root or
from wherever the path starts.  A path is made normal by following its components from nowhere,
and the normal form is the plain spelling of the location that is reached.
-/

namespace StyleInline

/-- A text that can be the name of one component. -/
def IsName (text : String) : Prop :=
  text.toList ≠ [] ∧ text.toList ≠ ['.'] ∧ text.toList ≠ ['.', '.'] ∧ '/' ∉ text.toList

namespace Component

/-- A component that some path has. -/
def IsProper : Component → Prop
  | .name text => IsName text
  | _ => True

end Component

namespace Path

theorem ext {path other : Path} (same : path.text = other.text) : path = other := by
  cases path
  cases other
  exact congrArg _ same

section Segments

theorem segmentsOf_ne_nil (chars : List Char) : segmentsOf chars ≠ [] := by
  induction chars with
  | nil => simp [segmentsOf]
  | cons c rest ih =>
      rw [segmentsOf.eq_def]
      split
      · simp_all
      · simp
      · split <;> simp

theorem segmentsOf_cons {c : Char} (other : c ≠ '/') (rest : List Char) :
    ∃ first more, segmentsOf rest = first :: more ∧ segmentsOf (c :: rest) = (c :: first) :: more := by
  cases segments : segmentsOf rest with
  | nil => exact absurd segments (segmentsOf_ne_nil rest)
  | cons first more =>
      refine ⟨first, more, rfl, ?_⟩
      rw [segmentsOf, segments]
      exact other

theorem slash_not_mem_of_segmentsOf (chars : List Char) :
    ∀ segment ∈ segmentsOf chars, '/' ∉ segment := by
  induction chars with
  | nil => simp [segmentsOf]
  | cons c rest ih =>
      intro segment member
      by_cases slash : c = '/'
      · subst slash
        rcases List.mem_cons.mp member with rfl | later
        · simp
        · exact ih segment later
      · obtain ⟨first, more, split, joined⟩ := segmentsOf_cons slash rest
        rw [joined] at member
        rw [split] at ih
        rcases List.mem_cons.mp member with rfl | later
        · have := ih first (by simp)
          simp [Ne.symm slash, this]
        · exact ih segment (by simp [later])

theorem segmentsOf_append (segment rest : List Char) (plain : '/' ∉ segment) :
    segmentsOf (segment ++ '/' :: rest) = segment :: segmentsOf rest := by
  induction segment with
  | nil => rfl
  | cons c segment ih =>
      simp only [List.mem_cons, not_or] at plain
      obtain ⟨first, more, split, joined⟩ :=
        segmentsOf_cons (Ne.symm plain.1) (segment ++ '/' :: rest)
      rw [ih plain.2] at split
      rw [List.cons_append, joined]
      simp_all

theorem segmentsOf_of_plain {segment : List Char} (plain : '/' ∉ segment) :
    segmentsOf segment = [segment] := by
  induction segment with
  | nil => rfl
  | cons c segment ih =>
      simp only [List.mem_cons, not_or] at plain
      obtain ⟨first, more, split, joined⟩ := segmentsOf_cons (Ne.symm plain.1) segment
      rw [ih plain.2] at split
      rw [joined]
      simp_all

theorem joinSegments_cons (first second : List Char) (rest : List (List Char)) :
    joinSegments (first :: second :: rest) = first ++ '/' :: joinSegments (second :: rest) := rfl

theorem segmentsOf_joinSegments {segments : List (List Char)} (some : segments ≠ [])
    (plain : ∀ segment ∈ segments, '/' ∉ segment) :
    segmentsOf (joinSegments segments) = segments := by
  induction segments with
  | nil => exact absurd rfl some
  | cons first rest ih =>
      cases rest with
      | nil => exact segmentsOf_of_plain (plain first (by simp))
      | cons second rest =>
          rw [joinSegments_cons, segmentsOf_append _ _ (plain first (by simp)),
            ih (by simp) fun segment member => plain segment (by simp [member])]

theorem joinSegments_snoc (segments : List (List Char)) (last : List Char) (some : segments ≠ []) :
    joinSegments (segments ++ [last]) = joinSegments segments ++ '/' :: last := by
  induction segments with
  | nil => exact absurd rfl some
  | cons first rest ih =>
      cases rest with
      | nil => rfl
      | cons second rest =>
          have step := ih (by simp)
          rw [List.cons_append, List.cons_append, joinSegments_cons, joinSegments_cons,
            List.append_assoc, List.cons_append, ← step, List.cons_append]

end Segments

section Components

variable {path : Path}

theorem isProper_componentOf {leading : Bool} {segment : List Char} {component : Component}
    (plain : '/' ∉ segment) (carried : componentOf leading segment = some component) :
    component.IsProper ∧ component ≠ .root ∧ (leading = false → component ≠ .here) := by
  unfold componentOf at carried
  split at carried
  · cases carried
  split at carried
  · split at carried
    · cases carried
      simp_all [Component.IsProper]
    · cases carried
  split at carried
  · cases carried
    simp [Component.IsProper]
  · cases carried
    simp_all [Component.IsProper, IsName]

theorem componentOf_name {leading : Bool} {text : String} (named : IsName text) :
    componentOf leading text.toList = some (.name text) := by
  obtain ⟨nonempty, dot, dots, _⟩ := named
  simp [componentOf, nonempty, dot, dots]

theorem isAbsolute_eq_true_iff :
    path.isAbsolute = true ↔ ∃ rest, path.text.toList = '/' :: rest := by
  unfold isAbsolute
  split
  case h_1 rest split => simp [split]
  case h_2 other => simpa using other

/-- The root is the first component of an absolute path and stands nowhere else. -/
theorem components_of_absolute (absolute : path.isAbsolute = true) :
    ∃ rest, path.components = .root :: rest ∧ .root ∉ rest := by
  obtain ⟨rest, split⟩ := isAbsolute_eq_true_iff.mp absolute
  refine ⟨(segmentsOf rest).filterMap (componentOf false), ?_, ?_⟩
  · simp [components, componentsOf, split]
  · intro member
    obtain ⟨segment, inside, carried⟩ := List.mem_filterMap.mp member
    exact (isProper_componentOf (slash_not_mem_of_segmentsOf _ _ inside) carried).2.1 rfl

theorem componentsOf_relative {chars : List Char} (relative : ∀ rest, chars ≠ '/' :: rest) :
    ∃ first rest, segmentsOf chars = first :: rest ∧
      componentsOf chars = (componentOf true first).toList ++ rest.filterMap (componentOf false) := by
  cases segments : segmentsOf chars with
  | nil => exact absurd segments (segmentsOf_ne_nil chars)
  | cons first rest =>
      refine ⟨first, rest, rfl, ?_⟩
      rw [componentsOf.eq_def]
      split
      · exact absurd rfl (relative _)
      · rw [segments]

theorem isAbsolute_eq_false_iff :
    path.isAbsolute = false ↔ ∀ rest, path.text.toList ≠ '/' :: rest := by
  unfold isAbsolute
  split
  case h_1 rest split => simp [split]
  case h_2 other => simpa using other

theorem mem_components {component : Component} (member : component ∈ path.components) :
    component.IsProper ∧ (path.isAbsolute = false → component ≠ .root) := by
  cases absolute : path.isAbsolute with
  | true =>
      obtain ⟨rest, split⟩ := isAbsolute_eq_true_iff.mp absolute
      rw [components, split] at member
      rcases List.mem_cons.mp member with rfl | later
      · simp [Component.IsProper]
      · obtain ⟨segment, inside, carried⟩ := List.mem_filterMap.mp later
        have proper := isProper_componentOf (slash_not_mem_of_segmentsOf _ _ inside) carried
        simp [proper.1]
  | false =>
      obtain ⟨first, rest, segments, spelled⟩ :=
        componentsOf_relative (isAbsolute_eq_false_iff.mp absolute)
      have plain := slash_not_mem_of_segmentsOf path.text.toList
      rw [segments] at plain
      rw [components, spelled] at member
      rcases List.mem_append.mp member with leading | later
      · have proper := isProper_componentOf (plain first (by simp)) (Option.mem_toList.mp leading)
        exact ⟨proper.1, fun _ => proper.2.1⟩
      · obtain ⟨segment, inside, carried⟩ := List.mem_filterMap.mp later
        have proper := isProper_componentOf (plain segment (by simp [inside])) carried
        exact ⟨proper.1, fun _ => proper.2.1⟩

end Components

end Path

open StyleInline.Path

/-- Names that lead somewhere, from the root or from wherever a path starts. -/
@[ext]
structure Location where
  isRooted : Bool
  names : List String
  deriving DecidableEq, Repr

namespace Location

/-- Where every path starts that says nothing of its start. -/
def nowhere : Location := ⟨false, []⟩

def root : Location := ⟨true, []⟩

def components (location : Location) : List Component :=
  (if location.isRooted then [.root] else []) ++ location.names.map .name

def path (location : Location) : Path := .ofComponents location.components

def IsValid (location : Location) : Prop := ∀ name ∈ location.names, IsName name

/-- One step of a path; `..` at the top leads nowhere else. -/
def step (location : Location) : Component → Location
  | .root => root
  | .here => location
  | .up => { location with names := location.names.dropLast }
  | .name text => { location with names := location.names ++ [text] }

def follow (location : Location) (components : List Component) : Location :=
  components.foldl step location

section Following

variable {location : Location}

@[simp]
theorem isValid_root : root.IsValid := by simp [IsValid, root]

@[simp]
theorem isValid_nowhere : nowhere.IsValid := by simp [IsValid, nowhere]

theorem IsValid.step (valid : location.IsValid) {component : Component}
    (proper : component.IsProper) : (location.step component).IsValid := by
  cases component with
  | root => exact isValid_root
  | here => exact valid
  | up =>
      intro name member
      exact valid name (List.dropLast_subset _ member)
  | name text =>
      intro name member
      rcases List.mem_append.mp member with old | new
      · exact valid name old
      · obtain rfl := List.mem_singleton.mp new
        exact proper

theorem IsValid.follow {components : List Component} (valid : location.IsValid)
    (proper : ∀ component ∈ components, component.IsProper) :
    (location.follow components).IsValid := by
  induction components generalizing location with
  | nil => exact valid
  | cons component rest ih =>
      apply ih (valid.step (proper component (by simp)))
      intro later member
      exact proper later (by simp [member])

theorem IsValid.follow_path (valid : location.IsValid) (path : Path) :
    (location.follow path.components).IsValid :=
  valid.follow fun _ member => (mem_components member).1

/-- Components without a root neither leave the root nor reach it. -/
theorem isRooted_follow {components : List Component} (unrooted : .root ∉ components) :
    (location.follow components).isRooted = location.isRooted := by
  induction components generalizing location with
  | nil => rfl
  | cons component rest ih =>
      simp only [List.mem_cons, not_or] at unrooted
      have same : (location.step component).isRooted = location.isRooted := by
        cases component with
        | root => exact absurd rfl unrooted.1
        | here | up | name _ => rfl
      rw [← same]
      exact ih unrooted.2

/-- A step of the normal form is a step of the location, told by reversed components. -/
theorem normalizeStep_components {component : Component} (other : component ≠ .root) :
    normalizeStep location.components.reverse component =
      (location.step component).components.reverse := by
  obtain ⟨isRooted, names⟩ := location
  cases component with
  | root => exact absurd rfl other
  | here => rfl
  | up =>
      rcases List.eq_nil_or_concat names with rfl | ⟨front, last, rfl⟩
      · cases isRooted <;> rfl
      · simp [normalizeStep, components, step]
  | name text => cases isRooted <;> simp [normalizeStep, components, step]

theorem normalizeComponents_from {components : List Component} (unrooted : .root ∉ components) :
    (components.foldl normalizeStep location.components.reverse).reverse =
      (location.follow components).components := by
  induction components generalizing location with
  | nil => simp [follow]
  | cons component rest ih =>
      simp only [List.mem_cons, not_or] at unrooted
      rw [List.foldl_cons, normalizeStep_components (Ne.symm unrooted.1), ih unrooted.2]
      rfl

theorem normalizeComponents_path (path : Path) :
    normalizeComponents path.components = (nowhere.follow path.components).components := by
  cases absolute : path.isAbsolute with
  | true =>
      obtain ⟨rest, spelled, unrooted⟩ := components_of_absolute absolute
      rw [spelled]
      exact @normalizeComponents_from root _ unrooted
  | false =>
      apply @normalizeComponents_from nowhere
      intro member
      exact (mem_components member).2 absolute rfl

/-- The normal form of a path is the plain spelling of the location that it leads to. -/
theorem normalize_eq (path : Path) : path.normalize = (nowhere.follow path.components).path := by
  rw [Path.normalize, normalizeComponents_path]
  rfl

/-- Segments one after another, those without a component skipped. -/
def along (location : Location) (segments : List (List Char)) : Location :=
  location.follow (segments.filterMap (componentOf false))

theorem along_append (first second : List (List Char)) :
    location.along (first ++ second) = (location.along first).along second := by
  simp [along, follow]

theorem follow_components (start : Location) (path : Path) :
    start.follow path.components =
      (if path.isAbsolute then root else start).along (segmentsOf path.text.toList) := by
  cases absolute : path.isAbsolute with
  | true =>
      obtain ⟨rest, split⟩ := isAbsolute_eq_true_iff.mp absolute
      simp [Path.components, componentsOf, split, along, follow, step, segmentsOf, componentOf]
  | false =>
      obtain ⟨first, rest, segments, spelled⟩ :=
        componentsOf_relative (isAbsolute_eq_false_iff.mp absolute)
      have leading : start.follow (componentOf true first).toList = start.along [first] := by
        simp only [along, componentOf, List.filterMap_cons, List.filterMap_nil]
        split
        · rfl
        · split <;> simp [follow, step]
          split <;> rfl
      rw [Path.components, spelled, segments, if_neg (by simp)]
      rw [← List.singleton_append, along_append, ← leading]
      simp [along, follow]

end Following

section Joining

theorem segmentsOf_append_any (front rest : List Char) :
    segmentsOf (front ++ '/' :: rest) = segmentsOf front ++ segmentsOf rest := by
  induction front with
  | nil => rfl
  | cons c front ih =>
      by_cases slash : c = '/'
      · subst slash
        simp [segmentsOf, ih]
      · obtain ⟨first, more, split, joined⟩ := segmentsOf_cons slash (front ++ '/' :: rest)
        obtain ⟨first', more', split', joined'⟩ := segmentsOf_cons slash front
        rw [ih, split', List.cons_append, List.cons.injEq] at split
        rw [List.cons_append, joined, joined', List.cons_append, split.1, split.2]

theorem endsWith_slash (text : String) :
    text.endsWith "/" = true ↔ ∃ front, text.toList = front ++ ['/'] := by
  rw [String.endsWith_eq_endsWith_toSlice, String.Slice.endsWith_string_iff]
  simp only [String.copy_toSlice]
  constructor
  · rintro ⟨front, same⟩
    exact ⟨front, same.symm⟩
  · rintro ⟨front, same⟩
    exact ⟨front, same.symm⟩

/-- What the text of a joined path is made of. -/
theorem toList_join {addition : Path} (relative : addition.isAbsolute = false) (base : Path) :
    (base.text.toList = [] ∧ base.join addition = addition) ∨
    (∃ front, base.text.toList = front ++ ['/'] ∧
      (base.join addition).text.toList = front ++ '/' :: addition.text.toList) ∨
    (base.text.toList ≠ [] ∧ base.text.endsWith "/" = false ∧
      (base.join addition).text.toList = base.text.toList ++ '/' :: addition.text.toList) := by
  unfold join
  rw [if_neg (by simp [relative])]
  by_cases empty : base.text.isEmpty
  · have none : base.text = "" := by simpa using empty
    exact .inl ⟨by simp [none], by simp [none]⟩
  by_cases open_ : base.text.endsWith "/"
  · obtain ⟨front, spelled⟩ := (endsWith_slash _).mp open_
    exact .inr (.inl ⟨front, spelled, by simp [open_, spelled]⟩)
  · refine .inr (.inr ⟨by simpa using empty, by simpa using open_, ?_⟩)
    simp [empty, open_]

theorem isAbsolute_of_append {base path : Path} {rest : List Char} (some : base.text.toList ≠ [])
    (spelled : path.text.toList = base.text.toList ++ rest) :
    path.isAbsolute = base.isAbsolute := by
  obtain ⟨first, more, split⟩ := List.exists_cons_of_ne_nil some
  simp only [isAbsolute, spelled, split, List.cons_append]
  split <;> simp_all

/-- A joined path is followed by following its parts. -/
theorem follow_join (start : Location) (base addition : Path) :
    start.follow (base.join addition).components =
      (start.follow base.components).follow addition.components := by
  cases relative : addition.isAbsolute with
  | true =>
      have same : base.join addition = addition := by simp only [join, relative, if_true]
      simp only [same, follow_components, relative, if_true]
  | false =>
      rw [follow_components start (base.join addition), follow_components start base,
        follow_components _ addition]
      simp only [relative, Bool.false_eq_true, if_false]
      rcases toList_join relative base with ⟨none, same⟩ | ⟨front, ended, joined⟩ | ⟨some, -, joined⟩
      · have unrooted : base.isAbsolute = false := by simp [isAbsolute, none]
        simp [same, relative, unrooted, none, along, follow, segmentsOf, componentOf]
      · have absolute : (base.join addition).isAbsolute = base.isAbsolute :=
          @isAbsolute_of_append base _ addition.text.toList (by simp [ended]) (by simp [joined, ended])
        rw [absolute, joined, ended, segmentsOf_append_any, segmentsOf_append_any, along_append,
          along_append]
        simp [along, follow, segmentsOf, componentOf]
      · rw [isAbsolute_of_append some joined, joined, segmentsOf_append_any, along_append]

theorem isAbsolute_join {base : Path} (absolute : base.isAbsolute = true) (addition : Path) :
    (base.join addition).isAbsolute = true := by
  cases relative : addition.isAbsolute with
  | true => simp only [join, relative, if_true]
  | false =>
      have some : base.text.toList ≠ [] := by
        intro none
        simp [isAbsolute, none] at absolute
      rcases toList_join relative base with ⟨none, _⟩ | ⟨front, ended, joined⟩ | ⟨_, _, joined⟩
      · exact absurd none some
      · rw [@isAbsolute_of_append base _ addition.text.toList some (by simp [joined, ended]), absolute]
      · rw [isAbsolute_of_append some joined, absolute]

/-- What stands above an absolute path is absolute. -/
theorem isAbsolute_parent? {path parent : Path} (absolute : path.isAbsolute = true)
    (above : path.parent? = some parent) : parent.isAbsolute = true := by
  obtain ⟨rest, spelled⟩ := isAbsolute_eq_true_iff.mp absolute
  have split : segmentsOf path.text.toList = [] :: segmentsOf rest := by rw [spelled, segmentsOf]
  unfold parent? at above
  simp only [absolute, if_true] at above
  split at above
  case h_1 => cases above
  case h_2 => cases above; rfl
  case h_3 last segment index others carrying =>
    cases above
    have member : (segment, index) ∈ last :: (segment, index) :: others := by simp
    rw [← carrying, List.mem_reverse] at member
    obtain ⟨placed, carried⟩ := List.mem_filter.mp member
    have later : index ≠ 0 := by
      rintro rfl
      rw [split, List.mem_zipIdx_iff_getElem?] at placed
      simp at placed
      subst placed
      exact absurd carried (by decide)
    obtain ⟨before, rfl⟩ := Nat.exists_eq_succ_of_ne_zero later
    obtain ⟨second, more, segments⟩ := List.exists_cons_of_ne_nil (segmentsOf_ne_nil rest)
    rw [split, segments]
    simp [isAbsolute, joinSegments]

end Joining

section Spelling

variable {location : Location}

theorem isAbsolute_of_isName {text : String} (named : IsName text) :
    (⟨text⟩ : Path).isAbsolute = false := by
  rw [isAbsolute_eq_false_iff]
  intro rest spelled
  exact named.2.2.2 (by simp [spelled])

/-- Segments that are names, joined, end with a character of the last name. -/
theorem joinSegments_ends {segments : List (List Char)} (some : segments ≠ [])
    (named : ∀ segment ∈ segments, segment ≠ [] ∧ '/' ∉ segment) :
    ∃ front c, joinSegments segments = front ++ [c] ∧ c ≠ '/' := by
  rcases List.eq_nil_or_concat segments with rfl | ⟨before, last, rfl⟩
  · exact absurd rfl some
  · obtain ⟨nonempty, plain⟩ := named last (by simp)
    obtain rfl | ⟨body, c, rfl⟩ := List.eq_nil_or_concat last
    · exact absurd rfl nonempty
    · have other : c ≠ '/' := by
        rintro rfl
        exact plain (by simp)
      by_cases alone : before = []
      · exact ⟨body, c, by simp [alone, joinSegments], other⟩
      · refine ⟨joinSegments before ++ '/' :: body, c, ?_, other⟩
        rw [List.concat_eq_append, joinSegments_snoc _ _ alone]
        simp

theorem IsValid.map_toList (valid : location.IsValid) :
    ∀ segment ∈ location.names.map String.toList, segment ≠ [] ∧ '/' ∉ segment := by
  intro segment member
  obtain ⟨name, inside, rfl⟩ := List.mem_map.mp member
  exact ⟨(valid name inside).1, (valid name inside).2.2.2⟩

theorem path_snoc (isRooted : Bool) (front : List String) (last : String) :
    path ⟨isRooted, front ++ [last]⟩ = (path ⟨isRooted, front⟩).join ⟨last⟩ := by
  simp [path, components, ofComponents, pushComponent]

/-- The text of a plain spelling. -/
theorem toList_path (valid : location.IsValid) :
    location.path.text.toList =
      (if location.isRooted then ['/'] else []) ++ joinSegments (location.names.map String.toList) := by
  obtain ⟨isRooted, names⟩ := location
  induction names using List.reverseRecOn with
  | nil => cases isRooted <;> simp [path, components, ofComponents, pushComponent, joinSegments]
  | append_singleton front last ih =>
      have named : IsName last := valid last (by simp)
      have before : IsValid ⟨isRooted, front⟩ := fun name member => valid name (by simp [member])
      have spelled := ih before
      rw [path_snoc]
      by_cases first : front = []
      · subst first
        rcases toList_join (isAbsolute_of_isName named) (path ⟨isRooted, []⟩) with
          ⟨none, same⟩ | ⟨rest, ended, joined⟩ | ⟨some, closed, joined⟩
        · cases isRooted <;> simp_all [joinSegments]
        · cases isRooted <;> simp_all [joinSegments]
        · cases isRooted
          · simp_all [joinSegments]
          · have open_ : (path ⟨true, []⟩).text.endsWith "/" = true := by
              rw [endsWith_slash]
              exact ⟨[], by simpa [joinSegments] using spelled⟩
            rw [open_] at closed
            cases closed
      · have names : front.map String.toList ≠ [] := by simpa using first
        obtain ⟨body, c, ended, other⟩ := joinSegments_ends names before.map_toList
        have spelled' : (path ⟨isRooted, front⟩).text.toList =
            ((if isRooted then ['/'] else []) ++ body) ++ [c] := by
          rw [spelled, ended, List.append_assoc]
        rcases toList_join (isAbsolute_of_isName named) (path ⟨isRooted, front⟩) with
          ⟨none, _⟩ | ⟨rest, slash, _⟩ | ⟨_, _, joined⟩
        · simp [none] at spelled'
        · rw [slash] at spelled'
          exact absurd (List.append_inj_right' spelled' rfl) (by simpa using Ne.symm other)
        · rw [joined, spelled, List.map_append, List.map_singleton, joinSegments_snoc _ _ names]
          simp

theorem isAbsolute_path (valid : location.IsValid) :
    location.path.isAbsolute = location.isRooted := by
  obtain ⟨isRooted, names⟩ := location
  have spelled := toList_path valid
  cases isRooted with
  | true => simp [isAbsolute, spelled]
  | false =>
      rw [isAbsolute_eq_false_iff]
      intro rest starts
      rw [spelled] at starts
      cases names with
      | nil => simp [joinSegments] at starts
      | cons first more =>
          have named := valid first (by simp)
          obtain ⟨c, name, split⟩ := List.exists_cons_of_ne_nil named.1
          have slash : c = '/' := by
            cases more <;> simp_all [joinSegments]
          exact named.2.2.2 (by simp [split, slash])

theorem filterMap_componentOf {names : List String} (valid : ∀ name ∈ names, IsName name) :
    (names.map String.toList).filterMap (componentOf false) = names.map .name := by
  induction names with
  | nil => rfl
  | cons first rest ih =>
      have named := valid first (by simp)
      rw [List.map_cons, List.filterMap_cons_some (componentOf_name named),
        ih fun name member => valid name (by simp [member])]
      rfl

/-- A plain spelling has the components that it was made of. -/
theorem components_path (valid : location.IsValid) :
    location.path.components = location.components := by
  have spelled := toList_path valid
  have absolute := isAbsolute_path valid
  obtain ⟨isRooted, names⟩ := location
  cases names with
  | nil => cases isRooted <;> simp_all [Path.components, components, joinSegments, componentsOf,
      segmentsOf, componentOf]
  | cons first more =>
      have segments : segmentsOf (joinSegments ((first :: more).map String.toList)) =
          (first :: more).map String.toList :=
        segmentsOf_joinSegments (by simp) fun segment member => (valid.map_toList segment member).2
      cases isRooted with
      | true =>
          rw [Path.components, spelled]
          simp only [if_true, List.cons_append, List.nil_append, componentsOf, segments,
            filterMap_componentOf valid, components]
      | false =>
          rw [isAbsolute_eq_false_iff] at absolute
          obtain ⟨head, tail, split, same⟩ := componentsOf_relative absolute
          rw [Path.components, same]
          rw [spelled, if_neg (by simp), List.nil_append, segments, List.map_cons,
            List.cons.injEq] at split
          obtain ⟨rfl, rfl⟩ := split
          rw [componentOf_name (valid first (by simp)),
            filterMap_componentOf fun name member => valid name (by simp [member])]
          rfl

theorem follow_names (start : Location) (names : List String) :
    start.follow (names.map .name) = ⟨start.isRooted, start.names ++ names⟩ := by
  induction names generalizing start with
  | nil => simp [follow]
  | cons first rest ih =>
      have stepped := ih (start.step (.name first))
      simp only [follow, List.map_cons, List.foldl_cons] at stepped ⊢
      rw [stepped]
      simp [step]

/-- A plain spelling leads to its location. -/
theorem follow_path (start : Location) (valid : location.IsValid) :
    start.follow location.path.components =
      if location.isRooted then location else ⟨start.isRooted, start.names ++ location.names⟩ := by
  rw [components_path valid]
  obtain ⟨isRooted, names⟩ := location
  cases isRooted with
  | true => exact follow_names root names
  | false => exact follow_names start names

theorem path_inj {other : Location} (valid : location.IsValid) (valid' : other.IsValid) :
    location.path = other.path ↔ location = other := by
  constructor
  · intro same
    have followed := follow_path nowhere valid
    rw [same, follow_path nowhere valid'] at followed
    obtain ⟨isRooted, names⟩ := location
    obtain ⟨isRooted', names'⟩ := other
    cases isRooted <;> cases isRooted' <;> simp_all [nowhere]
  · rintro rfl
    rfl

theorem isAbsolute_normalize (path : Path) : path.normalize.isAbsolute = path.isAbsolute := by
  rw [normalize_eq, isAbsolute_path (isValid_nowhere.follow_path path)]
  cases absolute : path.isAbsolute with
  | true =>
      obtain ⟨rest, split, unrooted⟩ := components_of_absolute absolute
      rw [split]
      exact @isRooted_follow root _ unrooted
  | false =>
      exact isRooted_follow fun member => (mem_components member).2 absolute rfl

theorem normalize_path (valid : location.IsValid) : location.path.normalize = location.path := by
  rw [normalize_eq, follow_path nowhere valid]
  obtain ⟨isRooted, names⟩ := location
  cases isRooted <;> simp [nowhere]

end Spelling

section Parents

variable {location : Location}

/-- The location above; there is nothing above the top. -/
def up? (location : Location) : Option Location :=
  if location.names = [] then none else some { location with names := location.names.dropLast }

theorem up?_snoc (isRooted : Bool) (front : List String) (last : String) :
    up? ⟨isRooted, front ++ [last]⟩ = some ⟨isRooted, front⟩ := by
  simp [up?]

theorem filter_carries {names : List String} (valid : ∀ name ∈ names, IsName name)
    (absolute : Bool) (start : Nat) :
    (((names.map String.toList).zipIdx start).filter fun (segment, index) =>
      carries absolute index segment) = (names.map String.toList).zipIdx start := by
  rw [List.filter_eq_self]
  rintro ⟨segment, index⟩ member
  obtain ⟨name, inside, rfl⟩ := List.mem_map.mp (List.fst_mem_of_mem_zipIdx member)
  simp [carries, componentOf_name (valid name inside)]

/-- What stands in front of the last of some segments that all carry a component. -/
theorem parent?_of_carrying {path : Path} {segments : List (List Char)} {last : List Char} {start : Nat}
    (carrying : ((segmentsOf path.text.toList).zipIdx.filter fun (segment, index) =>
      carries path.isAbsolute index segment) = (segments ++ [last]).zipIdx start) :
    path.parent? =
      if segments = [] then some ⟨if path.isAbsolute then "/" else ""⟩
      else some ⟨String.ofList
        (joinSegments ((segmentsOf path.text.toList).take (start + segments.length)))⟩ := by
  unfold parent?
  simp only [carrying]
  rcases List.eq_nil_or_concat segments with rfl | ⟨front, second, rfl⟩
  · simp
  · simp [List.zipIdx_append, Nat.add_assoc]

/-- The text in front of the last name. -/
theorem parent?_path (valid : location.IsValid) :
    location.path.parent? = location.up?.map path := by
  have spelled := toList_path valid
  have absolute := isAbsolute_path valid
  obtain ⟨isRooted, names⟩ := location
  by_cases none : names = []
  · subst none
    have root_ : carries true 0 [] = false := by decide
    have root' : carries true 1 [] = false := by decide
    have nowhere_ : carries false 0 [] = false := by decide
    cases isRooted <;>
      simp_all [parent?, up?, joinSegments, segmentsOf, List.zipIdx_cons]
  · have segments : segmentsOf (joinSegments (names.map String.toList)) = names.map String.toList :=
      segmentsOf_joinSegments (by simpa using none) fun segment member =>
        (valid.map_toList segment member).2
    have kept := filter_carries valid isRooted
    obtain ⟨front, last, rfl⟩ : ∃ front last, names = front ++ [last] := by
      rcases List.eq_nil_or_concat names with rfl | ⟨front, last, rfl⟩
      · exact absurd rfl none
      · exact ⟨front, last, by simp⟩
    have above : IsValid ⟨isRooted, front⟩ := fun name member => valid name (by simp [member])
    have spelled' := toList_path above
    rw [List.map_append, List.map_singleton] at segments kept
    cases isRooted with
    | true =>
        have split : segmentsOf (path ⟨true, front ++ [last]⟩).text.toList =
            [] :: (front.map String.toList ++ [last.toList]) := by
          rw [spelled, ← segments]
          simp [segmentsOf]
        have top : carries true 0 [] = false := by decide
        rw [@parent?_of_carrying _ (front.map String.toList) last.toList 1
          (by rw [split, absolute, List.zipIdx_cons, List.filter_cons_of_neg (by simp [top]), kept])]
        rw [up?_snoc, Option.map_some, absolute, split, Nat.add_comm, List.take_succ_cons,
          List.take_left' rfl]
        by_cases first : front = []
        · subst first
          rfl
        · obtain ⟨second, more, names⟩ := List.exists_cons_of_ne_nil
            (show front.map String.toList ≠ [] by simpa using first)
          rw [if_neg (by simp [names])]
          simp only [Option.some.injEq]
          apply Path.ext
          rw [← String.toList_inj, spelled', String.toList_ofList, names]
          rfl
    | false =>
        have split : segmentsOf (path ⟨false, front ++ [last]⟩).text.toList =
            front.map String.toList ++ [last.toList] := by
          rw [spelled, ← segments]
          simp
        rw [@parent?_of_carrying _ (front.map String.toList) last.toList 0
          (by rw [split, absolute, kept])]
        rw [up?_snoc, Option.map_some, absolute, split, Nat.zero_add, List.take_left' rfl]
        by_cases first : front = []
        · subst first
          rfl
        · rw [if_neg (by simpa using first)]
          simp only [Option.some.injEq]
          apply Path.ext
          rw [← String.toList_inj, spelled', String.toList_ofList]
          simp

theorem ancestorsWithin_path {isRooted : Bool} {names : List String}
    (valid : IsValid ⟨isRooted, names⟩) {fuel : Nat} (enough : names.length ≤ fuel) :
    ancestorsWithin fuel (path ⟨isRooted, names⟩) =
      names.inits.reverse.map fun above => path ⟨isRooted, above⟩ := by
  induction names using List.reverseRecOn generalizing fuel with
  | nil =>
      have top := parent?_path valid
      rw [up?, if_pos rfl, Option.map_none] at top
      cases fuel with
      | zero => rfl
      | succ fuel => simp [ancestorsWithin, top]
  | append_singleton front last ih =>
      have above : IsValid ⟨isRooted, front⟩ := fun name member => valid name (by simp [member])
      have parent := parent?_path valid
      rw [up?_snoc, Option.map_some] at parent
      cases fuel with
      | zero => simp at enough
      | succ fuel =>
          rw [List.length_append, List.length_singleton] at enough
          rw [ancestorsWithin, parent]
          dsimp only
          rw [ih above (by omega)]
          simp [List.inits_append]

theorem length_le_joinSegments {segments : List (List Char)}
    (some : ∀ segment ∈ segments, segment ≠ []) :
    segments.length ≤ (joinSegments segments).length := by
  induction segments with
  | nil => simp
  | cons first rest ih =>
      have nonempty := List.length_pos_of_ne_nil (some first (by simp))
      have later := ih fun segment member => some segment (by simp [member])
      cases rest with
      | nil => exact nonempty
      | cons second rest =>
          simp only [joinSegments_cons, List.length_append, List.length_cons] at later ⊢
          omega

/-- From a location upwards stand the beginnings of its names, the longest first. -/
theorem ancestors_path (valid : location.IsValid) :
    location.path.ancestors =
      location.names.inits.reverse.map fun above => path ⟨location.isRooted, above⟩ := by
  have enough : location.names.length ≤ location.path.text.length := by
    have each := length_le_joinSegments fun segment member => (valid.map_toList segment member).1
    rw [List.length_map] at each
    rw [← String.length_toList, toList_path valid, List.length_append]
    omega
  obtain ⟨isRooted, names⟩ := location
  exact ancestorsWithin_path valid enough

/-- Above a location are the proper beginnings of its names. -/
theorem mem_above (valid : location.IsValid) (other : Path) :
    other ∈ location.path.ancestors.drop 1 ↔
      ∃ names, names <+: location.names ∧ names ≠ location.names ∧
        other = path ⟨location.isRooted, names⟩ := by
  rw [ancestors_path valid]
  obtain ⟨isRooted, names⟩ := location
  rcases List.eq_nil_or_concat names with rfl | ⟨front, last, rfl⟩
  · constructor
    · intro impossible
      cases impossible
    · rintro ⟨_, start, differs, _⟩
      exact absurd (List.prefix_nil.mp start) differs
  · have inits : (front.concat last).inits.reverse = front.concat last :: front.inits.reverse := by
      simp [List.inits_append]
    rw [inits, List.map_cons, List.drop_one, List.tail_cons]
    simp only [List.mem_map, List.mem_reverse, List.mem_inits, List.concat_eq_append,
      List.prefix_concat_iff]
    constructor
    · rintro ⟨names, start, rfl⟩
      refine ⟨names, .inr start, ?_, rfl⟩
      rintro rfl
      have shorter := start.length_le
      rw [List.length_append, List.length_singleton] at shorter
      omega
    · rintro ⟨names, whole | start, differs, rfl⟩
      · exact absurd whole differs
      · exact ⟨names, start, rfl⟩

end Parents

end Location

end StyleInline
