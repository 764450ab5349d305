import StyleInline.Glob.Wildcards
import StyleInline.Proofs.Location
import StyleInline.Proofs.SegmentFit

/-!
# Reading patterns with wildcards

An absolute pattern whose segments are made of characters, `?` and `*`, or are `**`, has no fault,
and its segments are read as they stand.
-/

namespace StyleInline.Glob

/-- A segment of characters that stand for themselves, `?` and `*`, or `**`. -/
def IsSimple (segment : String) : Prop :=
  (∀ c ∈ segment.toList, c ≠ '[' ∧ c ≠ '{' ∧ c ≠ '\\') ∧
    (segment = "**" ∨ ¬ ['*', '*'] <:+: segment.toList)

-- The characters of the segment are tried, not those of the whole type.
instance : DecidablePred IsSimple := fun segment =>
  have : Decidable (∀ c ∈ segment.toList, c ≠ '[' ∧ c ≠ '{' ∧ c ≠ '\\') := List.decidableBAll _ _
  inferInstanceAs (Decidable (_ ∧ _))

def IsWide (segment : String) : Prop := segment = "**"

/-- A name fits a segment, character by character. -/
def Fits (segment name : String) : Prop := Matches '*' '?' segment.toList name.toList

/-- The names of a path fit the segments of a pattern. -/
abbrev Covers (segments names : List String) : Prop := Spans IsWide Fits segments names

/-- The text of an absolute path with some names. -/
def spell (names : List String) : List Char := names.flatMap fun name => '/' :: name.toList

theorem toList_path {names : List String} (valid : ∀ name ∈ names, IsName name)
    (some : names ≠ []) : (Location.path ⟨true, names⟩).text.toList = spell names := by
  rw [@Location.toList_path ⟨true, names⟩ valid]
  clear valid
  simp only [if_true, List.cons_append, List.nil_append]
  induction names with
  | nil => exact absurd rfl some
  | cons first rest ih =>
      cases rest with
      | nil => simp [spell, Path.joinSegments]
      | cons second rest =>
          have later := ih (by simp)
          rw [List.map_cons, List.map_cons, Path.joinSegments_cons, ← List.map_cons, later]
          simp [spell]

namespace Wildcards

/-- The part that a character stands for, brackets left aside. -/
def Part.ofChar : Char → Part
  | '*' => .anyChars
  | '?' => .anyChar
  | c => .char c

theorem Part.ofChar_literal {c : Char} (solid : c ≠ '*' ∧ c ≠ '?') : ofChar c = .char c := by
  unfold ofChar
  split
  · exact absurd rfl solid.1
  · exact absurd rfl solid.2
  · rfl

section Fitting

theorem mem_suffixes {suffix name : List Char} :
    suffix ∈ fits.suffixes name ↔ ∃ front, name = front ++ suffix := by
  induction name with
  | nil => simp [fits.suffixes]
  | cons c rest ih =>
      rw [fits.suffixes, List.mem_cons, ih]
      constructor
      · rintro (rfl | ⟨front, rfl⟩)
        · exact ⟨[], rfl⟩
        · exact ⟨c :: front, rfl⟩
      · rintro ⟨front, spelled⟩
        cases front with
        | nil => exact .inl spelled.symm
        | cons first front =>
            rw [List.cons_append, List.cons.injEq] at spelled
            exact .inr ⟨front, spelled.2⟩

/-- Parts without brackets fit what their characters fit. -/
theorem fits_iff (symbols name : List Char) :
    fits (symbols.map Part.ofChar) name = true ↔ Matches '*' '?' symbols name := by
  induction symbols generalizing name with
  | nil => simp [fits, Matches.nil_iff]
  | cons c symbols ih =>
      rw [List.map_cons]
      by_cases star : c = '*'
      · subst star
        simp only [Part.ofChar, fits, List.any_eq_true, mem_suffixes, ih, Matches.star_iff]
        constructor
        · rintro ⟨back, ⟨front, rfl⟩, fit⟩
          exact ⟨front, back, rfl, fit⟩
        · rintro ⟨front, back, rfl, fit⟩
          exact ⟨back, ⟨front, rfl⟩, fit⟩
      by_cases any : c = '?'
      · subst any
        rw [Matches.any_iff (by decide)]
        cases name with
        | nil => simp [Part.ofChar, fits]
        | cons first rest => simp [Part.ofChar, fits, ih]
      · rw [Part.ofChar_literal ⟨star, any⟩, Matches.literal_iff ⟨star, any⟩]
        cases name with
        | nil => simp [fits]
        | cons first rest =>
            rw [fits, Bool.and_eq_true, beq_iff_eq, ih]
            constructor
            · rintro ⟨rfl, fit⟩
              exact ⟨rest, rfl, fit⟩
            · rintro ⟨back, spelled, fit⟩
              rw [List.cons.injEq] at spelled
              obtain ⟨rfl, rfl⟩ := spelled
              exact ⟨rfl, fit⟩

end Fitting

section Reading

variable {symbols rest : List Char} {c : Char}

theorem partsFrom_literal (solid : c ≠ '*' ∧ c ≠ '?') (plain : c ≠ '[') (fuel position : Nat)
    (atStart : Bool) :
    partsFrom (fuel + 1) position atStart (c :: rest) =
      (partsFrom fuel (position + 1) (c == '/') rest).map (.char c :: ·) := by
  rw [partsFrom]
  · rfl
  · exact solid.1
  · exact solid.2
  · exact plain

theorem partsFrom_any (fuel position : Nat) (atStart : Bool) :
    partsFrom (fuel + 1) position atStart ('?' :: rest) =
      (partsFrom fuel (position + 1) false rest).map (.anyChar :: ·) := rfl

theorem partsFrom_star (single : rest.head? ≠ some '*') (fuel position : Nat) (atStart : Bool) :
    partsFrom (fuel + 1) position atStart ('*' :: rest) =
      (partsFrom fuel (position + 1) false rest).map (.anyChars :: ·) := by
  have more : rest.takeWhile (· == '*') = [] := by
    cases rest with
    | nil => rfl
    | cons c rest =>
        have other : c ≠ '*' := by simpa using single
        simp [other]
  rw [partsFrom]
  simp only [more, List.length_nil, List.drop_zero]
  rfl

/-- Characters and single stars are read one by one. -/
theorem partsFrom_append (plain : '[' ∉ symbols) (single : ¬ ['*', '*'] <:+: symbols)
    (closed : rest.head? ≠ some '*') (extra position : Nat) (atStart : Bool) :
    ∃ position' atStart', partsFrom (symbols.length + extra) position atStart (symbols ++ rest) =
      (partsFrom extra position' atStart' rest).map (symbols.map Part.ofChar ++ ·) := by
  induction symbols generalizing position atStart with
  | nil =>
      refine ⟨position, atStart, ?_⟩
      cases read : partsFrom extra position atStart rest <;> simp [read, Except.map]
  | cons c symbols ih =>
      simp only [List.mem_cons, not_or] at plain
      have tail : ¬ ['*', '*'] <:+: symbols := fun inside =>
        single (inside.trans (List.suffix_cons c _).isInfix)
      have more := fun position atStart => ih plain.2 tail position atStart
      have fuel : (c :: symbols).length + extra = symbols.length + extra + 1 := by
        simp [Nat.add_right_comm]
      have joined : ∀ (part : Part) (read : Except Fault (List Part)),
          (read.map (symbols.map Part.ofChar ++ ·)).map (part :: ·) =
            read.map (part :: symbols.map Part.ofChar ++ ·) := by
        intro part read
        cases read <;> rfl
      rw [fuel, List.cons_append, List.map_cons]
      by_cases star : c = '*'
      · subst star
        have alone : (symbols ++ rest).head? ≠ some '*' := by
          cases symbols with
          | nil => exact closed
          | cons c symbols =>
              simp only [List.cons_append, List.head?_cons, ne_eq, Option.some.injEq]
              rintro rfl
              exact single ⟨[], symbols, rfl⟩
        obtain ⟨position', atStart', read⟩ := more (position + 1) false
        refine ⟨position', atStart', ?_⟩
        rw [partsFrom_star alone, read, joined]
        rfl
      by_cases any : c = '?'
      · subst any
        obtain ⟨position', atStart', read⟩ := more (position + 1) false
        refine ⟨position', atStart', ?_⟩
        rw [partsFrom_any, read, joined]
        rfl
      · obtain ⟨position', atStart', read⟩ := more (position + 1) (c == '/')
        refine ⟨position', atStart', ?_⟩
        rw [partsFrom_literal ⟨star, any⟩ (Ne.symm plain.1), read, joined, Part.ofChar_literal ⟨star, any⟩]

/-- A single segment is read whole. -/
theorem parts_simple {segment : String} (simple : IsSimple segment) (narrow : ¬ IsWide segment) :
    parts segment = .ok (segment.toList.map Part.ofChar) := by
  have plain : '[' ∉ segment.toList := fun member => (simple.1 _ member).1 rfl
  have single := simple.2.resolve_left narrow
  obtain ⟨position, atStart, read⟩ :=
    @partsFrom_append segment.toList [] plain single (by simp) 1 0 true
  rw [List.append_nil, String.length_toList] at read
  rw [parts, read]
  simp [partsFrom, Except.map]

theorem parts_wide : parts "**" = .ok [.anyDirectories] := rfl

/-- Segments behind each other have no fault. -/
theorem partsFrom_spell {first : String} {rest : List String}
    (simple : ∀ segment ∈ first :: rest, IsSimple segment) (extra position : Nat) :
    ∃ found, partsFrom ((first.toList ++ spell rest).length + extra) position true
      (first.toList ++ spell rest) = .ok found := by
  induction rest generalizing first extra position with
  | nil =>
      rw [spell, List.flatMap_nil, List.append_nil]
      rcases (simple first (by simp)).2 with rfl | single
      · refine ⟨[.anyDirectories], ?_⟩
        have fuel : "**".toList.length + extra = extra + 1 + 1 := Nat.add_comm 2 extra
        rw [fuel]
        rfl
      · have plain : '[' ∉ first.toList := fun member => ((simple first (by simp)).1 _ member).1 rfl
        obtain ⟨position', atStart', read⟩ :=
          @partsFrom_append first.toList [] plain single (by simp) extra position true
        rw [List.append_nil] at read
        rw [read]
        cases extra <;> exact ⟨_, rfl⟩
  | cons second rest ih =>
      have later := @ih second fun segment member => simple segment (by simp [member])
      have spelled : spell (second :: rest) = '/' :: (second.toList ++ spell rest) := rfl
      rw [spelled]
      rcases (simple first (by simp)).2 with rfl | single
      · obtain ⟨found, read⟩ := later (extra + 2) (position + 3)
        refine ⟨.anyDirectories :: found, ?_⟩
        have fuel : ("**".toList ++ '/' :: (second.toList ++ spell rest)).length + extra =
            (second.toList ++ spell rest).length + (extra + 2) + 1 := by
          simp only [List.length_append, List.length_cons, show "**".toList.length = 2 from rfl]
          omega
        have starred : "**".toList ++ '/' :: (second.toList ++ spell rest) =
            '*' :: '*' :: '/' :: (second.toList ++ spell rest) := rfl
        rw [fuel, starred, partsFrom]
        simp only [List.takeWhile_cons, beq_self_eq_true, if_true, List.length_cons,
          show ('/' == '*') = false from rfl, Bool.false_eq_true, if_false, List.length_nil,
          List.drop_succ_cons, List.drop_zero, read]
        rfl
      · have plain : '[' ∉ first.toList := fun member => ((simple first (by simp)).1 _ member).1 rfl
        obtain ⟨position', atStart', read⟩ :=
          @partsFrom_append first.toList ('/' :: (second.toList ++ spell rest)) plain single (by simp)
            ((second.toList ++ spell rest).length + extra + 1) position true
        obtain ⟨found, behind⟩ := later extra (position' + 1)
        have fuel : (first.toList ++ '/' :: (second.toList ++ spell rest)).length + extra =
            first.toList.length + ((second.toList ++ spell rest).length + extra + 1) := by
          simp only [List.length_append, List.length_cons]
          omega
        rw [fuel, read, partsFrom_literal (by decide) (by decide), beq_self_eq_true, behind]
        exact ⟨_, rfl⟩

end Reading

section Segments

theorem split_eq (chars current : List Char) :
    ∃ first more, Path.segmentsOf chars = first :: more ∧
      componentTexts.split chars current = (current.reverse ++ first) :: more := by
  induction chars generalizing current with
  | nil => exact ⟨[], [], rfl, by simp [componentTexts.split]⟩
  | cons c rest ih =>
      by_cases slash : c = '/'
      · subst slash
        obtain ⟨first, more, segments, split⟩ := ih []
        refine ⟨[], first :: more, by rw [Path.segmentsOf, segments], ?_⟩
        rw [componentTexts.split]
        simp [split]
      · obtain ⟨first, more, segments, joined⟩ := Path.segmentsOf_cons slash rest
        obtain ⟨first', more', segments', split⟩ := ih (c :: current)
        rw [segments, List.cons.injEq] at segments'
        obtain ⟨rfl, rfl⟩ := segments'
        refine ⟨c :: first, more, joined, ?_⟩
        rw [componentTexts.split]
        simp [slash, split]

theorem componentTexts_eq (chars : List Char) :
    componentTexts chars = (Path.segmentsOf chars).filter (!·.isEmpty) := by
  obtain ⟨first, more, segments, split⟩ := split_eq chars []
  rw [componentTexts, segments, split]
  rfl

theorem componentTexts_path {names : List String} (valid : ∀ name ∈ names, IsName name) :
    componentTexts (Location.path ⟨true, names⟩).text.toList = names.map String.toList := by
  rw [componentTexts_eq, @Location.toList_path ⟨true, names⟩ valid]
  simp only [if_true, List.cons_append, List.nil_append]
  have split : Path.segmentsOf ('/' :: Path.joinSegments (names.map String.toList)) =
      [] :: Path.segmentsOf (Path.joinSegments (names.map String.toList)) := rfl
  have kept := @Location.IsValid.map_toList ⟨true, names⟩ valid
  rw [split]
  cases names with
  | nil => rfl
  | cons first rest =>
      rw [Path.segmentsOf_joinSegments (by simp) fun segment member => (kept segment member).2,
        List.filter_cons_of_neg (by simp), List.filter_eq_self]
      intro segment member
      simpa using (kept segment member).1

def Segment.ofName (name : String) : Segment :=
  if name = "**" then .directories else .ofParts (name.toList.map Part.ofChar)

/-- An absolute pattern is read segment by segment. -/
theorem segments_path {names : List String} (valid : ∀ name ∈ names, IsName name)
    (simple : ∀ name ∈ names, IsSimple name) :
    segments (Location.path ⟨true, names⟩).text = .ok (collapse (names.map Segment.ofName)) := by
  have whole : ∃ found, parts (Location.path ⟨true, names⟩).text = .ok found := by
    cases names with
    | nil => exact ⟨_, rfl⟩
    | cons first rest =>
        have spelled := toList_path valid (by simp)
        obtain ⟨found, read⟩ := partsFrom_spell simple 1 1
        have length : (Location.path ⟨true, first :: rest⟩).text.length + 1 =
            (first.toList ++ spell rest).length + 1 + 1 := by
          rw [← String.length_toList, spelled]
          rfl
        refine ⟨.char '/' :: found, ?_⟩
        rw [parts, length, spelled]
        have first_ : spell (first :: rest) = '/' :: (first.toList ++ spell rest) := rfl
        rw [first_, partsFrom_literal (by decide) (by decide), beq_self_eq_true, read]
        rfl
  have each : (names.map String.toList).mapM (fun text => parts (String.ofList text)) =
      .ok (names.map fun name =>
        if name = "**" then [.anyDirectories] else name.toList.map Part.ofChar) := by
    clear whole valid
    induction names with
    | nil => rfl
    | cons first rest ih =>
        have read : parts first =
            .ok (if first = "**" then [.anyDirectories] else first.toList.map Part.ofChar) := by
          split
          next wide =>
            subst wide
            exact parts_wide
          next narrow => exact parts_simple (simple first (by simp)) narrow
        rw [List.map_cons, List.mapM_cons, ih fun name member => simple name (by simp [member]),
          String.ofList_toList, read]
        rfl
  obtain ⟨found, read⟩ := whole
  rw [segments, read, componentTexts_path valid]
  simp only [each, bind, Except.bind, pure, Except.pure, List.map_map]
  congr 2
  apply List.map_congr_left
  intro name _
  rw [Function.comp_apply, Segment.ofName]
  split <;> rfl

theorem literalOf?_map (symbols : List Char) :
    literalOf? (symbols.map Part.ofChar) =
      if '*' ∈ symbols ∨ '?' ∈ symbols then none else some symbols := by
  induction symbols with
  | nil => rfl
  | cons c symbols ih =>
      rw [List.map_cons]
      by_cases star : c = '*'
      · subst star
        simp [Part.ofChar, literalOf?]
      by_cases any : c = '?'
      · subst any
        simp [Part.ofChar, literalOf?]
      · rw [Part.ofChar_literal ⟨star, any⟩, literalOf?, ih]
        simp only [List.mem_cons, Ne.symm star, Ne.symm any, false_or]
        split <;> rfl

/-- A segment without wildcards is a name that is written out, and any other one a pattern. -/
theorem ofName_cases (segment : String) :
    (IsWide segment ∧ Segment.ofName segment = .directories) ∨
    (¬ IsWide segment ∧ ('*' ∉ segment.toList ∧ '?' ∉ segment.toList) ∧
      Segment.ofName segment = .name segment) ∨
    (¬ IsWide segment ∧ ('*' ∈ segment.toList ∨ '?' ∈ segment.toList) ∧
      Segment.ofName segment = .pattern (segment.toList.map Part.ofChar)) := by
  by_cases isWide : IsWide segment
  · refine .inl ⟨isWide, ?_⟩
    rw [isWide]
    rfl
  refine .inr ?_
  have read : Segment.ofName segment = .ofParts (segment.toList.map Part.ofChar) := if_neg isWide
  have single : segment.toList.map Part.ofChar ≠ [.anyDirectories] := by
    intro same
    obtain ⟨c, spelled, part⟩ := List.map_eq_singleton_iff.mp same
    unfold Part.ofChar at part
    split at part <;> cases part
  rw [read, Segment.ofParts, literalOf?_map]
  by_cases wild : '*' ∈ segment.toList ∨ '?' ∈ segment.toList
  · exact .inr ⟨isWide, wild, by simp only [wild, if_true, single, if_false]⟩
  · refine .inl ⟨isWide, not_or.mp wild, ?_⟩
    simp only [wild, if_false, String.ofList_toList]

theorem literal_matches {symbols name : List Char} (solid : '*' ∉ symbols ∧ '?' ∉ symbols) :
    Matches '*' '?' symbols name ↔ symbols = name := by
  induction symbols generalizing name with
  | nil => simp [Matches.nil_iff, eq_comm]
  | cons c symbols ih =>
      simp only [List.mem_cons, not_or] at solid
      rw [Matches.literal_iff ⟨Ne.symm solid.1.1, Ne.symm solid.2.1⟩]
      simp only [ih ⟨solid.1.2, solid.2.2⟩, exists_eq_right']
      exact eq_comm

theorem fits_ofName {segment : String} (narrow : ¬ IsWide segment) (name : String) :
    (Segment.ofName segment).fits name = true ↔ Fits segment name := by
  rcases ofName_cases segment with ⟨isWide, _⟩ | ⟨_, solid, read⟩ | ⟨_, _, read⟩
  · exact absurd isWide narrow
  · rw [read, Segment.fits, beq_iff_eq, Fits, literal_matches solid, String.toList_inj]
  · rw [read, Segment.fits]
    exact fits_iff _ _

end Segments

section Collapsing

def IsDirectories (segment : Segment) : Prop := segment = .directories

theorem isDirectories : IsDirectories .directories := rfl

/-- The names of a path fit segments that were read. -/
abbrev Reaches (segments : List Segment) (names : List String) : Prop :=
  Spans IsDirectories (fun segment name => segment.fits name = true) segments names

theorem reaches_map (segments names : List String) :
    Reaches (segments.map Segment.ofName) names ↔ Covers segments names := by
  apply Spans.map_iff
  · intro segment
    rcases ofName_cases segment with ⟨isWide, read⟩ | ⟨narrow, _, read⟩ | ⟨narrow, _, read⟩
    all_goals simp [IsDirectories, *]
  · intro segment narrow name
    exact fits_ofName narrow name

theorem reaches_collapse (segments : List Segment) (names : List String) :
    Reaches (collapse segments) names ↔ Reaches segments names := by
  induction segments using collapse.induct generalizing names with
  | case1 rest ih =>
      rw [collapse, ih]
      simp only [Spans.wide_iff isDirectories]
      constructor
      · rintro ⟨front, back, rfl, spans⟩
        exact ⟨front, back, rfl, [], back, rfl, spans⟩
      · rintro ⟨front, _, rfl, middle, back, rfl, spans⟩
        exact ⟨front ++ middle, back, by simp, spans⟩
  | case2 segment rest other ih =>
      rw [collapse.eq_2 _ _ other]
      by_cases isWide : IsDirectories segment
      · simp only [Spans.wide_iff isWide, ih]
      · simp only [Spans.narrow_iff isWide, ih]
  | case3 => rfl

end Collapsing

end Wildcards

end StyleInline.Glob
