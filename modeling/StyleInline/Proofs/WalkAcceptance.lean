import StyleInline.Proofs.WalkBacktracking

/-!
# Paths that a pattern accepts

An absolute pattern without brackets accepts the paths whose names fit its segments, read off the
octets of both.
-/

namespace StyleInline.Glob

open Braces (spelled wideSegment IsWideSegment SpansOctets)

/-- The octets of a segment or a name. -/
def coded (text : String) : List UInt8 := octets text.toList

section Octets

variable {c : Char} {chars : List Char} {rest : List UInt8}

theorem exists_cons_of_octets (short : IsShort c) (spelled : octets chars = Braces.octet c :: rest) :
    ∃ more, chars = c :: more ∧ octets more = rest := by
  cases chars with
  | nil => cases spelled
  | cons d more =>
      have inside : Braces.octet c ∈ String.utf8EncodeChar d := by
        obtain ⟨first, others, code, _⟩ := encoded_cons d
        rw [octets_cons, code, List.cons_append, List.cons.injEq] at spelled
        rw [code, ← spelled.1]
        exact List.mem_cons_self
      obtain rfl := eq_of_octet_mem short inside
      rw [octets_short short, List.cons.injEq] at spelled
      exact ⟨more, rfl, spelled.2⟩

theorem coded_eq_wide_iff {text : String} : coded text = wideSegment ↔ text = "**" := by
  constructor
  · intro same
    obtain ⟨more, first, same⟩ := exists_cons_of_octets (by decide) same
    obtain ⟨more', second, same⟩ := exists_cons_of_octets (by decide) same
    have ended : more' = [] := by
      cases more' with
      | nil => rfl
      | cons d more =>
          obtain ⟨_, _, code, _⟩ := encoded_cons d
          rw [octets_cons, code] at same
          cases same
    rw [← String.toList_inj, first, second, ended]
    rfl
  · rintro rfl
    decide

/-- Two stars in a row are so in characters as in octets. -/
theorem not_stars_octets (single : ¬ ['*', '*'] <:+: chars) : ¬ [star, star] <:+: octets chars := by
  rintro ⟨front, back, split⟩
  rw [List.append_assoc] at split
  obtain ⟨before, behind, rest, rfl, same, continues, _⟩ := octets_split split.symm
  have none : rest = [] := by
    cases rest with
    | nil => rfl
    | cons b rest =>
        obtain rfl : star = b := by simpa using congrArg List.head? same
        obtain ⟨first, others, code, starts, _⟩ := encoded_cons '*'
        rw [encoded_short (c := '*') (by decide), List.cons.injEq] at code
        rw [← code.1] at starts
        exact absurd (continues star (by simp)) starts
  subst none
  obtain ⟨more, rfl, second⟩ := exists_cons_of_octets (c := '*') (by decide) same.symm
  obtain ⟨more, rfl, _⟩ := exists_cons_of_octets (c := '*') (by decide) second
  exact single ⟨before, more, by simp⟩

theorem octets_spell (names : List String) : octets (spell names) = spelled (names.map coded) := by
  induction names with
  | nil => rfl
  | cons name names ih =>
      rw [List.map_cons, Braces.spelled_cons, ← ih, spell, List.flatMap_cons, List.cons_append,
        octets_short (by decide), octets_append]
      rfl

theorem coded_name {name : String} (named : IsName name) : coded name ≠ [] ∧ slash ∉ coded name := by
  constructor
  · intro empty
    obtain ⟨c, rest, shape⟩ := List.exists_cons_of_ne_nil named.1
    obtain ⟨_, _, code, _⟩ := encoded_cons c
    rw [coded, shape, octets_cons, code] at empty
    cases empty
  · rw [coded, octet_mem_octets (by decide)]
    exact named.2.2.2

end Octets

section Accepting

variable {segments names : List String} {segment : String}

theorem narrow_coded (named : IsName segment) (simple : IsSimple segment) (narrow : ¬ IsWide segment) :
    slash ∉ coded segment ∧ ¬ [star, star] <:+: coded segment :=
  ⟨(coded_name named).2, not_stars_octets (simple.2.resolve_left narrow)⟩

theorem isSegment_coded (named : IsName segment) (simple : IsSimple segment) :
    Braces.IsSegment (coded segment) := by
  refine ⟨(coded_name named).2, ?_⟩
  by_cases isWide : IsWide segment
  · exact .inl (coded_eq_wide_iff.mpr isWide)
  · exact .inr (narrow_coded named simple isWide).2

theorem toList_text (valid : ∀ name ∈ names, IsName name) (some : names ≠ []) :
    (Location.path ⟨true, names⟩).text.toUTF8.data.toList = spelled (names.map coded) := by
  rw [toUTF8_eq, toList_path valid some, octets_spell]

theorem isOpen_text (valid : ∀ segment ∈ segments, IsName segment)
    (simple : ∀ segment ∈ segments, IsSimple segment) :
    Braces.IsOpen (Location.path ⟨true, segments⟩).text.toUTF8.data := by
  have absent : ∀ c, c = '[' ∨ c = '{' ∨ c = '\\' →
      Braces.octet c ∉ (Location.path ⟨true, segments⟩).text.toUTF8.data.toList := by
    intro c solid
    have short : IsShort c := by rcases solid with rfl | rfl | rfl <;> decide
    rw [toUTF8_eq, octet_mem_octets short]
    by_cases none : segments = []
    · subst none
      rcases solid with rfl | rfl | rfl <;> decide
    rw [toList_path valid none, spell, List.mem_flatMap]
    rintro ⟨segment, member, inside⟩
    rcases List.mem_cons.mp inside with rfl | inside
    · rcases solid with absurd | absurd | absurd <;> cases absurd
    · obtain ⟨bracket, brace, backslash⟩ := (simple segment member).1 c inside
      rcases solid with same | same | same
      · exact bracket same
      · exact brace same
      · exact backslash same
  intro b member
  refine ⟨?_, ?_, ?_⟩
  · rintro rfl
    exact absent '[' (by simp) member
  · rintro rfl
    exact absent '{' (by simp) member
  · rintro rfl
    exact absent '\\' (by simp) member

/-- An absolute pattern has no marks that invert it. -/
theorem accepts_eq (valid : ∀ segment ∈ segments, IsName segment) (path : String) :
    Braces.accepts (Location.path ⟨true, segments⟩).text path =
      let glob := (Location.path ⟨true, segments⟩).text.toUTF8.data
      Braces.run glob path.toUTF8.data false (Braces.stepLimit glob path.toUTF8.data) {} := by
  have start : ∃ rest, (Location.path ⟨true, segments⟩).text.toList = '/' :: rest :=
    Path.isAbsolute_eq_true_iff.mp (@Location.isAbsolute_path ⟨true, segments⟩ valid)
  obtain ⟨rest, start⟩ := start
  have marks : ((Location.path ⟨true, segments⟩).text.toList.takeWhile (· == '!')).length = 0 := by
    rw [start]
    rfl
  simp only [Braces.accepts, marks]
  rfl

/-- Where a pattern has marks, names are of ASCII. -/
def AreShort (segments names : List String) : Prop :=
  (∃ segment ∈ segments, '?' ∈ segment.toList) → ∀ name ∈ names, ∀ c ∈ name.toList, IsShort c

theorem fitsOctets_iff (short : AreShort segments names) :
    ∀ segment ∈ segments, ∀ name ∈ names, FitsOctets segment name ↔ Fits segment name :=
  fun segment member name inside =>
    fits_octets_iff fun marked => short ⟨segment, member, marked⟩ name inside

theorem spansOctets_iff (short : AreShort segments names) :
    SpansOctets (segments.map coded) (names.map coded) ↔ Covers segments names := by
  have spelled : SpansOctets (segments.map coded) (names.map coded) ↔
      Spans IsWide FitsOctets segments names := by
    rw [SpansOctets, Spans.map_names_iff]
    exact Spans.map_iff coded (fun _ => coded_eq_wide_iff) (fun _ _ _ => Iff.rfl) segments
  rw [spelled]
  exact Spans.congr (fitsOctets_iff short)

theorem filled_coded (valid : ∀ name ∈ names, IsName name) :
    ∀ name ∈ names.map coded, name ≠ [] ∧ slash ∉ name := by
  intro name member
  obtain ⟨name, inside, rfl⟩ := List.mem_map.mp member
  exact coded_name (valid name inside)

/-- The names of an accepted path fit the segments of a pattern, unless it ends with one for any
names. -/
theorem covers_of_accepts (valid : ∀ segment ∈ segments, IsName segment)
    (simple : ∀ segment ∈ segments, IsSimple segment)
    (ended : ∀ segment ∈ segments.getLast?, ¬ IsWide segment) (valid' : ∀ name ∈ names, IsName name)
    (some : names ≠ []) (short : AreShort segments names)
    (accepted : Braces.accepts (Location.path ⟨true, segments⟩).text
      (Location.path ⟨true, names⟩).text = true) : Covers segments names := by
  rw [accepts_eq valid] at accepted
  have isOpen := isOpen_text valid simple
  have shape' := toList_text valid' some
  by_cases none : segments = []
  · subst none
    have isPattern : Braces.IsPattern (Location.path ⟨true, []⟩).text.toUTF8.data [[]] :=
      ⟨by decide, by simp [Braces.IsSegment], by simp [wideSegment]⟩
    have spans := Braces.spans_of_run isOpen isPattern shape' (filled_coded valid') accepted
    have narrow : ¬ IsWideSegment [] := by simp [IsWideSegment, wideSegment]
    obtain ⟨name, rest, split, fit, _⟩ := (Spans.narrow_iff narrow).mp spans
    exact absurd (Matches.nil_iff.mp fit) (filled_coded valid' name (by simp [split])).1
  have isPattern : Braces.IsPattern (Location.path ⟨true, segments⟩).text.toUTF8.data
      (segments.map coded) := by
    refine ⟨toList_text valid none, ?_, ?_⟩
    · intro segment member
      obtain ⟨segment, inside, rfl⟩ := List.mem_map.mp member
      exact isSegment_coded (valid segment inside) (simple segment inside)
    · rw [List.getLast?_map]
      intro wide
      obtain ⟨segment, last, same⟩ := Option.map_eq_some_iff.mp wide
      exact ended segment last (coded_eq_wide_iff.mp same)
  rw [← spansOctets_iff short]
  exact Braces.spans_of_run isOpen isPattern shape' (filled_coded valid') accepted

theorem shaped_coded (valid : ∀ segment ∈ segments, IsName segment)
    (simple : ∀ segment ∈ segments, IsSimple segment) (narrow : ∀ segment ∈ segments, ¬ IsWide segment) :
    ∀ segment ∈ segments.map coded,
      (slash ∉ segment ∧ ¬ [star, star] <:+: segment) ∧ ¬ IsWideSegment segment := by
  intro segment member
  obtain ⟨segment, inside, rfl⟩ := List.mem_map.mp member
  exact ⟨narrow_coded (valid segment inside) (simple segment inside) (narrow segment inside),
    fun same => narrow segment inside (coded_eq_wide_iff.mp same)⟩

/-- A path is accepted if as many names as a pattern has segments fit them one after another. -/
theorem accepts_narrow (valid : ∀ segment ∈ segments, IsName segment)
    (simple : ∀ segment ∈ segments, IsSimple segment) (narrow : ∀ segment ∈ segments, ¬ IsWide segment)
    (valid' : ∀ name ∈ names, IsName name) (some : names ≠ []) (short : AreShort segments names)
    (fits : List.Forall₂ Fits segments names) :
    Braces.accepts (Location.path ⟨true, segments⟩).text (Location.path ⟨true, names⟩).text = true := by
  have some' : segments ≠ [] := by
    rintro rfl
    exact some (List.forall₂_nil_left_iff.mp fits)
  have spans := (spansOctets_iff short).mpr ((Spans.all_narrow_iff narrow).mpr fits)
  have shaped := shaped_coded valid simple narrow
  rw [accepts_eq valid]
  exact Braces.run_narrow (isOpen_text valid simple) (toList_text valid some') (toList_text valid' some)
    (fun segment member => (shaped segment member).1) (filled_coded valid')
    ((Spans.all_narrow_iff fun segment member => (shaped segment member).2).mp spans)

/-- One segment, segments without a star, or segments of which the first has a literal. -/
def IsTame (segments : List String) : Prop :=
  segments.length ≤ 1 ∨ (∀ segment ∈ segments, '*' ∉ segment.toList) ∨
    ∃ first rest, segments = first :: rest ∧ ∃ c ∈ first.toList, c ≠ '*' ∧ c ≠ '?'

theorem IsTame.coded (tame : IsTame segments) (valid : ∀ segment ∈ segments, IsName segment) :
    Braces.IsTame (segments.map coded) := by
  rcases tame with single | free | ⟨first, rest, rfl, c, member, solid⟩
  · exact .inl (by simpa using single)
  · refine .inr (.inl ?_)
    intro segment member
    obtain ⟨segment, inside, rfl⟩ := List.mem_map.mp member
    rw [Glob.coded, octet_mem_octets (by decide)]
    exact free segment inside
  · refine .inr (.inr ⟨_, _, rfl, ?_⟩)
    obtain ⟨b, others, code, _⟩ := encoded_cons c
    have inside : b ∈ String.utf8EncodeChar c := by simp [code]
    have member' : b ∈ Glob.coded first := List.mem_flatMap.mpr ⟨c, member, inside⟩
    have plain := encoded_solid solid b inside
    refine ⟨b, member', plain.1, plain.2, ?_⟩
    rintro rfl
    exact (coded_name (valid first (by simp))).2 member'

/-- Names fit a beginning of segments, octet by octet, that has both a star and a literal, and a star
behind it. -/
def Engages (segments names : List String) : Prop :=
  Braces.Engages (segments.map coded) (names.map coded)

/-- Behind as many names as there are segments in front of a run, no names engage the segments behind
it, as long as more names are left than there are such segments. -/
def IsQuiet (before behind names : List String) : Prop :=
  ∀ front back, names = front ++ back → before.length ≤ front.length →
    behind.length < back.length → ¬ Engages behind back

theorem exists_coded_run {run : List String} (some : run ≠ [])
    (isWide : ∀ segment ∈ run, IsWide segment) :
    ∃ k, run.map coded = wideSegment :: List.replicate k wideSegment := by
  have wide : ∀ segment ∈ run.map coded, segment = wideSegment := by
    intro segment member
    obtain ⟨segment, inside, rfl⟩ := List.mem_map.mp member
    exact coded_eq_wide_iff.mpr (isWide segment inside)
  obtain ⟨k, length⟩ := Nat.exists_eq_succ_of_ne_zero (mt List.length_eq_zero_iff.mp some)
  refine ⟨k, ?_⟩
  rw [List.eq_replicate_of_mem wide, List.length_map, length]
  rfl

theorem IsQuiet.coded {before behind : List String} (quiet : IsQuiet before behind names)
    {front back : List (List UInt8)} (split : names.map coded = front ++ back)
    (length : front.length = before.length) : Braces.AreQuiet (behind.map coded) back := by
  rintro back ⟨skipped, rfl⟩ longer
  rw [← List.append_assoc] at split
  obtain ⟨front', back', rfl, above, rfl⟩ := List.map_eq_append_iff.mp split
  refine quiet front' back' rfl ?_ (by simpa using longer)
  have lengths := congrArg List.length above
  rw [List.length_map, List.length_append] at lengths
  omega

/-- A path is accepted if its names fit a pattern with one run of segments for any names, unless the
names on the way engage what is behind the run. -/
theorem accepts_wide {before run behind : List String}
    (valid : ∀ segment ∈ before ++ run ++ behind, IsName segment)
    (simple : ∀ segment ∈ before ++ run ++ behind, IsSimple segment)
    (narrow : ∀ segment ∈ before ++ behind, ¬ IsWide segment) (isWide : ∀ segment ∈ run, IsWide segment)
    (some : run ≠ []) (some' : behind ≠ []) (tame : IsTame behind)
    (valid' : ∀ name ∈ names, IsName name) (short : AreShort (before ++ run ++ behind) names)
    (quiet : IsQuiet before behind names) (covers : Covers (before ++ run ++ behind) names) :
    Braces.accepts (Location.path ⟨true, before ++ run ++ behind⟩).text
      (Location.path ⟨true, names⟩).text = true := by
  obtain ⟨first, others, rfl⟩ := List.exists_cons_of_ne_nil some'
  obtain ⟨k, run_eq⟩ := exists_coded_run some isWide
  have among : ∀ segment ∈ before ++ first :: others, segment ∈ before ++ run ++ first :: others := by
    intro segment member
    rcases List.mem_append.mp member with left | right
    · exact List.mem_append_left _ (List.mem_append_left _ left)
    · exact List.mem_append_right _ right
  have shaped := shaped_coded (fun segment member => valid segment (among segment member))
    (fun segment member => simple segment (among segment member)) narrow
  rw [List.map_append] at shaped
  have text : (Location.path ⟨true, before ++ run ++ first :: others⟩).text.toUTF8.data.toList =
      spelled (before.map coded ++
        wideSegment :: (List.replicate k wideSegment ++ coded first :: others.map coded)) := by
    rw [toList_text valid (by simp), List.map_append, List.map_append, run_eq, List.append_assoc]
    rfl
  -- the names in front, those that are skipped, and those that fit what is behind the run
  have spans := (spansOctets_iff short).mpr covers
  rw [SpansOctets, List.map_append, List.map_append, List.append_assoc, Spans.append_iff
    fun segment member => (shaped segment (List.mem_append_left _ member)).2] at spans
  obtain ⟨front, back, split, fits, spans⟩ := spans
  rw [run_eq] at spans
  obtain ⟨skipped, last, rfl, ends⟩ := (Spans.run_iff (by simp) (by simp [IsWideSegment])).mp spans
  have fits' := (Spans.all_narrow_iff fun segment member =>
    (shaped segment (List.mem_append_right _ member)).2).mp ends
  have nonempty : names ≠ [] := by
    rintro rfl
    have none : front ++ (skipped ++ last) = [] := split.symm
    rw [List.append_eq_nil_iff, List.append_eq_nil_iff] at none
    rw [none.2.2] at fits'
    cases fits'
  have filled := filled_coded valid'
  rw [split] at filled
  rw [accepts_eq valid]
  exact Braces.run_wide (isOpen_text valid simple)
    (tame.coded fun segment member => valid segment (List.mem_append_right _ member)) text
    (by rw [toList_text valid' nonempty, split]) (fun segment member => (shaped segment member).1) filled
    fits ⟨last, ⟨skipped, rfl⟩, fits'⟩ (quiet.coded split (by rw [← fits.length_eq, List.length_map]))

end Accepting

end StyleInline.Glob
