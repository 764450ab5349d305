import StyleInline.Proofs.WalkSegments

/-!
# Walks that resume

Behind segments that stand for any number of names, a walk tries one name after another.  It gives
up a name for the next one as long as it has not passed both a star and a literal; from then on the
names have to fit where the walk is.
-/

namespace StyleInline.Glob.Braces

/-- Names fit a beginning of segments that has both a star and a literal, and a star behind it. -/
def Engages (segments names : List (List UInt8)) : Prop :=
  ∃ front begun ends others ms name rest,
    segments = front ++ (begun ++ ends) :: others ∧ names = ms ++ name :: rest ∧
      List.Forall₂ (Matches star mark) front ms ∧ Matches star mark (begun ++ [star]) name ∧
      star ∈ front.flatten ++ begun ∧ HasLiteral (front.flatten ++ begun)

/-- A name that engages one segment has an octet that stands for itself there. -/
theorem Engages.exists_literal {segment name : List UInt8} {names : List (List UInt8)}
    (engages : Engages [segment] (name :: names)) : ∃ b ∈ segment, IsLiteral b ∧ b ∈ name := by
  obtain ⟨front, begun, ends, others, ms, last, rest, split, split', fits, fit, _, literal⟩ := engages
  cases front with
  | cons first front =>
      rw [List.cons_append, List.cons.injEq] at split
      exact absurd split.2 (by simp)
  | nil =>
      cases fits
      rw [List.nil_append, List.cons.injEq] at split split'
      obtain ⟨rfl, _⟩ := split
      obtain ⟨rfl, _⟩ := split'
      obtain ⟨b, member, solid⟩ := literal
      rw [List.flatten_nil, List.nil_append] at member
      refine ⟨b, List.mem_append_left _ member, solid, ?_⟩
      exact fit.literal_mem ⟨solid.1, solid.2.1⟩ (List.mem_append_left _ member)

/-- One segment, segments without a star, or segments of which the first has a literal. -/
def IsTame (segments : List (List UInt8)) : Prop :=
  segments.length ≤ 1 ∨ (∀ segment ∈ segments, star ∉ segment) ∨
    ∃ segment rest, segments = segment :: rest ∧ HasLiteral segment

section Crossing

variable {segment name passed m r q u : List UInt8} {segments names : List (List UInt8)}

theorem slash_mem_iff (taken : List.Forall₂ Takes passed m) : slash ∈ passed ↔ slash ∈ m := by
  induction taken with
  | nil => simp
  | @cons wanted c passed m takes taken ih =>
      have same : slash = wanted ↔ slash = c := by
        constructor
        · rintro rfl
          exact slash_takes.mp takes
        · rintro rfl
          exact (takes_slash.mp takes).symm
      rw [List.mem_cons, List.mem_cons, ih, same]

/-- The octets in front of the first separator are the first segment. -/
theorem eq_of_slash (plain : slash ∉ segment) (plain' : slash ∉ u)
    (same : u ++ slash :: r = segment ++ spelled segments) :
    u = segment ∧ slash :: r = spelled segments := by
  rcases List.append_eq_append_iff.mp same with ⟨t, rfl, rest⟩ | ⟨t, rfl, rest⟩
  · cases t with
    | nil => exact ⟨by simp, rest⟩
    | cons c t =>
        rw [List.cons_append, List.cons.injEq] at rest
        exact absurd (by simp [rest.1]) plain
  · cases t with
    | nil => exact ⟨by simp, rest.symm⟩
    | cons c t =>
        obtain rfl := eq_slash_of_spelled rest
        exact absurd (by simp) plain'

/-- Where a star is met, some segments are passed as a whole and one up to the star. -/
theorem star_cases (met : passed ++ star :: r = segment ++ spelled segments) :
    (∃ t, segment = passed ++ star :: t ∧ r = t ++ spelled segments) ∨
    ∃ passed' second others, passed = segment ++ slash :: passed' ∧ segments = second :: others ∧
      passed' ++ star :: r = second ++ spelled others := by
  rcases List.append_eq_append_iff.mp met with ⟨t, rfl, rest⟩ | ⟨t, rfl, rest⟩
  · cases t with
    | nil => exact absurd rest.symm not_star_spelled
    | cons c t =>
        rw [List.cons_append, List.cons.injEq] at rest
        obtain ⟨rfl, rfl⟩ := rest
        exact .inl ⟨t, rfl, rfl⟩
  · cases t with
    | nil => exact absurd rest not_star_spelled
    | cons c t =>
        cases segments with
        | nil => cases rest
        | cons second others =>
            rw [spelled_cons, List.cons_append, List.cons.injEq] at rest
            obtain ⟨rfl, rest⟩ := rest
            exact .inr ⟨t, second, others, rfl, rfl, rest.symm⟩

theorem matches_of_takes (unstarred : star ∉ passed) (taken : List.Forall₂ Takes passed m) :
    Matches star mark passed m := by
  have whole := matches_passed_iff (r := []) (q := []) unstarred taken
  rw [List.append_nil, List.append_nil] at whole
  exact whole.mpr .done

theorem matches_star (name : List UInt8) : Matches star mark [star] name :=
  Matches.star_iff.mpr ⟨name, [], by simp, .done⟩

theorem exists_taken_append (taken : List.Forall₂ Takes (passed ++ u) m) :
    ∃ m₁ m₂, m = m₁ ++ m₂ ∧ List.Forall₂ Takes passed m₁ ∧ List.Forall₂ Takes u m₂ := by
  induction passed generalizing m with
  | nil => exact ⟨[], m, rfl, .nil, taken⟩
  | cons wanted passed ih =>
      cases taken with
      | cons takes taken =>
          obtain ⟨m₁, m₂, rfl, taken₁, taken₂⟩ := ih taken
          exact ⟨_ :: m₁, m₂, rfl, .cons takes taken₁, taken₂⟩

/-- What is passed inside of a segment is passed inside of a name. -/
theorem exists_name_append (plain : slash ∉ passed) (taken : List.Forall₂ Takes passed m)
    (met : m ++ q = name ++ spelled names) : ∃ n, name = m ++ n ∧ q = n ++ spelled names := by
  rcases List.append_eq_append_iff.mp met with ⟨t, rfl, rest⟩ | ⟨t, rfl, rest⟩
  · exact ⟨t, rfl, rest⟩
  · rcases spelled_cases names with none | ⟨r', slashed⟩
    · rw [none] at rest
      obtain ⟨rfl, rfl⟩ := List.append_eq_nil_iff.mp rest.symm
      exact ⟨[], by simp, by simp [none]⟩
    · cases t with
      | nil => exact ⟨[], by simp, rest.symm⟩
      | cons c t =>
          rw [slashed, List.cons_append, List.cons.injEq] at rest
          exact absurd ((slash_mem_iff taken).mpr (by simp [rest.1])) plain

/-- Names fit a beginning of segments that goes up to a star, and has a literal if octets that were
passed have one. -/
def Meets (segments names : List (List UInt8)) (passed : List UInt8) : Prop :=
  ∃ front begun ends others ms name rest,
    segments = front ++ (begun ++ ends) :: others ∧ names = ms ++ name :: rest ∧
      List.Forall₂ (Matches star mark) front ms ∧ Matches star mark (begun ++ [star]) name ∧
      star ∈ front.flatten ++ begun ∧ (HasLiteral passed → HasLiteral (front.flatten ++ begun))

theorem Meets.engages (meets : Meets segments names passed) (literal : HasLiteral passed) :
    Engages segments names := by
  obtain ⟨front, begun, ends, others, ms, name, rest, split, split', fits, fit, inside, solid⟩ := meets
  exact ⟨front, begun, ends, others, ms, name, rest, split, split', fits, fit, inside, solid literal⟩

theorem Meets.cons (meets : Meets segments names u) (fits : Matches star mark segment name) :
    Meets (segment :: segments) (name :: names) (segment ++ slash :: u) := by
  obtain ⟨front, begun, ends, others, ms, last, rest, rfl, rfl, fits', fit, inside, solid⟩ := meets
  refine ⟨segment :: front, begun, ends, others, name :: ms, last, rest, rfl, rfl, .cons fits fits',
    fit, ?_, ?_⟩
  · rw [List.flatten_cons, List.append_assoc]
    exact List.mem_append_right _ inside
  · intro literal
    rw [List.flatten_cons, List.append_assoc, hasLiteral_append]
    refine (hasLiteral_append.mp literal).imp_right fun literal => solid ?_
    exact (hasLiteral_cons.mp literal).resolve_left fun solid => solid.2.2 rfl

/-- Where a star is met inside of a segment, a name fits the beginning of that segment. -/
theorem meets_within {t : List UInt8} (plain : slash ∉ passed) (unstarred : star ∉ passed)
    (taken : List.Forall₂ Takes passed m) (met : m ++ q = name ++ spelled names) :
    Meets ((passed ++ star :: t) :: segments) (name :: names) passed := by
  obtain ⟨n, rfl, rfl⟩ := exists_name_append plain taken met
  refine ⟨[], passed ++ [star], t, segments, [], m ++ n, names, by simp, rfl, .nil, ?_, by simp, ?_⟩
  · rw [List.append_assoc, matches_passed_iff unstarred taken]
    exact .stop (matches_star n)
  · intro literal
    simp [literal]

theorem meets_of_passed (plain : ∀ other ∈ segment :: segments, slash ∉ other)
    (plain' : ∀ other ∈ name :: names, slash ∉ other)
    (met : passed ++ star :: r = segment ++ spelled segments)
    (met' : m ++ q = name ++ spelled names) (unstarred : star ∉ passed)
    (taken : List.Forall₂ Takes passed m) : Meets (segment :: segments) (name :: names) passed := by
  induction segments generalizing segment name names passed m with
  | nil =>
      obtain ⟨t, rfl, _⟩ | ⟨_, _, _, _, none, _⟩ := star_cases met
      · exact meets_within (fun inside => plain _ List.mem_cons_self (by simp [inside])) unstarred taken met'
      · cases none
  | cons second segments ih =>
      obtain ⟨t, rfl, _⟩ | ⟨passed, _, _, rfl, same, rest⟩ := star_cases met
      · exact meets_within (fun inside => plain _ List.mem_cons_self (by simp [inside])) unstarred taken met'
      cases same
      obtain ⟨m₁, _, rfl, taken₁, taken₂⟩ := exists_taken_append taken
      cases taken₂ with
      | @cons _ c _ m' takes taken' =>
      obtain rfl := slash_takes.mp takes
      have unslashed : slash ∉ m₁ := by
        rw [← slash_mem_iff taken₁]
        exact plain segment (by simp)
      obtain ⟨rfl, follows⟩ := eq_of_slash (plain' name (by simp)) unslashed
        (by rw [← met', List.append_assoc]; rfl)
      cases names with
      | nil => cases follows
      | cons name' names =>
          rw [spelled_cons, List.cons.injEq] at follows
          have later := ih (fun other member => plain other (List.mem_cons_of_mem _ member))
            (fun other member => plain' other (List.mem_cons_of_mem _ member)) rest follows.2
            (fun inside => unstarred (by simp [inside])) taken'
          exact later.cons (matches_of_takes (fun inside => unstarred (by simp [inside])) taken₁)

end Crossing

section Attempts

variable {glob path : Octets} {segments names : List (List UInt8)} {spot : Spot} {k : Nat}
variable {segment name t n : List UInt8}

/-- No beginning of a segment from a star on that has a literal, with a star behind it, fits what is
left of a name. -/
def Evades (t n : List UInt8) : Prop :=
  ∀ begun ends, star :: t = begun ++ ends → HasLiteral begun → ¬ Matches star mark (begun ++ [star]) n

section Evades

variable {passed r m q : List UInt8}

theorem Evades.plain (evades : Evades t n) (along : Along t n passed r m q) :
    ¬ HasLiteral passed := by
  obtain ⟨rfl, rfl, unstarred, taken⟩ := along
  intro literal
  refine evades (star :: passed) r rfl (by simpa using literal) ?_
  rw [List.cons_append]
  exact .stop ((matches_passed_iff unstarred taken).mpr (matches_star q))

theorem Evades.kept {later : Spot} (evades : Evades t n) (along : Along t n passed r m q)
    (same : later.wide = (spot.passed passed).wide) : later.wide = spot.wide := by
  simp [same, Spot.passed, evades.plain along]

theorem Evades.tail {c : UInt8} (evades : Evades t (c :: n)) : Evades t n := by
  intro begun ends split literal fits
  refine evades begun ends split literal ?_
  cases begun with
  | nil => exact absurd literal not_hasLiteral_nil
  | cons b begun =>
      rw [List.cons_append, List.cons.injEq] at split
      obtain ⟨rfl, _⟩ := split
      exact .eat fits

theorem Evades.next (evades : Evades t n) (along : Along t n passed (star :: r) m q) :
    Evades r q := by
  obtain ⟨rfl, rfl, unstarred, taken⟩ := along
  intro begun ends split literal fits
  refine evades (star :: (passed ++ begun)) ends (by rw [split]; simp) (by simp [literal]) ?_
  rw [List.cons_append, List.append_assoc]
  exact .stop ((matches_passed_iff unstarred taken).mpr fits)

/-- Names that do not engage segments evade the first star of them. -/
theorem evades_of_not_engages
    (quiet : ¬ Engages ((passed ++ star :: t) :: segments) ((m ++ n) :: names))
    (unstarred : star ∉ passed) (taken : List.Forall₂ Takes passed m) : Evades t n := by
  intro begun ends split literal fits
  obtain ⟨b, begun, rfl⟩ := List.exists_cons_of_ne_nil fun empty : begun = [] => by
    simp [empty] at literal
  rw [List.cons_append, List.cons.injEq] at split
  obtain ⟨rfl, rfl⟩ := split
  refine quiet ⟨[], passed ++ star :: begun, ends, segments, [], m ++ n, names, by simp, rfl,
    .nil, ?_, by simp, by simpa using .inr (by simpa using literal)⟩
  rw [List.append_assoc, matches_passed_iff unstarred taken]
  exact fits

end Evades

/-- At a star, the end of a name that is not the last one turns the walk back to the stars for whole
segments. -/
theorem accepts_turned (isOpen : IsOpen glob) (within : AreWithin (star :: t) [])
    (some : names ≠ []) (filled : [] ∉ names)
    (stands : Stands glob path segments names (star :: t) [] spot)
    (wide : 0 < spot.wide.path ∧ spot.wide.path ≤ spot.path)
    (resumes : ∀ later : Spot, later.glob = spot.wide.glob → later.path = spot.path →
      Accepts glob path k later) : Accepts glob path (k + 1) spot := by
  have ended := (isAt_slash_iff within.plain' stands).mpr ⟨rfl, some⟩
  obtain ⟨name, others, rfl⟩ := List.exists_cons_of_ne_nil some
  obtain ⟨c, name, rfl⟩ := List.exists_cons_of_ne_nil fun empty : name = [] =>
    filled (by simp [empty])
  have inside : spot.path + 1 < path.size := by
    have follows := from_succ stands.path_eq
    exact lt_size_of_from_ follows
  have step := starred_back (stands.single within) ended (by omega) wide.1 inside
  have resumed := resumes
    { spot with glob := spot.wide.glob, star := ⟨spot.wide.glob, spot.path + 1⟩ } rfl rfl
  exact accepts_of_next isOpen ((next?_star stands.glob_eq).trans (congrArg _ step)) resumed

/-- At a star from which the walk passes no literal, it comes to the end of the name and goes back to
the stars for whole segments. -/
theorem accepts_given_up (isOpen : IsOpen glob) (within : AreWithin (star :: t) n)
    (some : names ≠ []) (filled : [] ∉ names) (evades : Evades t n)
    (short : segments = [] ∨ HasLiteral t)
    (stands : Stands glob path segments names (star :: t) n spot)
    (wide : 0 < spot.wide.path ∧ spot.wide.path ≤ spot.path + n.length)
    (resumes : ∀ later : Spot, later.glob = spot.wide.glob → later.path = spot.path + n.length →
      Accepts glob path k later) :
    Accepts glob path (k + (t.length + 2) * (n.length + 1)) spot := by
  induction size : t.length + n.length using Nat.strong_induction_on generalizing t n spot with
  | _ size ih =>
  subst size
  cases n with
  | nil =>
      refine (accepts_turned isOpen within some filled stands wide resumes).mono ?_
      rw [List.length_nil]
      omega
  | cons c n =>
      -- the star takes one octet more
      have more : ∀ later : Spot, Stands glob path segments names (star :: t) n later →
          later.path = spot.path + 1 → later.wide = spot.wide →
            Accepts glob path (k + (t.length + 2) * (n.length + 1)) later := by
        intro later standsLater place same
        have total : later.path + n.length = spot.path + (c :: n).length := by
          rw [place, List.length_cons]
          omega
        exact ih (t.length + n.length) (by simp) within.tail evades.tail short standsLater
          (by rwa [same, total]) (by rwa [same, total]) rfl
      apply accepts_trying isOpen within stands
      · rw [← Bool.not_eq_true, isAt_slash_iff within.plain' stands]
        simp
      · simp
      · -- the next star takes over
        intro passed r m q later along standsLater place same
        have same := evades.kept along same
        have literals := evades.plain along
        have next := evades.next along
        obtain ⟨rfl, shape, unstarred, taken⟩ := along
        have total : later.path + q.length = spot.path + (c :: n).length := by
          rw [place, shape, List.length_append, taken.length_eq]
          omega
        have lengths := congrArg List.length shape
        rw [shape] at within
        exact ih (r.length + q.length) (by simp at lengths ⊢; omega) within.behind_star next
          (short.imp_right fun literal => by simpa [literals] using literal) standsLater
          (by rwa [same, total]) (by rwa [same, total]) rfl
      · -- the segment ends with the name, which is not the last one
        intro later along standsLater turn same
        have ended : segments = [] := short.resolve_right (evades.plain along)
        subst ended
        have stuck : next? glob path later =
            .some { later with glob := later.star.glob, path := later.star.path } :=
          next?_stuck (by rw [standsLater.glob_eq]; rintro _ _ ⟨⟩) (by rw [turn]; exact Nat.succ_pos _)
            (by rw [turn]; exact stands.within_size)
        have again := more { later with glob := later.star.glob, path := later.star.path }
          ⟨by rw [turn]; exact stands.glob_eq, by rw [turn]; exact from_succ stands.path_eq⟩
          (by rw [turn]) (evades.kept along same)
        exact accepts_of_next isOpen stuck again
      · rintro passed r m q _ _ later along _ ⟨⟩ standsLater place same
        exact more later standsLater place (evades.kept along same)

theorem IsTame.cases (tame : IsTame (segment :: segments)) :
    segments = [] ∨ (∀ other ∈ segment :: segments, star ∉ other) ∨ HasLiteral segment := by
  rcases tame with single | free | ⟨_, _, same, literal⟩
  · exact .inl (List.eq_nil_of_length_eq_zero (by simpa using single))
  · exact .inr (.inl free)
  · cases same
    exact .inr (.inr literal)

theorem exists_starred (inside : star ∈ spelled segments) : ∃ other ∈ segments, star ∈ other := by
  obtain ⟨other, member, inside⟩ := List.mem_flatMap.mp inside
  exact ⟨other, member, (List.mem_cons.mp inside).resolve_left (by decide)⟩

/-- Where names do not engage the segments, the walk goes back to the stars for whole segments: as
soon as it is stuck, or at the end of the first name. -/
theorem accepts_attempt (isOpen : IsOpen glob) (tame : IsTame (segment :: segments))
    (shaped : ∀ other ∈ segment :: segments, slash ∉ other ∧ ¬ [star, star] <:+: other)
    (filled : ∀ other ∈ name :: names, other ≠ [] ∧ slash ∉ other) (some : names ≠ [])
    (quiet : ¬ Engages (segment :: segments) (name :: names))
    (stands : Stands glob path segments names segment name spot)
    (back : 0 < spot.star.path ∧ spot.star.path ≤ path.size)
    (wide : 0 < spot.wide.path ∧ spot.wide.path ≤ spot.path + name.length)
    (falls : ∀ later : Spot, later.glob = spot.star.glob → later.path = spot.star.path →
      Accepts glob path k later)
    (resumes : ∀ later : Spot, later.glob = spot.wide.glob → later.path = spot.path + name.length →
      Accepts glob path k later) :
    Accepts glob path (k + ((spelled (segment :: segments)).length + 1) *
      ((spelled (name :: names)).length + 1)) spot := by
  obtain ⟨passed, r, m, q, met, met', unstarred, taken, halt⟩ :=
    exists_passed (segment ++ spelled segments) (name ++ spelled names)
  have shape : from_ glob spot.glob = passed ++ r := stands.glob_eq.trans met
  have shape' : from_ path spot.path = m ++ q := stands.path_eq.trans met'
  rcases halt with ⟨r, rfl⟩ | stuck
  · have meets := meets_of_passed (fun other member => (shaped other member).1)
      (fun other member => (filled other member).2) met.symm met'.symm unstarred taken
    have plain : ¬ HasLiteral passed := fun literal => quiet (meets.engages literal)
    obtain ⟨t, rfl, rfl⟩ | ⟨passed, second, others, rfl, rfl, rest⟩ := star_cases met.symm
    · have unslashed : slash ∉ passed := fun inside => (shaped _ List.mem_cons_self).1 (by simp [inside])
      obtain ⟨n, rfl, rfl⟩ := exists_name_append unslashed taken met'.symm
      have within : AreWithin (passed ++ star :: t) (m ++ n) :=
        ⟨(shaped _ List.mem_cons_self).1, (filled _ List.mem_cons_self).2,
          (shaped _ List.mem_cons_self).2⟩
      have short : segments = [] ∨ HasLiteral t := by
        refine tame.cases.imp_right fun rest => ?_
        rcases rest with free | literal
        · exact absurd (by simp) (free _ List.mem_cons_self)
        · simpa [plain] using literal
      have kept : (spot.passed passed).wide = spot.wide := by simp [Spot.passed, plain]
      have place : (spot.passed passed).path + n.length = spot.path + (m ++ n).length := by
        simp only [Spot.passed, taken.length_eq, List.length_append]
        omega
      have given := accepts_given_up isOpen within.behind some
        (fun empty => (filled [] (by simp [empty])).1 rfl)
        (evades_of_not_engages quiet unstarred taken)
        short ⟨(from_passed shape shape' taken).1, (from_passed shape shape' taken).2⟩
        (by rw [kept, place]; exact wide) (by rw [kept, place]; exact resumes)
      refine (accepts_of_passed isOpen shape shape' unstarred taken given).mono ?_
      have bound := steps_to_star passed.length t.length n.length
      have product : (passed.length + (t.length + 1) + 2) * (passed.length + n.length + 1) ≤
          ((spelled ((passed ++ star :: t) :: segments)).length + 1) *
            ((spelled ((m ++ n) :: names)).length + 1) := by
        apply Nat.mul_le_mul
        · simp only [spelled_cons, List.length_cons, List.length_append]
          omega
        · simp only [spelled_cons, List.length_cons, List.length_append, taken.length_eq]
          omega
      omega
    · exfalso
      have literal : ¬ HasLiteral segment := fun literal => plain (by simp [literal])
      have free := (tame.cases.resolve_left (by simp)).resolve_right literal
      have starred : star ∈ spelled (second :: others) := by
        rw [spelled_cons, ← rest]
        simp
      obtain ⟨other, member, inside⟩ := exists_starred starred
      exact free other (List.mem_cons_of_mem _ member) inside
  · have fallen := falls { spot.passed passed with glob := spot.star.glob, path := spot.star.path } rfl rfl
    refine (accepts_of_stuck isOpen shape shape' unstarred taken stuck back.1 back.2 fallen).mono ?_
    have length := congrArg List.length met
    have product := Nat.le_mul_of_pos_right ((spelled (segment :: segments)).length + 1)
      (show 0 < (spelled (name :: names)).length + 1 by omega)
    simp only [spelled_cons, List.length_cons, List.length_append] at length product ⊢
    omega

/-- Where names fit, the walk comes to the end of the pattern and of the path. -/
theorem accepts_fitting (isOpen : IsOpen glob) (tame : IsTame (segment :: segments))
    (within : List.Forall₂ AreWithin (segment :: segments) (name :: names))
    (fits : List.Forall₂ (Matches star mark) (segment :: segments) (name :: names))
    (stands : Stands glob path segments names segment name spot) :
    Accepts glob path (((spelled (segment :: segments)).length + 1) *
      ((spelled (name :: names)).length + 1)) spot := by
  obtain ⟨here, within⟩ := List.forall₂_cons.mp within
  obtain ⟨fit, fits⟩ := List.forall₂_cons.mp fits
  have calm : spot.wide.path = 0 ∨ names = [] ∨ HasLiteral segment ∨ star ∉ segment := by
    rcases tame.cases with rfl | free | literal
    · exact .inr (.inl (List.forall₂_nil_left_iff.mp fits))
    · exact .inr (.inr (.inr (free segment (by simp))))
    · exact .inr (.inr (.inl literal))
  have arrives : ∀ later, Stands glob path segments names [] [] later → spot.Keeps segment later →
      Accepts glob path (1 + ((spelled segments).length + 1) * ((spelled names).length + 1)) later := by
    intro later arrived keeps
    have free : later.wide.path = 0 ∨ ∀ other ∈ segments, star ∉ other := by
      rcases tame.cases with rfl | free | literal
      · exact .inr (by simp)
      · exact .inr fun other member => free other (by simp [member])
      · exact .inl (keeps.resolve_right fun same => same.2 literal)
    have ends : Stands glob path [] [] (spelled segments) (spelled names) later :=
      ⟨by simpa using arrived.glob_eq, by simpa using arrived.path_eq⟩
    refine accepts_segments isOpen fits within ends free ?_
    intro last ended _
    exact accepts_ended isOpen ended.glob_eq ended.path_eq
  refine (accepts_segment isOpen here fit stands calm arrives).mono ?_
  have bound := steps_to_segment segment.length name.length (spelled segments).length
    (spelled names).length
  simp only [spelled_cons, List.length_cons, List.length_append]
  omega

end Attempts

/-- Segments are fitted by the last of some names. -/
def Later (segments names : List (List UInt8)) : Prop :=
  ∃ back, back <:+ names ∧ List.Forall₂ (Matches star mark) segments back

/-- Wherever more names are left than there are segments, they do not engage the segments. -/
def AreQuiet (segments names : List (List UInt8)) : Prop :=
  ∀ back, back <:+ names → segments.length < back.length → ¬ Engages segments back

section Later

variable {segments names : List (List UInt8)} {name : List UInt8}

theorem AreQuiet.tail (quiet : AreQuiet segments (name :: names)) : AreQuiet segments names :=
  fun back ends => quiet back (ends.trans (List.suffix_cons name names))

theorem later_cons_iff : Later segments (name :: names) ↔
    List.Forall₂ (Matches star mark) segments (name :: names) ∨ Later segments names := by
  simp only [Later, List.suffix_cons_iff, or_and_right, exists_or, exists_eq_left]

theorem Later.length_le (later : Later segments names) : segments.length ≤ names.length := by
  obtain ⟨back, ends, fits⟩ := later
  rw [fits.length_eq]
  exact ends.length_le

theorem areWithin (shaped : ∀ segment ∈ segments, slash ∉ segment ∧ ¬ [star, star] <:+: segment)
    (filled : ∀ name ∈ names, name ≠ [] ∧ slash ∉ name)
    (fits : List.Forall₂ (Matches star mark) segments names) :
    List.Forall₂ AreWithin segments names := by
  induction fits with
  | nil => exact .nil
  | @cons segment name segments names _ _ ih =>
      have here := shaped segment (by simp)
      exact .cons ⟨here.1, (filled name (by simp)).2, here.2⟩
        (ih (fun other member => shaped other (by simp [member]))
          fun other member => filled other (by simp [member]))

end Later

section Freshness

variable {path : Octets} {index : Nat} {c : UInt8} {name r : List UInt8}

theorem isFresh_of_slash (some : name ≠ []) (shape : from_ path index = slash :: (name ++ r)) :
    isFresh path (index + 1) = true := by
  obtain ⟨c, name, rfl⟩ := List.exists_cons_of_ne_nil some
  have inside : index + 1 < path.size := lt_size_of_from_ (from_succ shape)
  have slashed : isAt path index '/' = true := isAt_iff.mpr ⟨_, shape⟩
  simp [isFresh, inside, slashed]

theorem isStale_succ (shape : from_ path index = c :: r) (inside : c ≠ slash) :
    isFresh path (index + 1) = false := by
  rw [← Bool.not_eq_true]
  intro fresh
  exact inside (by simpa using isFresh_succ shape fresh)

theorem isStale_of_name (some : name ≠ []) (plain : slash ∉ name)
    (shape : from_ path index = name ++ r) : isFresh path (index + name.length) = false := by
  obtain ⟨front, c, rfl⟩ := List.eq_nil_or_concat name |>.resolve_left some
  rw [List.concat_eq_append, List.append_assoc] at shape
  rw [List.concat_eq_append, List.length_append, ← Nat.add_assoc]
  exact isStale_succ (from_add shape) (by rintro rfl; exact plain (by simp))

end Freshness

def Spot.resumed (path : Octets) (index place : Nat) : Spot :=
  { path := place
    glob := index + if isFresh path place then 3 else 2
    star := ⟨index, place + 1⟩
    wide := ⟨index, place + 1⟩ }

/-- A bound of the steps a walk needs for one octet of the path behind stars for whole segments. -/
def stride (path : Octets) (segments : List (List UInt8)) : Nat :=
  ((spelled segments).length + 1) * (path.size + 2) + 2

section Resuming

variable {glob path : Octets} {before segments names : List (List UInt8)} {spot : Spot} {k : Nat}
variable {segment name t n : List UInt8} {place : Nat}

theorem accepts_tried (isOpen : IsOpen glob) (tame : IsTame (segment :: segments))
    (shaped : ∀ other ∈ segment :: segments, slash ∉ other ∧ ¬ [star, star] <:+: other)
    (filled : ∀ other ∈ name :: names, other ≠ [] ∧ slash ∉ other)
    (fits : Later (segment :: segments) (name :: names))
    (quiet : AreQuiet (segment :: segments) (name :: names))
    (stands : Stands glob path segments names segment name spot)
    (back : 0 < spot.star.path ∧ spot.star.path ≤ path.size)
    (wide : 0 < spot.wide.path ∧ spot.wide.path ≤ spot.path + name.length)
    (falls : Later (segment :: segments) names → ∀ later : Spot, later.glob = spot.star.glob →
      later.path = spot.star.path → Accepts glob path k later)
    (resumes : Later (segment :: segments) names → ∀ later : Spot, later.glob = spot.wide.glob →
      later.path = spot.path + name.length → Accepts glob path k later) :
    Accepts glob path (k + ((spelled (segment :: segments)).length + 1) *
      ((spelled (name :: names)).length + 1)) spot := by
  rcases later_cons_iff.mp fits with fits | later
  · exact (accepts_fitting isOpen tame (areWithin shaped filled fits) fits stands).mono (by omega)
  · have length := later.length_le
    have some : names ≠ [] := by
      rintro rfl
      cases length
    have engages := quiet _ List.suffix_rfl (Nat.lt_succ_of_le length)
    exact accepts_attempt isOpen tame shaped filled some engages stands back wide (falls later)
      (resumes later)

/-- What the last stars for whole segments need to be told of the pattern and the path. -/
structure IsResumable (glob path : Octets) (before : List (List UInt8)) (segment : List UInt8)
    (segments : List (List UInt8)) : Prop where
  isOpen : IsOpen glob
  shape : glob.toList = spelled (before ++ wideSegment :: segment :: segments)
  tame : IsTame (segment :: segments)
  shaped : ∀ other ∈ segment :: segments, slash ∉ other ∧ ¬ [star, star] <:+: other

theorem IsResumable.from_behind (resumable : IsResumable glob path before segment segments) :
    from_ glob ((spelled before).length + 1 + 2) = slash :: (segment ++ spelled segments) := by
  rw [from_, resumable.shape, spelled_append, Nat.add_assoc, ← List.drop_drop, List.drop_left]
  rfl

/-- At stars for whole segments, the walk goes on behind them. -/
theorem accepts_turning (resumable : IsResumable glob path before segment segments)
    (here : spot.glob = (spelled before).length + 1) (there : spot.path = place)
    (accepts : Accepts glob path k (.resumed path ((spelled before).length + 1) place)) :
    Accepts glob path (k + 1) spot := by
  subst there
  have start : from_ glob spot.glob = wideSegment ++ spelled (segment :: segments) := by
    rw [from_, resumable.shape, here, spelled_append, ← List.drop_drop, List.drop_left]
    rfl
  have narrow : (segment :: segments).head? ≠ .some wideSegment := by
    intro same
    obtain rfl : segment = wideSegment := by simpa using same
    exact (resumable.shaped _ List.mem_cons_self).2 List.infix_rfl
  have step : spot.starred glob path = _ :=
    starred_wide (k := 0) resumable.shape (List.cons_ne_nil _ _) narrow
      (fun other member => ⟨(resumable.shaped other member).1, .inr (resumable.shaped other member).2⟩)
      here
  refine accepts_of_next resumable.isOpen ((next?_star start).trans (congrArg _ step)) ?_
  rw [here]
  exact accepts

/-- Inside of a name, the walk goes back to the stars, which then take one octet more. -/
theorem accepts_skipped {c : UInt8} {p : List UInt8}
    (resumable : IsResumable glob path before segment segments) (inside : c ≠ slash)
    (stale : isFresh path place = false) (shape : from_ path place = c :: p)
    (again : Accepts glob path k (.resumed path ((spelled before).length + 1) (place + 1))) :
    Accepts glob path (k + 2) (.resumed path ((spelled before).length + 1) place) := by
  have behind := resumable.from_behind
  have stuck : ∀ wanted g,
      from_ glob (Spot.resumed path ((spelled before).length + 1) place).glob = wanted :: g →
        wanted ≠ star ∧ ∀ c p, from_ path place = c :: p → ¬ Takes wanted c := by
    simp only [Spot.resumed, stale, Bool.false_eq_true, if_false]
    rw [behind]
    rintro wanted g ⟨⟩
    refine ⟨by decide, fun c' p' same takes => ?_⟩
    rw [shape, List.cons.injEq] at same
    exact inside (same.1.trans (slash_takes.mp takes).symm)
  have step := next?_stuck stuck (Nat.succ_pos _) (lt_size_of_from_ shape)
  exact accepts_of_next resumable.isOpen step (accepts_turning resumable rfl rfl again)

theorem steps_of_attempt (segments : List (List UInt8)) (shape : from_ path place = name ++ spelled names) :
    ((spelled segments).length + 1) * ((spelled (name :: names)).length + 1) + 2 ≤
      stride path segments := by
  have length := congrArg List.length shape
  rw [from_, List.length_drop, Array.length_toList, List.length_append] at length
  refine Nat.add_le_add_right (Nat.mul_le_mul_left _ ?_) 2
  rw [spelled_cons, List.length_cons, List.length_append]
  omega

/-- Behind stars for whole segments, at the start of a name. -/
theorem accepts_fresh (resumable : IsResumable glob path before segment segments)
    (filled : ∀ other ∈ name :: names, other ≠ [] ∧ slash ∉ other)
    (fits : Later (segment :: segments) (name :: names))
    (quiet : AreQuiet (segment :: segments) (name :: names))
    (fresh : isFresh path place = true) (shape : from_ path place = name ++ spelled names)
    (next : Later (segment :: segments) names → ∀ n place, slash ∉ n → isFresh path place = false →
      from_ path place = n ++ spelled names →
        Accepts glob path ((n.length + (spelled names).length + 1) * stride path (segment :: segments))
          (.resumed path ((spelled before).length + 1) place)) :
    Accepts glob path ((name.length + (spelled names).length + 1) * stride path (segment :: segments))
      (.resumed path ((spelled before).length + 1) place) := by
  obtain ⟨some, plain⟩ := filled name (by simp)
  have here : (Spot.resumed path ((spelled before).length + 1) place).glob =
      (spelled before).length + 1 + 2 + 1 := by simp [Spot.resumed, fresh]
  have within := steps_of_attempt (segment :: segments) shape
  obtain ⟨c, n, rfl⟩ := List.exists_cons_of_ne_nil some
  have inside : c ≠ slash := by
    rintro rfl
    exact plain (by simp)
  have stands : Stands glob path segments names segment (c :: n)
      (.resumed path ((spelled before).length + 1) place) :=
    ⟨by rw [here]; exact from_succ resumable.from_behind, shape⟩
  have tried := accepts_tried (k := (n.length + (spelled names).length + 1) *
      stride path (segment :: segments) + 1) resumable.isOpen resumable.tame resumable.shaped filled
    fits quiet stands ⟨Nat.succ_pos _, lt_size_of_from_ shape⟩
    ⟨Nat.succ_pos _, Nat.add_le_add_left (by simp) place⟩
    (by
      intro later spot here there
      refine accepts_turning resumable here there ?_
      exact next later n (place + 1) (fun inside => plain (by simp [inside]))
        (isStale_succ shape inside) (from_succ shape))
    (by
      intro later spot here there
      refine accepts_turning resumable here there ?_
      refine (next later [] _ (by simp) (isStale_of_name some plain shape) (from_add shape)).mono ?_
      exact Nat.mul_le_mul_right _ (by simp))
  refine tried.mono ?_
  have total := Nat.succ_mul (n.length + (spelled names).length + 1) (stride path (segment :: segments))
  rw [List.length_cons, show n.length + 1 + (spelled names).length + 1 =
    (n.length + (spelled names).length + 1).succ by omega]
  omega

/-- Behind stars for whole segments, inside of a name or behind it. -/
theorem accepts_stale (resumable : IsResumable glob path before segment segments)
    (filled : ∀ other ∈ names, other ≠ [] ∧ slash ∉ other) (fits : Later (segment :: segments) names)
    (quiet : AreQuiet (segment :: segments) names) (plain : slash ∉ n)
    (stale : isFresh path place = false) (shape : from_ path place = n ++ spelled names) :
    Accepts glob path ((n.length + (spelled names).length + 1) * stride path (segment :: segments))
      (.resumed path ((spelled before).length + 1) place) := by
  induction names generalizing n place with
  | nil => exact absurd fits.length_le (by simp)
  | cons name names ih =>
  induction n generalizing place with
  | nil =>
      have here : (Spot.resumed path ((spelled before).length + 1) place).glob =
          (spelled before).length + 1 + 2 := by simp [Spot.resumed, stale]
      have behind := resumable.from_behind
      rw [← here] at behind
      obtain ⟨some, plain'⟩ := filled name (by simp)
      have step := next?_takes behind (by decide) shape (slash_takes.mpr rfl)
      have later : from_ path (place + 1) = name ++ spelled names := from_succ shape
      have stands : Stands glob path segments names segment name
          ((Spot.resumed path ((spelled before).length + 1) place).taken slash) :=
        ⟨from_succ behind, later⟩
      have tried := accepts_tried (k := (name.length + (spelled names).length + 1) *
          stride path (segment :: segments) + 1) resumable.isOpen resumable.tame resumable.shaped filled
        fits quiet stands ⟨Nat.succ_pos _, lt_size_of_from_ shape⟩
        ⟨Nat.succ_pos _, Nat.le_add_right (place + 1) name.length⟩
        (by
          intro _ spot here there
          refine accepts_turning resumable here there ?_
          exact accepts_fresh resumable filled fits quiet (isFresh_of_slash some shape) later
            fun rest n place plain stale shape =>
              ih (fun other member => filled other (by simp [member])) rest quiet.tail plain stale shape)
        (by
          intro rest spot here there
          refine accepts_turning resumable here there ?_
          refine (ih (fun other member => filled other (by simp [member])) rest quiet.tail
            (show slash ∉ [] by simp) (isStale_of_name some plain' later) (from_add later)).mono ?_
          exact Nat.mul_le_mul_right _ (by simp))
      refine (accepts_of_next resumable.isOpen step tried).mono ?_
      have within := steps_of_attempt (segment :: segments) later
      have total := Nat.succ_mul (name.length + (spelled names).length + 1)
        (stride path (segment :: segments))
      have lengths : ([] : List UInt8).length + (spelled (name :: names)).length + 1 =
          (name.length + (spelled names).length + 1).succ := by
        rw [spelled_cons, List.length_cons, List.length_append, List.length_nil]
        omega
      rw [lengths]
      omega
  | cons c n ihn =>
      have inside : c ≠ slash := by
        rintro rfl
        exact plain (by simp)
      have again := ihn (fun inside => plain (by simp [inside])) (isStale_succ shape inside)
        (from_succ shape)
      refine (accepts_skipped resumable inside stale shape again).mono ?_
      have total := Nat.succ_mul (n.length + (spelled (name :: names)).length + 1)
        (stride path (segment :: segments))
      have two : 2 ≤ stride path (segment :: segments) := Nat.le_add_left _ _
      rw [List.length_cons, show n.length + 1 + (spelled (name :: names)).length + 1 =
        (n.length + (spelled (name :: names)).length + 1).succ by omega]
      omega

/-- In front of stars for whole segments, the walk goes on behind the last of them. -/
theorem accepts_run (isOpen : IsOpen glob) {k : Nat} (tame : IsTame (segment :: segments))
    (shape : glob.toList =
      spelled (before ++ wideSegment :: (List.replicate k wideSegment ++ segment :: segments)))
    (shaped : ∀ other ∈ segment :: segments, slash ∉ other ∧ ¬ [star, star] <:+: other)
    (filled : ∀ other ∈ names, other ≠ [] ∧ slash ∉ other)
    (fits : Later (segment :: segments) names) (quiet : AreQuiet (segment :: segments) names)
    (here : spot.glob = (spelled before).length) (shape' : from_ path spot.path = spelled names) :
    Accepts glob path ((spelled names).length * stride path (segment :: segments) + 2) spot := by
  cases names with
  | nil => exact absurd fits.length_le (by simp)
  | cons name names =>
  have start : from_ glob spot.glob =
      slash :: (wideSegment ++ spelled (List.replicate k wideSegment ++ segment :: segments)) := by
    rw [from_, shape, here, spelled_append, List.drop_left]
    rfl
  have take := next?_takes start (by decide) shape' (slash_takes.mpr rfl)
  have inner : from_ path (spot.taken slash).path = name ++ spelled names := from_succ shape'
  have fresh := isFresh_of_slash (filled name (by simp)).1 shape'
  have narrow : (segment :: segments).head? ≠ some wideSegment := by
    intro same
    obtain rfl : segment = wideSegment := by simpa using same
    exact (shaped _ List.mem_cons_self).2 List.infix_rfl
  have passed : (spot.taken slash).starred glob path = _ :=
    starred_wide shape (List.cons_ne_nil _ _) narrow
      (fun other member => ⟨(shaped other member).1, .inr (shaped other member).2⟩)
      (congrArg (· + 1) here)
  have pass : next? glob path (spot.taken slash) = _ := next?_star (from_succ start)
  rw [passed] at pass
  have index : (spelled (before ++ List.replicate k wideSegment)).length + 1 =
      (spot.taken slash).glob + 3 * k := by
    rw [spelled_append, List.length_append, length_run]
    simp only [Spot.taken, here]
    omega
  have resumable : IsResumable glob path (before ++ List.replicate k wideSegment) segment segments := by
    refine ⟨isOpen, ?_, tame, shaped⟩
    rw [shape, List.append_assoc, ← List.singleton_append, ← List.append_assoc [wideSegment],
      List.singleton_append, ← List.replicate_succ, List.replicate_succ', List.append_assoc]
    rfl
  have behind := accepts_fresh resumable filled fits quiet fresh inner
    fun rest n place plain stale shape => accepts_stale resumable
      (fun other member => filled other (by simp [member])) rest quiet.tail plain stale shape
  rw [index] at behind
  refine (accepts_of_next isOpen take (accepts_of_next isOpen pass behind)).mono ?_
  rw [spelled_cons, List.length_cons, List.length_append]

end Resuming

section Runs

variable {glob path : Octets} {segments names before front back : List (List UInt8)}
variable {segment : List UInt8}

theorem le_stepLimit {a b steps : Nat} (glob path : Octets)
    (first : a + 2 ≤ (glob.size + 2) * (path.size + 2)) (octets : b ≤ path.size)
    (each : steps ≤ (glob.size + 2) * (path.size + 2)) : b * steps + 2 + a ≤ stepLimit glob path := by
  unfold stepLimit
  have all := Nat.mul_le_mul octets each
  have some := Nat.succ_mul path.size ((glob.size + 2) * (path.size + 2))
  have enough := Nat.mul_le_mul_right ((glob.size + 2) * (path.size + 2))
    (show path.size.succ ≤ (glob.size + 2) * (path.size + 2) by
      have factor := Nat.le_mul_of_pos_left (path.size + 2) (show 0 < glob.size + 2 by omega)
      omega)
  omega

theorem steps_in_front {a f g p : Nat} (glob_le : a ≤ g) (path_le : f ≤ p) :
    (a + 1) * (f + 1) + 2 ≤ (g + 2) * (p + 2) := by
  have product := Nat.mul_le_mul (show a + 1 ≤ g + 1 by omega) (show f + 1 ≤ p + 1 by omega)
  have expand : (g + 2) * (p + 2) = (g + 1) * (p + 1) + 2 + (g + p + 1) := by ring
  omega

/-- A path whose names fit a pattern without stars for whole segments is accepted. -/
theorem run_narrow (isOpen : IsOpen glob) (shape : glob.toList = spelled segments)
    (shape' : path.toList = spelled names)
    (shaped : ∀ segment ∈ segments, slash ∉ segment ∧ ¬ [star, star] <:+: segment)
    (filled : ∀ name ∈ names, name ≠ [] ∧ slash ∉ name)
    (fits : List.Forall₂ (Matches star mark) segments names) :
    run glob path false (stepLimit glob path) {} = true := by
  have stands : Stands glob path [] [] (spelled segments) (spelled names) {} :=
    ⟨by simpa [from_] using shape, by simpa [from_] using shape'⟩
  have accepts := accepts_segments isOpen fits (areWithin shaped filled fits) stands
    (.inl rfl) fun last ended _ => accepts_ended isOpen ended.glob_eq ended.path_eq
  refine accepts _ ?_
  rw [← shape, ← shape', Array.length_toList, Array.length_toList, Nat.add_comm]
  have bound := le_stepLimit glob path (steps_in_front (le_refl glob.size) (le_refl path.size))
    (Nat.zero_le path.size) (Nat.zero_le _)
  omega

/-- A path is accepted if the first of its names fit what is in front of stars for whole segments and
the last of them fit what is behind, unless others between them engage it. -/
theorem run_wide (isOpen : IsOpen glob) {k : Nat} (tame : IsTame (segment :: segments))
    (shape : glob.toList =
      spelled (before ++ wideSegment :: (List.replicate k wideSegment ++ segment :: segments)))
    (shape' : path.toList = spelled (front ++ back))
    (shaped : ∀ other ∈ before ++ segment :: segments, slash ∉ other ∧ ¬ [star, star] <:+: other)
    (filled : ∀ other ∈ front ++ back, other ≠ [] ∧ slash ∉ other)
    (fits : List.Forall₂ (Matches star mark) before front) (fits' : Later (segment :: segments) back)
    (quiet : AreQuiet (segment :: segments) back) :
    run glob path false (stepLimit glob path) {} = true := by
  have within := areWithin (fun other member => shaped other (List.mem_append_left _ member))
    (fun other member => filled other (List.mem_append_left _ member)) fits
  have lengths := congrArg List.length shape
  have lengths' := congrArg List.length shape'
  rw [Array.length_toList, spelled_append, List.length_append] at lengths lengths'
  have stands : Stands glob path (wideSegment :: (List.replicate k wideSegment ++ segment :: segments)) back
      (spelled before) (spelled front) {} :=
    ⟨by rw [from_, List.drop_zero, shape, spelled_append],
      by rw [from_, List.drop_zero, shape', spelled_append]⟩
  have accepts := accepts_segments isOpen fits within stands (.inl rfl) fun later arrived _ => by
      have here : later.glob = (spelled before).length := by
        have size := congrArg List.length arrived.glob_eq
        rw [from_, List.length_drop, Array.length_toList] at size
        simp only [List.nil_append, spelled_cons, List.length_cons] at size lengths
        omega
      exact accepts_run isOpen tame shape
        (fun other member => shaped other (List.mem_append_right _ member))
        (fun other member => filled other (List.mem_append_right _ member)) fits' quiet here
        arrived.path_eq
  refine accepts _ (le_stepLimit glob path (steps_in_front (by omega) (by omega)) (by omega) ?_)
  rw [spelled_cons, List.length_cons, List.length_append, spelled_append, List.length_append] at lengths
  have wider : (spelled (segment :: segments)).length + 1 + 2 ≤ glob.size + 2 := by omega
  have product := Nat.mul_le_mul_right (path.size + 2) wider
  rw [Nat.add_mul _ 2] at product
  unfold stride
  omega

end Runs

end StyleInline.Glob.Braces
