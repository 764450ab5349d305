import StyleInline.Proofs.Walk

/-!
# What a walk accepts fits

The octets of a pattern admit those of a path if the path can be read along the pattern.  Whatever
place a walk is at or can go back to, the octets there are admitted only if the whole path is.
-/

namespace StyleInline.Glob.Braces

/-- The octets of a pattern admit octets of a path; it is told whether a segment starts there. -/
inductive Admits : Bool → List UInt8 → List UInt8 → Prop where
  | done {fresh : Bool} : Admits fresh [] []
  | take {fresh : Bool} {wanted c : UInt8} {g p : List UInt8} (narrow : wanted ≠ star)
      (takes : Takes wanted c) (rest : Admits (c == slash) g p) :
      Admits fresh (wanted :: g) (c :: p)
  | stop {fresh : Bool} {g p : List UInt8} (single : g.head? ≠ some star)
      (rest : Admits fresh g p) : Admits fresh (star :: g) p
  | eat {fresh : Bool} {c : UInt8} {g p : List UInt8} (single : g.head? ≠ some star)
      (inside : c ≠ slash) (rest : Admits false (star :: g) p) : Admits fresh (star :: g) (c :: p)
  | here {g p : List UInt8} (rest : Admits true g p) :
      Admits true (star :: star :: slash :: g) p
  | cross {fresh : Bool} {g p : List UInt8} (rest : Admits fresh (slash :: g) p) :
      Admits fresh (star :: star :: slash :: g) p
  | skip {fresh : Bool} {c : UInt8} {g p : List UInt8}
      (rest : Admits (c == slash) (star :: star :: slash :: g) p) :
      Admits fresh (star :: star :: slash :: g) (c :: p)

theorem slash_takes {c : UInt8} : Takes slash c ↔ slash = c := by
  rw [Takes, if_neg (by decide)]

theorem takes_slash {wanted : UInt8} : Takes wanted slash ↔ wanted = slash := by
  unfold Takes
  split
  next marked =>
    subst marked
    exact iff_of_false (by simp) (by decide)
  next => rfl

/-- A symbol other than a star that takes an octet fits it. -/
theorem matches_takes_iff {wanted c : UInt8} {g p : List UInt8} (narrow : wanted ≠ star)
    (takes : Takes wanted c) :
    Matches star mark (wanted :: g) (c :: p) ↔ Matches star mark g p := by
  by_cases marked : wanted = mark
  · subst marked
    constructor
    · intro fits
      cases fits with
      | literal solid _ => exact absurd rfl solid.2
      | any rest => exact rest
    · exact .any
  · rw [Takes, if_neg marked] at takes
    subst takes
    constructor
    · intro fits
      cases fits with
      | literal _ rest => exact rest
      | any _ => exact absurd rfl marked
      | stop _ => exact absurd rfl narrow
      | eat _ => exact absurd rfl narrow
    · exact .literal ⟨narrow, marked⟩

namespace Admits

variable {fresh : Bool} {g p : List UInt8}

theorem loosen (admits : Admits false g p) (fresh : Bool) : Admits fresh g p := by
  generalize old : false = start at admits
  induction admits with
  | done => exact .done
  | take narrow takes rest _ => exact .take narrow takes rest
  | stop single _ ih => exact .stop single (ih old)
  | eat single inside rest _ => exact .eat single inside rest
  | here _ _ => cases old
  | cross _ ih => exact .cross (ih old)
  | skip rest _ => exact .skip rest

theorem of_imp {other : Bool} (admits : Admits fresh g p) (implies : fresh = true → other = true) :
    Admits other g p := by
  cases fresh with
  | false => exact admits.loosen other
  | true =>
      rw [implies rfl]
      exact admits

theorem between (admits : Admits true g p) (fresh : Bool) :
    Admits fresh (slash :: g) (slash :: p) :=
  .take (by decide) (slash_takes.mpr rfl) (by rwa [beq_self_eq_true])

/-- Stars for whole segments admit what they admit behind others. -/
theorem again (admits : Admits fresh (star :: star :: slash :: g) p) :
    Admits fresh (star :: star :: slash :: star :: star :: slash :: g) p := by
  generalize spelled : star :: star :: slash :: g = whole at admits
  induction admits with
  | done => cases spelled
  | take narrow _ _ _ =>
      cases spelled
      exact absurd rfl narrow
  | stop single _ _ =>
      cases spelled
      exact absurd rfl single
  | eat single _ _ _ =>
      cases spelled
      exact absurd rfl single
  | here rest _ =>
      cases spelled
      exact .here (.here rest)
  | cross rest _ =>
      cases spelled
      cases rest with
      | take narrow takes rest =>
          obtain rfl := slash_takes.mp takes
          exact .cross (.take narrow takes (.here rest))
  | skip rest ih =>
      cases spelled
      exact .skip (ih rfl)

/-- In a row of stars for whole segments, the last ones admit what all of them admit. -/
theorem run {rest : List (List UInt8)} (some : rest ≠ []) (k : Nat)
    (admits : Admits fresh (wideSegment ++ spelled rest) p) :
    Admits fresh (wideSegment ++ spelled (List.replicate k wideSegment ++ rest)) p := by
  induction k with
  | zero => exact admits
  | succ k ih =>
      have shape : ∃ g, spelled (List.replicate k wideSegment ++ rest) = slash :: g := by
        rcases spelled_cases (List.replicate k wideSegment ++ rest) with none | found
        · obtain ⟨segment, others, rfl⟩ := List.exists_cons_of_ne_nil some
          simp [spelled_cons] at none
        · exact found
      obtain ⟨g, shape⟩ := shape
      rw [List.replicate_succ, List.cons_append, spelled_cons, shape]
      rw [shape] at ih
      simp only [wideSegment, List.cons_append, List.nil_append] at ih ⊢
      exact ih.again

end Admits

/-- The octets at a place of a pattern admit those at a place of a path. -/
def Admitted (glob path : Octets) (place index : Nat) : Prop :=
  Admits (isFresh path index) (from_ glob place) (from_ path index)

/-- A walk is on the way to a goal: it is reached if the octets are admitted where the walk is, or
where it can go back to. -/
structure Traces (glob path : Octets) (goal : Prop) (spot : Spot) : Prop where
  here : Admitted glob path spot.glob spot.path → goal
  atStar : 0 < spot.star.path → spot.star.path ≤ path.size →
    Admitted glob path spot.star.glob spot.star.path → goal
  atWide : 0 < spot.wide.path → ∀ index, spot.wide.path ≤ index + 1 → index ≤ path.size →
    Admitted glob path spot.wide.glob index → goal
  recent : spot.wide.path ≤ spot.path + 1
  turned : spot.wide.path = spot.path + 1 →
    isFresh path spot.path = true ∨ isAt glob spot.glob '/' = true
  behind : 0 < spot.star.path → spot.wide.path ≤ spot.star.path
  started : spot.glob = 0 ∨ 0 < spot.path

/-- The octets of a pattern with some segments, the last of which stands for one name. -/
structure IsPattern (glob : Octets) (segments : List (List UInt8)) : Prop where
  shape : glob.toList = spelled segments
  shaped : ∀ segment ∈ segments, IsSegment segment
  ended : segments.getLast? ≠ some wideSegment

def IsFilled (path : Octets) : Prop :=
  ∀ index, isAt path index '/' = true → isFresh path index = true → index = 0

section Steps

variable {glob path : Octets} {goal : Prop} {spot : Spot} {segments : List (List UInt8)}

theorem isFresh_succ {c : UInt8} {p : List UInt8} {index : Nat} (shape : from_ path index = c :: p)
    (fresh : isFresh path (index + 1) = true) : (c == slash) = true := by
  simp only [isFresh, Nat.succ_ne_zero, beq_iff_eq, Bool.or_eq_true, Bool.and_eq_true, false_or,
    Nat.add_sub_cancel, isAt_iff] at fresh
  obtain ⟨_, _, slashed⟩ := fresh
  rw [shape, List.cons.injEq] at slashed
  simp [slashed.1]

/-- Stars for whole segments admit more in front of what they admit. -/
theorem admitted_earlier {place : Nat} {g : List UInt8}
    (wide : from_ glob place = star :: star :: slash :: g) {index later : Nat}
    (order : index ≤ later) (within : later ≤ path.size)
    (admitted : Admitted glob path place later) : Admitted glob path place index := by
  induction later, order using Nat.le_induction with
  | base => exact admitted
  | succ later order ih =>
      apply ih (by omega)
      obtain ⟨c, p, shape⟩ : ∃ c p, from_ path later = c :: p := by
        apply List.exists_cons_of_ne_nil
        rw [ne_eq, from_eq_nil_iff]
        omega
      unfold Admitted at *
      rw [from_succ shape, wide] at admitted
      rw [shape, wide]
      exact .skip (admitted.of_imp (isFresh_succ shape))

theorem taken_wide_le (spot : Spot) (wanted : UInt8) :
    (spot.taken wanted).wide.path ≤ spot.wide.path := by
  unfold Spot.taken
  dsimp only
  split
  · exact le_rfl
  · exact Nat.zero_le _

theorem Traces.taken (traces : Traces glob path goal spot) {wanted c : UInt8} {g p : List UInt8}
    (shape : from_ glob spot.glob = wanted :: g) (narrow : wanted ≠ star)
    (shape' : from_ path spot.path = c :: p) (takes : Takes wanted c) :
    Traces glob path goal (spot.taken wanted) := by
  constructor
  · intro admitted
    apply traces.here
    unfold Admitted at *
    simp only [Spot.taken, from_succ shape, from_succ shape'] at admitted
    rw [shape, shape']
    exact .take narrow takes (admitted.of_imp (isFresh_succ shape'))
  · exact traces.atStar
  · unfold Spot.taken
    dsimp only
    split
    · exact traces.atWide
    · intro positive
      exact absurd positive (lt_irrefl 0)
  · exact (taken_wide_le spot wanted).trans (traces.recent.trans (Nat.le_succ _))
  · intro recent
    have before := (taken_wide_le spot wanted).trans traces.recent
    rw [recent] at before
    exact absurd before (Nat.not_succ_le_self _)
  · intro positive
    exact (taken_wide_le spot wanted).trans (traces.behind positive)
  · exact .inr (Nat.succ_pos _)

theorem Traces.back (traces : Traces glob path goal spot) {next : Spot}
    (turned : spot.back? path = some next) : Traces glob path goal next := by
  unfold Spot.back? at turned
  split at turned
  next back =>
    cases turned
    have behind := traces.behind back.1
    constructor
    · exact traces.atStar back.1 back.2
    · exact traces.atStar
    · exact traces.atWide
    · dsimp only
      omega
    · dsimp only
      omega
    · exact traces.behind
    · exact .inr back.1
  next => cases turned

theorem Traces.starred_wide (traces : Traces glob path goal spot) (isPattern : IsPattern glob segments)
    {g : List UInt8} (stars : from_ glob spot.glob = star :: star :: g) :
    Traces glob path goal (spot.starred glob path) := by
  have dropped := stars
  rw [from_, isPattern.shape] at dropped
  obtain ⟨before, after, whole, here, rfl⟩ := exists_wide_of_stars isPattern.shaped dropped
  obtain ⟨k, rest, rfl, last⟩ := exists_run after
  have some : rest ≠ [] := by
    rintro rfl
    apply isPattern.ended
    rw [whole, List.append_nil, ← List.replicate_succ, List.getLast?_append_of_ne_nil _ (by simp),
      List.replicate_succ', List.getLast?_concat]
  have shape := isPattern.shape
  rw [whole] at shape
  have shaped : ∀ segment ∈ rest, IsSegment segment := fun segment member =>
    isPattern.shaped segment (by simp [whole, member])
  obtain ⟨segment, others, rfl⟩ := List.exists_cons_of_ne_nil some
  have index : from_ glob (spot.glob + 3 * k) = wideSegment ++ spelled (segment :: others) := by
    rw [show spot.glob + 3 * k = (spelled before).length + 3 * k + 1 by omega]
    exact from_succ (from_run shape)
  have behind : from_ glob (spot.glob + 3 * k + 2) = spelled (segment :: others) := from_add index
  have behind' : from_ glob (spot.glob + 3 * k + 3) = segment ++ spelled others :=
    from_succ behind
  have good : Admitted glob path (spot.glob + 3 * k) spot.path → goal := by
    intro admitted
    apply traces.here
    unfold Admitted at *
    rw [index] at admitted
    have joined := admitted.run some k
    rw [stars]
    exact joined
  have good' : ∀ later, spot.path ≤ later → later ≤ path.size →
      Admitted glob path (spot.glob + 3 * k) later → goal := by
    intro later order within admitted
    exact good (admitted_earlier index order within admitted)
  have started : 0 < spot.path := by
    rcases traces.started with top | positive
    · omega
    · exact positive
  rw [Braces.starred_wide shape some last shaped here]
  constructor
  · intro admitted
    apply good
    unfold Admitted at *
    rw [index]
    split at admitted
    next fresh =>
      rw [behind'] at admitted
      rw [fresh] at admitted ⊢
      exact .here admitted
    next =>
      rw [behind] at admitted
      exact .cross admitted
  · intro _ within admitted
    exact good' _ (Nat.le_succ _) within admitted
  · intro _ later order within admitted
    exact good' later (Nat.le_of_succ_le_succ order) within admitted
  · exact le_rfl
  · intro _
    dsimp only
    split
    next fresh => exact .inl fresh
    next => exact .inr (isAt_iff.mpr ⟨_, behind⟩)
  · intro _
    exact le_rfl
  · exact .inr started

/-- In front of a star, a walk has just turned only where a segment of the path starts. -/
theorem Traces.fresh_of_turned (traces : Traces glob path goal spot) {g : List UInt8}
    (starred : from_ glob spot.glob = star :: g) (recent : spot.wide.path = spot.path + 1) :
    isFresh path spot.path = true := by
  refine (traces.turned recent).resolve_right fun slashed => ?_
  obtain ⟨_, slashed⟩ := isAt_iff.mp slashed
  rw [slashed, List.cons.injEq] at starred
  exact absurd starred.1 (by decide)

/-- A star behind stars for whole segments does not meet a separator where they stood. -/
theorem Traces.apart (traces : Traces glob path goal spot) (filled : IsFilled path)
    (started : 0 < spot.path) {g : List UInt8} (starred : from_ glob spot.glob = star :: g)
    (ended : isAt path spot.path '/' = true) : spot.wide.path ≠ spot.path + 1 := by
  intro recent
  have top := filled spot.path ended (traces.fresh_of_turned starred recent)
  omega

theorem Traces.dropped (traces : Traces glob path goal spot) {g : List UInt8}
    (starred : from_ glob spot.glob = star :: g) (single : g.head? ≠ some star)
    (admitted : Admitted glob path (spot.glob + 1) spot.path) : goal := by
  apply traces.here
  unfold Admitted at *
  rw [from_succ starred] at admitted
  rw [starred]
  exact .stop single admitted

theorem Traces.eaten (traces : Traces glob path goal spot) {g : List UInt8}
    (starred : from_ glob spot.glob = star :: g) (single : g.head? ≠ some star)
    (on : isAt path spot.path '/' = false) (within : spot.path < path.size)
    (admitted : Admitted glob path spot.glob (spot.path + 1)) : goal := by
  apply traces.here
  obtain ⟨c, p, shape⟩ : ∃ c p, from_ path spot.path = c :: p := by
    apply List.exists_cons_of_ne_nil
    rw [ne_eq, from_eq_nil_iff]
    exact Nat.not_le_of_lt within
  have inside : c ≠ slash := by
    rintro rfl
    rw [isAt_iff.mpr ⟨p, shape⟩] at on
    cases on
  have stale : isFresh path (spot.path + 1) = false := by
    by_contra fresh
    have slashed := isFresh_succ shape (by simpa using fresh)
    exact inside (by simpa using slashed)
  unfold Admitted at *
  rw [stale, starred, from_succ shape] at admitted
  rw [starred, shape]
  exact .eat single inside admitted

theorem Traces.starred_narrow (traces : Traces glob path goal spot)
    (isPattern : IsPattern glob segments) (filled : IsFilled path)
    {g : List UInt8} (starred : from_ glob spot.glob = star :: g) (single : g.head? ≠ some star) :
    Traces glob path goal (spot.starred glob path) := by
  have alone : isAt glob (spot.glob + 1) '*' = false := by
    rw [← Bool.not_eq_true, isAt_iff, from_succ starred]
    rintro ⟨rest, rfl⟩
    exact single rfl
  have inner : spot.glob ≠ 0 := by
    intro top
    rw [top, from_, isPattern.shape, List.drop_zero] at starred
    exact not_star_spelled starred
  have started := traces.started.resolve_left inner
  have recent := traces.recent
  cases ended : isAt path spot.path '/' with
  | false =>
      rw [starred_on alone ended]
      constructor
      · exact traces.dropped starred single
      · intro _ within admitted
        exact traces.eaten starred single ended within admitted
      · exact traces.atWide
      · exact recent
      · intro same
        exact .inl (traces.fresh_of_turned starred same)
      · intro _
        exact recent
      · exact .inr started
  | true =>
      have apart := traces.apart filled started starred ended
      by_cases back : 0 < spot.wide.path ∧ spot.path + 1 < path.size
      · rw [starred_back alone ended apart back.1 back.2]
        have again : ∀ index, spot.path ≤ index → index ≤ path.size →
            Admitted glob path spot.wide.glob index → goal := fun index order within =>
          traces.atWide back.1 index (by omega) within
        constructor
        · exact again _ le_rfl (by dsimp only; omega)
        · intro _ within
          exact again _ (Nat.le_succ _) within
        · exact traces.atWide
        · exact recent
        · intro same
          exact absurd same apart
        · intro _
          exact recent
        · exact .inr started
      · rw [starred_drop alone ended apart back]
        constructor
        · exact traces.dropped starred single
        · intro positive
          exact absurd positive (lt_irrefl 0)
        · exact traces.atWide
        · exact recent
        · intro same
          exact absurd same apart
        · intro positive
          exact absurd positive (lt_irrefl 0)
        · exact .inr started

/-- Every step of a walk stays on the way. -/
theorem Traces.next (traces : Traces glob path goal spot) (isPattern : IsPattern glob segments)
    (filled : IsFilled path) {next : Spot} (stepped : next? glob path spot = some next) :
    Traces glob path goal next := by
  rcases next?_cases stepped with ⟨g, starred, rfl⟩ | ⟨wanted, g, c, p, shape, narrow, shape', takes, rfl⟩ | turned
  · by_cases single : g.head? = some star
    · obtain ⟨rest, rfl⟩ := List.head?_eq_some_iff.mp single
      exact traces.starred_wide isPattern starred
    · exact traces.starred_narrow isPattern filled starred single
  · exact traces.taken shape narrow shape' takes
  · exact traces.back turned

/-- A walk that accepts has reached its goal. -/
theorem Traces.run (traces : Traces glob path goal spot) (isOpen : IsOpen glob)
    (isPattern : IsPattern glob segments) (filled : IsFilled path) {fuel : Nat}
    (accepted : run glob path false fuel { spot } = true) : goal := by
  induction fuel generalizing spot with
  | zero => cases accepted
  | succ fuel ih =>
      rw [run_succ isOpen] at accepted
      split at accepted
      next ended =>
        apply traces.here
        unfold Admitted
        rw [from_eq_nil_iff.mpr ended.1, from_eq_nil_iff.mpr ended.2]
        exact .done
      next =>
        cases stepped : next? glob path spot with
        | none =>
            rw [stepped] at accepted
            cases accepted
        | some next =>
            rw [stepped] at accepted
            exact ih (traces.next isPattern filled stepped) accepted

end Steps

section Segments

variable {fresh : Bool} {segment name g : List UInt8} {segments names rest : List (List UInt8)}

/-- A segment for one name does not start with two stars. -/
theorem not_stars_of_narrow {r : List UInt8} (plain : slash ∉ segment)
    (single : ¬ [star, star] <:+: segment) : segment ++ spelled segments ≠ star :: star :: r := by
  intro stars
  have whole : IsSegment ([] ++ segment) := ⟨plain, .inr single⟩
  obtain ⟨_, isWide, _⟩ := eq_wide_of_stars whole stars
  exact single (by rw [isWide]; exact List.infix_rfl)

theorem single_of_cons {b : UInt8} (single : ¬ [star, star] <:+: b :: segment) :
    ¬ [star, star] <:+: segment := fun inside =>
  single (inside.trans (List.suffix_cons b _).isInfix)

/-- What a segment for one name admits is a name that fits it, and what is admitted behind it. -/
theorem Admits.narrow (plain : slash ∉ segment) (single : ¬ [star, star] <:+: segment)
    (plain' : slash ∉ name)
    (admits : Admits fresh (segment ++ spelled segments) (name ++ spelled names)) :
    Matches star mark segment name ∧ ∃ fresh, Admits fresh (spelled segments) (spelled names) := by
  generalize shape : segment ++ spelled segments = g at admits
  generalize shape' : name ++ spelled names = p at admits
  induction admits generalizing segment name with
  | done =>
      obtain ⟨rfl, none⟩ := List.append_eq_nil_iff.mp shape
      obtain ⟨rfl, none'⟩ := List.append_eq_nil_iff.mp shape'
      exact ⟨.done, true, by rw [none, none']; exact .done⟩
  | @take fresh wanted c g p narrow takes admits ih =>
      cases segment with
      | nil =>
          rw [List.nil_append] at shape
          obtain rfl := eq_slash_of_spelled shape
          obtain rfl := slash_takes.mp takes
          cases name with
          | nil =>
              rw [List.nil_append] at shape'
              exact ⟨.done, fresh, by rw [shape, shape']; exact .take narrow takes admits⟩
          | cons d name =>
              rw [List.cons_append, List.cons.injEq] at shape'
              exact absurd (by simp [shape'.1]) plain'
      | cons b segment =>
          rw [List.cons_append, List.cons.injEq] at shape
          obtain ⟨rfl, shape⟩ := shape
          simp only [List.mem_cons, not_or] at plain
          cases name with
          | nil =>
              obtain rfl := eq_slash_of_spelled shape'
              exact absurd (takes_slash.mp takes).symm plain.1
          | cons d name =>
              rw [List.cons_append, List.cons.injEq] at shape'
              obtain ⟨rfl, shape'⟩ := shape'
              simp only [List.mem_cons, not_or] at plain'
              exact (ih plain.2 (single_of_cons single) plain'.2 shape shape').imp_left
                (matches_takes_iff narrow takes).mpr
  | @stop fresh g p _ admits ih =>
      cases segment with
      | nil => exact absurd shape not_star_spelled
      | cons b segment =>
          rw [List.cons_append, List.cons.injEq] at shape
          obtain ⟨rfl, shape⟩ := shape
          simp only [List.mem_cons, not_or] at plain
          exact (ih plain.2 (single_of_cons single) plain' shape shape').imp_left .stop
  | @eat fresh c g p _ inside admits ih =>
      cases segment with
      | nil => exact absurd shape not_star_spelled
      | cons b segment =>
          cases name with
          | nil => exact absurd (eq_slash_of_spelled shape') inside
          | cons d name =>
              rw [List.cons_append, List.cons.injEq] at shape'
              obtain ⟨rfl, shape'⟩ := shape'
              simp only [List.mem_cons, not_or] at plain'
              obtain ⟨fits, later⟩ := ih plain single plain'.2 shape shape'
              rw [List.cons_append, List.cons.injEq] at shape
              obtain ⟨rfl, _⟩ := shape
              exact ⟨.eat fits, later⟩
  | here _ _ => exact absurd shape (not_stars_of_narrow plain single)
  | cross _ _ => exact absurd shape (not_stars_of_narrow plain single)
  | skip _ _ => exact absurd shape (not_stars_of_narrow plain single)

/-- What stars for whole segments admit is admitted behind them, here or at a later separator. -/
theorem Admits.wide (plain : slash ∉ name) (plains : ∀ name ∈ names, slash ∉ name)
    (admits : Admits fresh (star :: star :: slash :: g) (name ++ spelled names)) :
    (fresh = true ∧ Admits true g (name ++ spelled names)) ∨
    ∃ front back fresh, names = front ++ back ∧ Admits fresh (slash :: g) (spelled back) := by
  generalize shape : star :: star :: slash :: g = whole at admits
  generalize shape' : name ++ spelled names = p at admits
  induction admits generalizing name names with
  | done => cases shape
  | take narrow _ _ _ =>
      cases shape
      exact absurd rfl narrow
  | stop single _ _ =>
      cases shape
      exact absurd rfl single
  | eat single _ _ _ =>
      cases shape
      exact absurd rfl single
  | here rest _ =>
      cases shape
      exact .inl ⟨rfl, rest⟩
  | @cross fresh _ p rest _ =>
      cases shape
      cases name with
      | nil =>
          rw [List.nil_append] at shape'
          exact .inr ⟨[], names, fresh, rfl, shape' ▸ rest⟩
      | cons d name =>
          cases rest with
          | take _ takes _ =>
              rw [List.cons_append, List.cons.injEq] at shape'
              exact absurd (by simp [slash_takes.mp takes, shape'.1]) plain
  | @skip fresh c _ p rest ih =>
      cases shape
      cases name with
      | nil =>
          cases names with
          | nil => cases shape'
          | cons name names =>
              rw [List.nil_append, spelled_cons, List.cons.injEq] at shape'
              obtain ⟨rfl, shape'⟩ := shape'
              have plains' : ∀ other ∈ names, slash ∉ other := fun other member =>
                plains other (by simp [member])
              rcases ih (plains name (by simp)) plains' rfl shape' with
                ⟨_, admits⟩ | ⟨front, back, fresh, rfl, admits⟩
              · refine .inr ⟨[], name :: names, true, rfl, ?_⟩
                rw [spelled_cons, shape']
                exact admits.between true
              · exact .inr ⟨name :: front, back, fresh, rfl, admits⟩
      | cons d name =>
          rw [List.cons_append, List.cons.injEq] at shape'
          obtain ⟨rfl, shape'⟩ := shape'
          simp only [List.mem_cons, not_or] at plain
          rcases ih plain.2 plains rfl shape' with ⟨slashed, _⟩ | later
          · exact absurd (by simpa using slashed) (Ne.symm plain.1)
          · exact .inr later

def IsWideSegment (segment : List UInt8) : Prop := segment = wideSegment

theorem isWideSegment : IsWideSegment wideSegment := rfl

abbrev SpansOctets (segments names : List (List UInt8)) : Prop :=
  Spans IsWideSegment (Matches star mark) segments names

/-- Names whose octets are admitted by those of segments fit the segments. -/
theorem Admits.spans (shaped : ∀ segment ∈ segments, IsSegment segment)
    (ended : segments.getLast? ≠ some wideSegment) (plains : ∀ name ∈ names, slash ∉ name)
    (admits : Admits fresh (spelled segments) (spelled names)) : SpansOctets segments names := by
  induction segments generalizing names fresh with
  | nil =>
      cases names with
      | nil => exact .nil
      | cons name names => cases admits
  | cons segment rest ih =>
      rw [spelled_cons] at admits
      cases names with
      | nil => cases admits
      | cons name names =>
          have plains' : ∀ other ∈ names, slash ∉ other := fun other member =>
            plains other (by simp [member])
          have shaped' : ∀ other ∈ rest, IsSegment other := fun other member =>
            shaped other (by simp [member])
          rw [spelled_cons] at admits
          cases admits with
          | take _ _ admits =>
              have here := shaped segment (by simp)
              rcases here.2 with rfl | single
              · obtain ⟨second, others, rfl⟩ : ∃ second others, rest = second :: others := by
                  apply List.exists_cons_of_ne_nil
                  rintro rfl
                  exact ended rfl
                have ended' : (second :: others).getLast? ≠ some wideSegment := by
                  rwa [List.getLast?_cons_cons] at ended
                rcases admits.wide (plains name (by simp)) plains' with
                  ⟨_, later⟩ | ⟨front, back, fresh', rfl, later⟩
                · exact .stop rfl (ih shaped' ended' plains (later.between true))
                · have plains'' : ∀ other ∈ back, slash ∉ other := fun other member =>
                    plains' other (by simp [member])
                  have spans := ih shaped' ended' plains'' later
                  exact (Spans.wide_iff isWideSegment).mpr ⟨name :: front, back, rfl, spans⟩
              · have narrow : segment ≠ wideSegment := by
                  rintro rfl
                  exact single List.infix_rfl
                obtain ⟨fits, fresh', admits⟩ := admits.narrow here.1 single (plains name (by simp))
                have ended' : rest.getLast? ≠ some wideSegment := by
                  intro last
                  apply ended
                  rw [List.getLast?_cons, last]
                  rfl
                exact .name narrow fits (ih shaped' ended' plains' admits)

theorem no_double_slash (filled : ∀ name ∈ names, name ≠ [] ∧ slash ∉ name) (index : Nat)
    (r : List UInt8) : (spelled names).drop index ≠ slash :: slash :: r := by
  induction names generalizing index with
  | nil => simp
  | cons name names ih =>
      obtain ⟨some, plain⟩ := filled name (by simp)
      have unslashed : ∀ {rest others : List UInt8}, rest ≠ [] → rest ⊆ name →
          rest ++ others ≠ slash :: r := by
        intro rest others some inside same
        obtain ⟨d, rest, rfl⟩ := List.exists_cons_of_ne_nil some
        rw [List.cons_append, List.cons.injEq] at same
        exact plain (inside (by simp [same.1]))
      intro doubled
      cases index with
      | zero =>
          rw [List.drop_zero, spelled_cons, List.cons.injEq] at doubled
          exact unslashed some (List.Subset.refl _) doubled.2
      | succ index =>
          rw [spelled_cons, List.drop_succ_cons, List.drop_append] at doubled
          by_cases within : index < name.length
          · have rest : name.drop index ≠ [] := by simpa using within
            obtain ⟨d, more, split⟩ := List.exists_cons_of_ne_nil rest
            rw [split, List.cons_append, List.cons.injEq] at doubled
            exact plain (List.drop_subset index name (by simp [split, doubled.1]))
          · rw [List.drop_eq_nil_of_le (by omega), List.nil_append] at doubled
            exact ih (fun other member => filled other (by simp [member])) _ doubled

/-- A path without empty segments. -/
theorem isFilled_of_shape {path : Octets} (shape : path.toList = spelled names)
    (filled : ∀ name ∈ names, name ≠ [] ∧ slash ∉ name) : IsFilled path := by
  intro index ended fresh
  by_contra positive
  obtain ⟨before, rfl⟩ := Nat.exists_eq_succ_of_ne_zero positive
  obtain ⟨r, second⟩ := isAt_iff.mp ended
  simp only [isFresh, Nat.succ_eq_add_one, Nat.succ_ne_zero, beq_iff_eq, Bool.or_eq_true,
    Bool.and_eq_true, false_or, Nat.add_sub_cancel, isAt_iff] at fresh
  obtain ⟨_, r', first⟩ := fresh
  have next := from_succ first
  rw [Nat.succ_eq_add_one, next] at second
  rw [second, from_, shape] at first
  exact no_double_slash filled before r first

/-- The names of an accepted path fit the segments of the pattern. -/
theorem spans_of_run {glob path : Octets} {fuel : Nat} (isOpen : IsOpen glob)
    (isPattern : IsPattern glob segments) (shape : path.toList = spelled names)
    (filled : ∀ name ∈ names, name ≠ [] ∧ slash ∉ name)
    (accepted : run glob path false fuel {} = true) : SpansOctets segments names := by
  have traces : Traces glob path (SpansOctets segments names) {} := by
    constructor
    · intro admitted
      unfold Admitted at admitted
      rw [from_, from_, List.drop_zero, List.drop_zero, isPattern.shape, shape] at admitted
      exact admitted.spans isPattern.shaped isPattern.ended fun name member =>
        (filled name member).2
    · intro positive
      exact absurd positive (lt_irrefl 0)
    · intro positive
      exact absurd positive (lt_irrefl 0)
    · exact Nat.zero_le _
    · intro same
      cases same
    · intro _
      exact le_rfl
    · exact .inl rfl
  exact traces.run isOpen isPattern (isFilled_of_shape shape filled) accepted

end Segments

end StyleInline.Glob.Braces
