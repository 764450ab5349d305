import Mathlib.Tactic.Ring
import StyleInline.Proofs.WalkSoundness

/-!
# Walks that arrive

A walk goes through a segment for one name if the name fits: whenever it is stuck, it goes back to
the last star, which then takes one octet more, and what it has passed in front of that star need
not be looked at again.
-/

namespace StyleInline.Glob.Braces

/-- From a place on, a walk accepts within some steps. -/
def Accepts (glob path : Octets) (steps : Nat) (spot : Spot) : Prop :=
  ∀ fuel, steps ≤ fuel → run glob path false fuel { spot } = true

section Steps

variable {glob path : Octets} {spot next : Spot} {steps more : Nat}

theorem Accepts.mono (accepts : Accepts glob path steps spot) (le : steps ≤ more) :
    Accepts glob path more spot := fun fuel enough => accepts fuel (le.trans enough)

theorem accepts_ended (isOpen : IsOpen glob) (ended : from_ glob spot.glob = [])
    (ended' : from_ path spot.path = []) : Accepts glob path 1 spot := by
  intro fuel enough
  obtain ⟨fuel, rfl⟩ := Nat.exists_eq_succ_of_ne_zero (show fuel ≠ 0 by omega)
  rw [Nat.succ_eq_add_one, run_succ isOpen,
    if_pos ⟨from_eq_nil_iff.mp ended, from_eq_nil_iff.mp ended'⟩]

theorem accepts_of_next (isOpen : IsOpen glob) (stepped : next? glob path spot = some next)
    (accepts : Accepts glob path steps next) : Accepts glob path (steps + 1) spot := by
  intro fuel enough
  obtain ⟨fuel, rfl⟩ := Nat.exists_eq_succ_of_ne_zero (show fuel ≠ 0 by omega)
  rw [Nat.succ_eq_add_one, run_succ isOpen]
  split
  · rfl
  · rw [stepped]
    exact accepts fuel (by omega)

theorem next?_star {g : List UInt8} (shape : from_ glob spot.glob = star :: g) :
    next? glob path spot = some (spot.starred glob path) := by
  rw [next?, getElem?_from_, shape]
  simp

theorem next?_takes {wanted c : UInt8} {g p : List UInt8} (shape : from_ glob spot.glob = wanted :: g)
    (narrow : wanted ≠ star) (shape' : from_ path spot.path = c :: p) (takes : Takes wanted c) :
    next? glob path spot = some (spot.taken wanted) := by
  simp [next?, getElem?_from_, shape, shape', narrow, takes]

theorem next?_stuck
    (stuck : ∀ wanted g, from_ glob spot.glob = wanted :: g →
      wanted ≠ star ∧ ∀ c p, from_ path spot.path = c :: p → ¬ Takes wanted c)
    (positive : 0 < spot.star.path) (within : spot.star.path ≤ path.size) :
    next? glob path spot = some { spot with glob := spot.star.glob, path := spot.star.path } := by
  have back : spot.back? path = some { spot with glob := spot.star.glob, path := spot.star.path } :=
    if_pos ⟨positive, within⟩
  rw [next?, getElem?_from_, getElem?_from_, ← back]
  cases shape : from_ glob spot.glob with
  | nil => rfl
  | cons wanted g =>
      obtain ⟨narrow, nothing⟩ := stuck wanted g shape
      simp only [List.head?_cons, narrow, if_false]
      cases shape' : from_ path spot.path with
      | nil => rfl
      | cons c p => simp only [List.head?_cons, nothing c p shape', if_false]

end Steps

/-- An octet of a pattern that stands for itself inside of a segment. -/
def IsLiteral (b : UInt8) : Prop := b ≠ star ∧ b ≠ mark ∧ b ≠ slash

instance (b : UInt8) : Decidable (IsLiteral b) := by
  unfold IsLiteral
  infer_instance

def HasLiteral (octets : List UInt8) : Prop := ∃ b ∈ octets, IsLiteral b

instance (octets : List UInt8) : Decidable (HasLiteral octets) := by
  unfold HasLiteral
  infer_instance

@[simp]
theorem not_hasLiteral_nil : ¬ HasLiteral [] := by simp [HasLiteral]

@[simp]
theorem hasLiteral_cons {b : UInt8} {octets : List UInt8} :
    HasLiteral (b :: octets) ↔ IsLiteral b ∨ HasLiteral octets := by simp [HasLiteral]

@[simp]
theorem not_isLiteral_star : ¬ IsLiteral star := fun literal => literal.1 rfl

@[simp]
theorem hasLiteral_append {octets others : List UInt8} :
    HasLiteral (octets ++ others) ↔ HasLiteral octets ∨ HasLiteral others := by
  simp [HasLiteral, or_and_right, exists_or]

def Spot.passed (spot : Spot) (octets : List UInt8) : Spot :=
  { spot with
    glob := spot.glob + octets.length
    path := spot.path + octets.length
    wide := if HasLiteral octets then { spot.wide with path := 0 } else spot.wide }

theorem passed_nil (spot : Spot) : spot.passed [] = spot := by simp [Spot.passed]

theorem passed_cons (spot : Spot) {wanted : UInt8} (narrow : wanted ≠ star)
    (octets : List UInt8) : spot.passed (wanted :: octets) = (spot.taken wanted).passed octets := by
  unfold Spot.passed Spot.taken
  by_cases plain : wanted = mark ∨ wanted = slash
  · have none : ¬ IsLiteral wanted := by
      rintro ⟨_, unmarked, unslashed⟩
      exact plain.elim unmarked unslashed
    simp only [plain, none, hasLiteral_cons, false_or, if_true, List.length_cons, Nat.add_assoc,
      Nat.add_comm 1]
  · have some : IsLiteral wanted := ⟨narrow, not_or.mp plain⟩
    simp only [plain, some, hasLiteral_cons, true_or, if_true, if_false, ite_self,
      List.length_cons, Nat.add_assoc, Nat.add_comm 1]

/-- What is left of a pattern and of a path: no octet is taken, and no star is met. -/
def Stuck (g p : List UInt8) : Prop :=
  ∀ wanted r, g = wanted :: r → wanted ≠ star ∧ ∀ c q, p = c :: q → ¬ Takes wanted c

/-- A comparison octet by octet comes to a star, or it gets stuck. -/
theorem exists_passed (g p : List UInt8) :
    ∃ passed r m q, g = passed ++ r ∧ p = m ++ q ∧ star ∉ passed ∧ List.Forall₂ Takes passed m ∧
      ((∃ r', r = star :: r') ∨ Stuck r q) := by
  induction g generalizing p with
  | nil => exact ⟨[], [], [], p, rfl, rfl, by simp, .nil, .inr fun _ _ none => by cases none⟩
  | cons wanted g ih =>
      by_cases starred : wanted = star
      · exact ⟨[], _, [], p, rfl, rfl, by simp, .nil, .inl ⟨g, by rw [starred]⟩⟩
      have stop : ∀ p, (∀ c q, p = c :: q → ¬ Takes wanted c) → Stuck (wanted :: g) p := by
        rintro p nothing _ _ ⟨⟩
        exact ⟨starred, nothing⟩
      cases p with
      | nil => exact ⟨[], _, [], [], rfl, rfl, by simp, .nil, .inr (stop _ fun _ _ none => by cases none)⟩
      | cons c p =>
          by_cases takes : Takes wanted c
          · obtain ⟨passed, r, m, q, rfl, rfl, unstarred, taken, halt⟩ := ih p
            exact ⟨wanted :: passed, r, c :: m, q, rfl, rfl, by simp [unstarred, Ne.symm starred],
              .cons takes taken, halt⟩
          · refine ⟨[], _, [], _, rfl, rfl, by simp, .nil, .inr (stop _ ?_)⟩
            rintro _ _ ⟨⟩
            exact takes

section Passing

variable {glob path : Octets} {spot : Spot} {steps : Nat} {passed r m q : List UInt8}

theorem from_passed (shape : from_ glob spot.glob = passed ++ r)
    (shape' : from_ path spot.path = m ++ q) (taken : List.Forall₂ Takes passed m) :
    from_ glob (spot.passed passed).glob = r ∧ from_ path (spot.passed passed).path = q := by
  refine ⟨from_add shape, ?_⟩
  have behind := from_add shape'
  rwa [← taken.length_eq] at behind

theorem accepts_of_passed (isOpen : IsOpen glob) (shape : from_ glob spot.glob = passed ++ r)
    (shape' : from_ path spot.path = m ++ q) (unstarred : star ∉ passed)
    (taken : List.Forall₂ Takes passed m) (accepts : Accepts glob path steps (spot.passed passed)) :
    Accepts glob path (steps + passed.length) spot := by
  induction taken generalizing spot with
  | nil =>
      rw [passed_nil] at accepts
      exact accepts
  | @cons wanted c passed m takes taken ih =>
      have narrow : wanted ≠ star := fun starred => unstarred (by simp [starred])
      rw [passed_cons spot narrow] at accepts
      have rest := ih (from_succ shape) (from_succ shape') (fun inside => unstarred (by simp [inside]))
        accepts
      exact accepts_of_next isOpen (next?_takes shape narrow shape' takes) rest

/-- A walk that gets stuck goes back to the last star. -/
theorem accepts_of_stuck (isOpen : IsOpen glob) (shape : from_ glob spot.glob = passed ++ r)
    (shape' : from_ path spot.path = m ++ q) (unstarred : star ∉ passed)
    (taken : List.Forall₂ Takes passed m) (stuck : Stuck r q)
    (positive : 0 < spot.star.path) (within : spot.star.path ≤ path.size)
    (accepts : Accepts glob path steps
      { spot.passed passed with glob := spot.star.glob, path := spot.star.path }) :
    Accepts glob path (steps + passed.length + 1) spot := by
  obtain ⟨here, here'⟩ := from_passed shape shape' taken
  have turn : next? glob path (spot.passed passed) =
      some { spot.passed passed with glob := spot.star.glob, path := spot.star.path } :=
    next?_stuck (by rw [here, here']; exact stuck) positive within
  have back := accepts_of_next isOpen turn accepts
  have whole := accepts_of_passed isOpen shape shape' unstarred taken back
  exact whole.mono (by omega)

end Passing

section Names

variable {t n passed r m q : List UInt8}

theorem matches_passed_iff (unstarred : star ∉ passed) (taken : List.Forall₂ Takes passed m) :
    Matches star mark (passed ++ r) (m ++ q) ↔ Matches star mark r q := by
  induction taken with
  | nil => rfl
  | @cons wanted c passed m takes taken ih =>
      have narrow : wanted ≠ star := fun starred => unstarred (by simp [starred])
      rw [← ih fun inside => unstarred (by simp [inside])]
      exact matches_takes_iff narrow takes

theorem not_matches_of_stuck (plain : slash ∉ q) (stuck : Stuck r q) (left : ¬ (r = [] ∧ q = [])) :
    ¬ Matches star mark r q := by
  intro fits
  cases fits with
  | done => exact left ⟨rfl, rfl⟩
  | @literal c _ _ solid _ =>
      have takes : Takes c c := by rw [Takes, if_neg solid.2]
      exact (stuck _ _ rfl).2 _ _ rfl takes
  | @any c _ _ _ =>
      have takes : Takes mark c := by
        rw [Takes, if_pos rfl]
        rintro rfl
        exact plain (by simp)
      exact (stuck _ _ rfl).2 _ _ rfl takes
  | stop _ => exact (stuck _ _ rfl).1 rfl
  | eat _ => exact (stuck _ _ rfl).1 rfl

/-- Symbols other than stars stand for as many octets. -/
theorem exists_of_matches_append (unstarred : star ∉ passed)
    (fits : Matches star mark (passed ++ r) n) :
    ∃ m q, n = m ++ q ∧ m.length = passed.length ∧ Matches star mark r q := by
  induction passed generalizing n with
  | nil => exact ⟨[], n, rfl, rfl, fits⟩
  | cons wanted passed ih =>
      have step : ∃ c n', n = c :: n' ∧ Matches star mark (passed ++ r) n' := by
        cases fits with
        | literal _ rest => exact ⟨_, _, rfl, rest⟩
        | any rest => exact ⟨_, _, rfl, rest⟩
        | stop _ => exact absurd (by simp) unstarred
        | eat _ => exact absurd (by simp) unstarred
      obtain ⟨c, n', rfl, rest⟩ := step
      obtain ⟨m, q, rfl, length, fits⟩ := ih (fun inside => unstarred (by simp [inside])) rest
      exact ⟨c :: m, q, rfl, by simp [length], fits⟩

/-- Whatever a star could stand for, another one behind it makes up for where it is met first. -/
theorem matches_star_of_passed (unstarred : star ∉ passed) (taken : List.Forall₂ Takes passed m)
    (fits : Matches star mark (star :: (passed ++ star :: r)) (m ++ q)) :
    Matches star mark (star :: r) q := by
  obtain ⟨front, back, split, rest⟩ := Matches.star_iff.mp fits
  obtain ⟨m', q', rfl, length, behind⟩ := exists_of_matches_append unstarred rest
  have ends : q' <:+ m ++ q := ⟨front ++ m', by rw [split, List.append_assoc]⟩
  have isSuffix : q' <:+ q := by
    apply List.suffix_of_suffix_length_le ends (List.suffix_append m q)
    have lengths := congrArg List.length split
    simp only [List.length_append, length, taken.length_eq] at lengths
    omega
  obtain ⟨between, rfl⟩ := isSuffix
  obtain ⟨front', back', rfl, fits'⟩ := Matches.star_iff.mp behind
  exact Matches.star_iff.mpr ⟨between ++ front', back', by simp, fits'⟩

/-- What is stuck inside of a segment and a name is so whatever follows them. -/
theorem Stuck.behind (stuck : Stuck r q) (plain : slash ∉ r) (plain' : slash ∉ q)
    (left : ¬ (r = [] ∧ q = [])) (segments names : List (List UInt8)) :
    Stuck (r ++ spelled segments) (q ++ spelled names) := by
  intro wanted r' shape
  cases r with
  | nil =>
      obtain rfl := eq_slash_of_spelled shape
      refine ⟨by decide, ?_⟩
      cases q with
      | nil => exact absurd ⟨rfl, rfl⟩ left
      | cons c q =>
          rintro _ _ ⟨⟩ takes
          rw [slash_takes] at takes
          exact plain' (by simp [takes])
  | cons wanted r =>
      rw [List.cons_append, List.cons.injEq] at shape
      obtain ⟨rfl, rfl⟩ := shape
      obtain ⟨narrow, nothing⟩ := stuck _ _ rfl
      refine ⟨narrow, ?_⟩
      cases q with
      | cons c q =>
          rintro _ _ ⟨⟩
          exact nothing c q rfl
      | nil =>
          intro c p follows takes
          obtain rfl := eq_slash_of_spelled follows
          rw [takes_slash] at takes
          exact plain (by simp [takes])

end Names

/-- A walk is inside of a segment and of a name, in front of others. -/
structure Stands (glob path : Octets) (segments names : List (List UInt8)) (t n : List UInt8)
    (spot : Spot) : Prop where
  glob_eq : from_ glob spot.glob = t ++ spelled segments
  path_eq : from_ path spot.path = n ++ spelled names

/-- A walk has passed some octets; what it could go back to for whole segments is forgotten if one
of them was a literal. -/
def Spot.Keeps (spot : Spot) (passed : List UInt8) (later : Spot) : Prop :=
  later.wide.path = 0 ∨ later.wide.path = spot.wide.path ∧ ¬ HasLiteral passed

structure AreWithin (t n : List UInt8) : Prop where
  plain : slash ∉ t
  plain' : slash ∉ n
  single : ¬ [star, star] <:+: t

theorem AreWithin.behind {passed t m n : List UInt8} (within : AreWithin (passed ++ t) (m ++ n)) :
    AreWithin t n where
  plain inside := within.plain (by simp [inside])
  plain' inside := within.plain' (by simp [inside])
  single isInfix := within.single (isInfix.trans (List.suffix_append passed t).isInfix)

theorem AreWithin.tail {t n : List UInt8} {c : UInt8} (within : AreWithin t (c :: n)) :
    AreWithin t n := @AreWithin.behind [] t [c] n within

theorem AreWithin.behind_star {passed t m n : List UInt8}
    (within : AreWithin (star :: (passed ++ t)) (m ++ n)) : AreWithin t n := by
  rw [← List.cons_append] at within
  exact within.behind

section Keeps

variable {spot later last : Spot} {passed t : List UInt8}

theorem keeps_passed (spot : Spot) (passed : List UInt8) : spot.Keeps passed (spot.passed passed) := by
  unfold Spot.Keeps Spot.passed
  by_cases literal : HasLiteral passed
  · simp [literal]
  · simp [literal]

theorem Spot.Keeps.trans (keeps : spot.Keeps passed later) (keeps' : later.Keeps t last) :
    spot.Keeps (passed ++ t) last := by
  unfold Keeps at *
  rcases keeps' with none | ⟨same, plain⟩
  · exact .inl none
  rcases keeps with none | ⟨same', plain'⟩
  · exact .inl (same.trans none)
  · exact .inr ⟨same.trans same', by simp [plain, plain']⟩

theorem Spot.Keeps.zero (keeps : spot.Keeps passed later) (none : spot.wide.path = 0) :
    later.wide.path = 0 := keeps.elim id fun same => same.1.trans none

end Keeps

section Segments

variable {glob path : Octets} {segments names : List (List UInt8)} {spot : Spot} {k : Nat}
variable {segment name t n : List UInt8}

theorem Stands.passed {passed r m q : List UInt8}
    (stands : Stands glob path segments names (passed ++ r) (m ++ q) spot)
    (taken : List.Forall₂ Takes passed m) : Stands glob path segments names r q (spot.passed passed) := by
  obtain ⟨here, here'⟩ := from_passed (by rw [stands.glob_eq, List.append_assoc])
    (by rw [stands.path_eq, List.append_assoc]) taken
  exact ⟨here, here'⟩

theorem Stands.within_size {c : UInt8} (stands : Stands glob path segments names t (c :: n) spot) :
    spot.path + 1 ≤ path.size := lt_size_of_from_ stands.path_eq

theorem isAt_slash_iff (plain : slash ∉ n) (stands : Stands glob path segments names t n spot) :
    isAt path spot.path '/' = true ↔ n = [] ∧ names ≠ [] := by
  rw [isAt_iff, stands.path_eq]
  constructor
  · rintro ⟨r, shape⟩
    cases n with
    | nil => exact ⟨rfl, by rintro rfl; cases shape⟩
    | cons c n =>
        rw [List.cons_append, List.cons.injEq] at shape
        exact absurd (show slash ∈ c :: n by simp [shape.1]) plain
  · rintro ⟨rfl, some⟩
    obtain ⟨name, others, rfl⟩ := List.exists_cons_of_ne_nil some
    exact ⟨_, rfl⟩

theorem Stands.single (within : AreWithin (star :: t) n)
    (stands : Stands glob path segments names (star :: t) n spot) :
    isAt glob (spot.glob + 1) '*' = false := by
  rw [← Bool.not_eq_true, isAt_iff, from_succ stands.glob_eq]
  rintro ⟨r, shape⟩
  cases t with
  | nil => exact not_star_spelled shape
  | cons b t =>
      rw [List.append_eq, List.cons_append, List.cons.injEq] at shape
      refine within.single ⟨[], t, ?_⟩
      rw [shape.1]
      rfl

theorem steps_to_star (passed t q : Nat) :
    (t + 2) * (q + 1) + passed + 1 ≤ (passed + (t + 1) + 2) * (passed + q + 1) := by
  have expand : (passed + (t + 1) + 2) * (passed + q + 1) =
      (t + 2) * (q + 1) + passed + 1 + ((t + 2) * passed + passed * (passed + q + 1) + q) := by ring
  omega

theorem steps_to_segment (t n front back : Nat) :
    (front + 1) * (back + 1) + (t + 2) * (n + 1) + 1 ≤ (t + front + 1 + 1) * (n + back + 1 + 1) := by
  have expand : (t + front + 1 + 1) * (n + back + 1 + 1) =
      (front + 1) * (back + 1) + (t + 2) * (n + 1) + 1 + (t + t * back + back + front * (n + 1)) := by
    ring
  omega

/-- A beginning of a segment, without a star, was passed along a beginning of a name. -/
structure Along (t n passed r m q : List UInt8) : Prop where
  split : t = passed ++ r
  split' : n = m ++ q
  unstarred : star ∉ passed
  taken : List.Forall₂ Takes passed m

/-- Behind a star, the walk comes to the next star, or to the end of the segment and of the name, or
the star takes one octet more. -/
theorem accepts_trying (isOpen : IsOpen glob) (within : AreWithin (star :: t) n)
    (stands : Stands glob path segments names (star :: t) n spot)
    (inside : isAt path spot.path '/' = false) (some : ¬ Matches star mark t n → n ≠ [])
    (meets : ∀ {passed r m q later}, Along t n passed (star :: r) m q →
      Stands glob path segments names (star :: r) q later → later.path = spot.path + passed.length →
        later.wide = (spot.passed passed).wide →
          Accepts glob path (k + (r.length + 2) * (q.length + 1)) later)
    (arrives : ∀ {later}, Along t n t [] n [] → Stands glob path segments names [] [] later →
      later.star = ⟨spot.glob, spot.path + 1⟩ → later.wide = (spot.passed t).wide →
        Accepts glob path (k + (t.length + 2) * n.length + 1) later)
    (again : ∀ {passed r m q c rest later}, Along t n passed r m q → ¬ Matches star mark t n →
      n = c :: rest → Stands glob path segments names (star :: t) rest later →
        later.path = spot.path + 1 → later.wide = (spot.passed passed).wide →
          Accepts glob path (k + (t.length + 2) * (rest.length + 1)) later) :
    Accepts glob path (k + (t.length + 2) * (n.length + 1)) spot := by
  let on : Spot := { spot with star := ⟨spot.glob, spot.path + 1⟩, glob := spot.glob + 1 }
  have step : next? glob path spot = .some on :=
    (next?_star stands.glob_eq).trans (congrArg _ (starred_on (stands.single within) inside))
  have standsOn : Stands glob path segments names t n on := ⟨from_succ stands.glob_eq, stands.path_eq⟩
  obtain ⟨passed, r, m, q, rfl, rfl, unstarred, taken, halt⟩ := exists_passed t n
  have along : Along (passed ++ r) (m ++ q) passed r m q := ⟨rfl, rfl, unstarred, taken⟩
  have behind : AreWithin r q := within.behind_star
  have shape : from_ glob on.glob = passed ++ (r ++ spelled segments) := by
    rw [standsOn.glob_eq, List.append_assoc]
  have shape' : from_ path on.path = m ++ (q ++ spelled names) := by
    rw [standsOn.path_eq, List.append_assoc]
  have go : ∀ {steps}, Accepts glob path steps (on.passed passed) →
      Accepts glob path (steps + passed.length + 1) spot := fun accepts =>
    accepts_of_next isOpen step (accepts_of_passed isOpen shape shape' unstarred taken accepts)
  have length := taken.length_eq
  rcases halt with ⟨t', rfl⟩ | stuck
  · refine (go (meets along (standsOn.passed taken) rfl rfl)).mono ?_
    have bound := steps_to_star passed.length t'.length q.length
    simp only [List.length_append, List.length_cons, ← length]
    omega
  by_cases done : r = [] ∧ q = []
  · obtain ⟨rfl, rfl⟩ := done
    simp only [List.append_nil] at along arrives ⊢
    refine (go (arrives along (standsOn.passed taken) rfl rfl)).mono ?_
    rw [Nat.mul_add _ m.length, Nat.mul_one]
    omega
  · have misfit : ¬ Matches star mark (passed ++ r) (m ++ q) := by
      rw [matches_passed_iff unstarred taken]
      exact not_matches_of_stuck behind.plain' stuck done
    obtain ⟨c, rest, name⟩ := List.exists_cons_of_ne_nil (some misfit)
    rw [name] at stands
    let more : Spot := { on.passed passed with glob := spot.glob, path := spot.path + 1 }
    have standsMore : Stands glob path segments names (star :: (passed ++ r)) rest more :=
      ⟨stands.glob_eq, from_succ stands.path_eq⟩
    have back := accepts_of_stuck isOpen shape shape' unstarred taken
      (stuck.behind behind.plain behind.plain' done segments names) (Nat.succ_pos _) stands.within_size
      (again along misfit name standsMore rfl rfl)
    refine (accepts_of_next isOpen step back).mono ?_
    rw [name, List.length_cons, Nat.mul_add _ (rest.length + 1), Nat.mul_one, List.length_append]
    omega

/-- At a star whose segment the rest of a name fits, the walk comes to the end of both. -/
theorem accepts_starred (isOpen : IsOpen glob) (within : AreWithin (star :: t) n)
    (fits : Matches star mark (star :: t) n)
    (stands : Stands glob path segments names (star :: t) n spot)
    (calm : spot.wide.path = 0 ∨ names = [] ∨ HasLiteral t)
    (arrives : ∀ later, Stands glob path segments names [] [] later → spot.Keeps t later →
      Accepts glob path k later) :
    Accepts glob path (k + (t.length + 2) * (n.length + 1)) spot := by
  induction size : t.length + n.length using Nat.strong_induction_on generalizing t n spot with
  | _ size ih =>
  subst size
  by_cases ended : isAt path spot.path '/' = true
  · -- the star has come to a separator: nothing but the end of the segment is behind it
    obtain ⟨rfl, some⟩ := (isAt_slash_iff within.plain' stands).mp ended
    have rest : Matches star mark t [] := by
      cases fits with
      | stop rest => exact rest
    have none : t = [] := by
      cases rest with
      | done => rfl
      | stop _ => exact absurd ⟨[], _, rfl⟩ within.single
    subst none
    have lost : spot.wide.path = 0 := by simpa [some] using calm
    have step := starred_drop (stands.single within) ended (by omega) (by omega)
    have arrived := arrives { spot with star := ⟨spot.glob, 0⟩, glob := spot.glob + 1 }
      ⟨from_succ stands.glob_eq, stands.path_eq⟩ (.inl lost)
    refine (accepts_of_next isOpen ((next?_star stands.glob_eq).trans (congrArg _ step)) arrived).mono ?_
    simp only [List.length_nil]
    omega
  have eaten : ¬ Matches star mark t n → ∃ c rest, n = c :: rest ∧ Matches star mark (star :: t) rest := by
    intro misfit
    cases fits with
    | literal solid _ => exact absurd rfl solid.1
    | stop rest => exact absurd rest misfit
    | eat rest => exact ⟨_, _, rfl, rest⟩
  have keeps : ∀ {passed later}, later.wide = (spot.passed passed).wide → spot.Keeps passed later := by
    intro passed later same
    rw [Spot.Keeps, same]
    exact keeps_passed spot passed
  refine accepts_trying isOpen within stands (by simpa using ended) ?_ ?_ ?_ ?_
  · rintro misfit rfl
    obtain ⟨_, _, none, _⟩ := eaten misfit
    cases none
  · -- the next star takes over
    rintro passed r m q later ⟨rfl, rfl, unstarred, taken⟩ standsLater _ wide
    have kept := keeps wide
    apply ih (r.length + q.length) (by simp; omega) within.behind_star
      (matches_star_of_passed unstarred taken fits) standsLater ?_ ?_ rfl
    · rcases calm with none | last | literal
      · exact .inl (kept.zero none)
      · exact .inr (.inl last)
      · rcases kept with none | ⟨_, plain⟩
        · exact .inl none
        · exact .inr (.inr (by simpa [plain] using literal))
    · intro last arrived kept'
      exact arrives last arrived (kept.trans (by simpa [Spot.Keeps] using kept'))
  · intro later _ standsLater _ wide
    exact (arrives later standsLater (keeps wide)).mono (by omega)
  · -- the star takes one octet more
    rintro passed r m q c rest later ⟨rfl, _, _, _⟩ misfit rfl standsLater _ wide
    obtain ⟨_, _, same, fits'⟩ := eaten misfit
    cases same
    have kept := keeps wide
    apply ih ((passed ++ r).length + rest.length) (by simp) within.tail fits' standsLater ?_ ?_ rfl
    · rcases calm with none | last | literal
      · exact .inl (kept.zero none)
      · exact .inr (.inl last)
      · exact .inr (.inr literal)
    · intro last arrived kept'
      refine arrives last arrived ?_
      rcases kept' with none | ⟨same, plain⟩
      · exact .inl none
      · rcases kept with none | ⟨same', _⟩
        · exact .inl (same.trans none)
        · exact .inr ⟨same.trans same', plain⟩

/-- From the start of a segment which a name fits, the walk comes to the end of both. -/
theorem accepts_segment (isOpen : IsOpen glob) (within : AreWithin t n) (fits : Matches star mark t n)
    (stands : Stands glob path segments names t n spot)
    (calm : spot.wide.path = 0 ∨ names = [] ∨ HasLiteral t ∨ star ∉ t)
    (arrives : ∀ later, Stands glob path segments names [] [] later → spot.Keeps t later →
      Accepts glob path k later) :
    Accepts glob path (k + (t.length + 2) * (n.length + 1)) spot := by
  obtain ⟨passed, r, m, q, rfl, rfl, unstarred, taken, halt⟩ := exists_passed t n
  have keeps := keeps_passed spot passed
  have rest := (matches_passed_iff unstarred taken).mp fits
  have behind := within.behind
  have go : ∀ {steps}, Accepts glob path steps (spot.passed passed) →
      Accepts glob path (steps + passed.length) spot :=
    accepts_of_passed isOpen (by rw [stands.glob_eq, List.append_assoc])
      (by rw [stands.path_eq, List.append_assoc]) unstarred taken
  rcases halt with ⟨t', rfl⟩ | stuck
  · have calmed : (spot.passed passed).wide.path = 0 ∨ names = [] ∨ HasLiteral t' := by
      rcases calm with none | last | literal | free
      · exact .inl (keeps.zero none)
      · exact .inr (.inl last)
      · rcases keeps with none | ⟨_, plain⟩
        · exact .inl none
        · exact .inr (.inr (by simpa [plain] using literal))
      · exact absurd (by simp) free
    have again := accepts_starred isOpen behind rest (stands.passed taken) calmed
      fun later arrived kept =>
        arrives later arrived (keeps.trans (by simpa [Spot.Keeps] using kept))
    refine (go again).mono ?_
    simp only [List.length_append, List.length_cons, ← taken.length_eq]
    have bound := steps_to_star passed.length t'.length q.length
    omega
  · have done : r = [] ∧ q = [] := by
      by_contra left
      exact not_matches_of_stuck behind.plain' stuck left rest
    obtain ⟨rfl, rfl⟩ := done
    refine (go (arrives _ (stands.passed taken) (by simpa using keeps))).mono ?_
    simp only [List.append_nil, ← taken.length_eq]
    have product := Nat.mul_le_mul_left (passed.length + 2) (show 1 ≤ passed.length + 1 by omega)
    omega

/-- From the separator in front of segments which as many names fit, the walk comes to what is
behind them. -/
theorem accepts_segments (isOpen : IsOpen glob) {front back : List (List UInt8)}
    (fits : List.Forall₂ (Matches star mark) front back)
    (within : List.Forall₂ AreWithin front back)
    (stands : Stands glob path segments names (spelled front) (spelled back) spot)
    (calm : spot.wide.path = 0 ∨ ∀ segment ∈ front, star ∉ segment)
    (arrives : ∀ later, Stands glob path segments names [] [] later →
      (spot.wide.path = 0 → later.wide.path = 0) → Accepts glob path k later) :
    Accepts glob path (k + ((spelled front).length + 1) * ((spelled back).length + 1)) spot := by
  induction fits generalizing spot with
  | nil => exact (arrives spot stands id).mono (by omega)
  | @cons segment name front back fit fits ih =>
      obtain ⟨here, within⟩ := List.forall₂_cons.mp within
      have shape : from_ glob spot.glob = slash :: (segment ++ spelled (front ++ segments)) := by
        rw [stands.glob_eq, spelled_cons, spelled_append]
        simp
      have shape' : from_ path spot.path = slash :: (name ++ spelled (back ++ names)) := by
        rw [stands.path_eq, spelled_cons, spelled_append]
        simp
      have step := next?_takes shape (by decide) shape' (slash_takes.mpr rfl)
      have kept : (spot.taken slash).wide = spot.wide := by simp [Spot.taken]
      have inside : Accepts glob path
          (k + ((spelled front).length + 1) * ((spelled back).length + 1) +
            (segment.length + 2) * (name.length + 1)) (spot.taken slash) := by
        refine accepts_segment isOpen here fit ⟨from_succ shape, from_succ shape'⟩ ?_ ?_
        · rw [kept]
          exact calm.imp_right fun free => .inr (.inr (free segment (by simp)))
        · intro later arrived keeps
          rw [Spot.Keeps, kept] at keeps
          refine ih within ?_ ?_ ?_
          · refine ⟨?_, ?_⟩
            · rw [arrived.glob_eq, List.nil_append, spelled_append]
            · rw [arrived.path_eq, List.nil_append, spelled_append]
          · rcases calm with none | free
            · exact .inl (keeps.elim id fun same => same.1.trans none)
            · exact .inr fun other member => free other (by simp [member])
          · intro last ended zero
            exact arrives last ended fun none =>
              zero (keeps.elim id fun same => same.1.trans none)
      refine (accepts_of_next isOpen step inside).mono ?_
      simp only [spelled_cons, List.length_cons, List.length_append]
      have bound := steps_to_segment segment.length name.length (spelled front).length
        (spelled back).length
      omega

end Segments

end StyleInline.Glob.Braces
