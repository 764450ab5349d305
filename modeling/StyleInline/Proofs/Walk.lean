import StyleInline.Proofs.Octets

/-!
# The walk through a pattern without brackets

Where a pattern has no brackets and no backslash, a walk stays outside of braces, and what it does
next is told by the place where it is: it passes a star, takes an octet, or goes back to the last
star.
-/

namespace StyleInline.Glob.Braces

def from_ (octets : Octets) (index : Nat) : List UInt8 := octets.toList.drop index

section Places

variable {octets : Octets} {index : Nat} {b : UInt8} {rest : List UInt8}

theorem getElem?_from_ (octets : Octets) (index : Nat) : octets[index]? = (from_ octets index).head? := by
  rw [from_, List.head?_drop, ← Array.getElem?_toList]

theorem from_succ (spelled : from_ octets index = b :: rest) : from_ octets (index + 1) = rest := by
  rw [from_, ← List.drop_drop]
  unfold from_ at spelled
  rw [spelled]
  rfl

theorem from_add {front : List UInt8} (spelled : from_ octets index = front ++ rest) :
    from_ octets (index + front.length) = rest := by
  rw [from_, ← List.drop_drop]
  unfold from_ at spelled
  rw [spelled, List.drop_left]

theorem from_eq_nil_iff : from_ octets index = [] ↔ octets.size ≤ index := by
  rw [from_, List.drop_eq_nil_iff, Array.length_toList]

theorem lt_size_of_from_ (spelled : from_ octets index = b :: rest) : index < octets.size := by
  rw [← not_le, ← from_eq_nil_iff, spelled]
  simp

theorem isAt_iff {c : Char} : isAt octets index c = true ↔ ∃ rest, from_ octets index = octet c :: rest := by
  rw [isAt, getElem?_from_, beq_iff_eq, List.head?_eq_some_iff]

end Places

/-- An octet of a pattern, not a star, takes an octet of a path. -/
def Takes (wanted c : UInt8) : Prop := if wanted = mark then c ≠ slash else wanted = c

instance (wanted c : UInt8) : Decidable (Takes wanted c) := by
  unfold Takes
  infer_instance

def Spot.taken (spot : Spot) (wanted : UInt8) : Spot :=
  { spot with
    glob := spot.glob + 1
    path := spot.path + 1
    wide := if wanted = mark ∨ wanted = slash then spot.wide else { spot.wide with path := 0 } }

def Spot.back? (path : Octets) (spot : Spot) : Option Spot :=
  if 0 < spot.star.path ∧ spot.star.path ≤ path.size then
    some { spot with glob := spot.star.glob, path := spot.star.path }
  else none

def Spot.starred (glob path : Octets) (spot : Spot) : Spot :=
  let isWide := isAt glob (spot.glob + 1) '*'
  let index := if isWide then skipRepeated glob glob.size (spot.glob + 2) - 2 else spot.glob
  let spot := { spot with star := ⟨index, spot.path + 1⟩ }
  endStar path
    (if isWide then wideStar glob path { spot with glob := index + 2 }
    else { spot with glob := index + 1 })

/-- The next place of a walk outside of braces. -/
def next? (glob path : Octets) (spot : Spot) : Option Spot :=
  match glob[spot.glob]? with
  | none => spot.back? path
  | some wanted =>
    if wanted = star then some (spot.starred glob path)
    else
      match path[spot.path]? with
      | none => spot.back? path
      | some c => if Takes wanted c then some (spot.taken wanted) else spot.back? path

/-- A pattern without brackets and backslashes. -/
def IsOpen (glob : Octets) : Prop :=
  ∀ b ∈ glob.toList, b ≠ octet '[' ∧ b ≠ octet '{' ∧ b ≠ octet '\\'

section Steps

variable {glob path : Octets} {spot : Spot}

theorem stepStar_open (glob path : Octets) (spot : Spot) :
    stepStar glob path { spot } = .continue { spot := spot.starred glob path } := by
  simp only [stepStar, List.isEmpty_nil, Bool.not_true, Bool.false_and, Bool.false_eq_true, if_false]
  rfl

theorem goBack?_open (glob path : Octets) (spot : Spot) :
    goBack? glob path { spot } = .ok ((spot.back? path).map fun spot => { spot }) := by
  simp only [goBack?, backToStar?, Spot.back?]
  by_cases back : 0 < spot.star.path ∧ spot.star.path ≤ path.size <;> simp [back]

/-- Where an octet of the pattern is no bracket, it takes an octet of the path or the walk is stuck. -/
theorem stepPlain_open {wanted c : UInt8} (found : glob[spot.glob]? = some wanted)
    (solid : wanted ≠ octet '[' ∧ wanted ≠ octet '{' ∧ wanted ≠ octet '\\') :
    step.stepPlain glob { spot } wanted (some c) =
      if Takes wanted c then .continue { spot := spot.taken wanted } else .stuck { spot } := by
  unfold step.stepPlain Takes Spot.taken
  by_cases marked : wanted = mark
  · by_cases slashed : c = slash <;> simp [marked, slashed]
  · have read : literal? glob spot.glob = some (wanted, spot.glob) := by
      simp [literal?, isAt, found, solid.2.2]
    simp only [beq_iff_eq, marked, solid.1, solid.2.1, if_false, stepLiteral, read]
    by_cases same : wanted = c
    · subst same
      by_cases slashed : wanted = slash <;> simp [slashed]
    · simp [same]

theorem step_open (isOpen : IsOpen glob) (spot : Spot) :
    step glob path { spot } =
      match glob[spot.glob]? with
      | none => .stuck { spot }
      | some wanted =>
        if wanted = star then .continue { spot := spot.starred glob path }
        else
          match path[spot.path]? with
          | none => .stuck { spot }
          | some c => if Takes wanted c then .continue { spot := spot.taken wanted } else .stuck { spot } := by
  unfold step
  dsimp only
  cases found : glob[spot.glob]? with
  | none => rfl
  | some wanted =>
      have member : wanted ∈ glob.toList := by
        rw [← Array.getElem?_toList] at found
        exact List.mem_of_getElem? found
      dsimp only
      by_cases starred : wanted = star
      · simp only [starred, beq_self_eq_true, if_true, stepStar_open]
      · simp only [beq_iff_eq, starred, if_false]
        cases path[spot.path]? with
        | none => rfl
        | some c => exact stepPlain_open found (isOpen wanted member)

/-- A walk that is stuck outside of braces goes on at the place that it goes back to. -/
theorem run_goBack? (fuel : Nat) (spot : Spot) :
    (match goBack? glob path { spot } with
      | .error _ => false
      | .ok none => false
      | .ok (some walk) => run glob path false fuel walk) =
      match spot.back? path with
      | none => false
      | some next => run glob path false fuel { spot := next } := by
  rw [goBack?_open]
  cases spot.back? path <;> rfl

/-- Outside of braces, a walk goes from place to place. -/
theorem run_succ (isOpen : IsOpen glob) (fuel : Nat) (spot : Spot) :
    run glob path false (fuel + 1) { spot } =
      if glob.size ≤ spot.glob ∧ path.size ≤ spot.path then true
      else
        match next? glob path spot with
        | none => false
        | some next => run glob path false fuel { spot := next } := by
  rw [run]
  simp only [Bool.and_eq_true, decide_eq_true_eq, Bool.not_false]
  split
  · rfl
  rw [step_open isOpen, next?]
  cases glob[spot.glob]? with
  | none => exact run_goBack? fuel spot
  | some wanted =>
      dsimp only
      by_cases starred : wanted = star
      · simp only [starred, if_true]
      · simp only [starred, if_false]
        cases path[spot.path]? with
        | none => exact run_goBack? fuel spot
        | some c =>
            by_cases takes : Takes wanted c
            · simp only [takes, if_true]
            · simp only [takes, if_false]
              exact run_goBack? fuel spot

end Steps

/-- The octets of a pattern or a path with some segments. -/
def spelled (segments : List (List UInt8)) : List UInt8 :=
  segments.flatMap fun segment => slash :: segment

def wideSegment : List UInt8 := [star, star]

/-- Octets between separators, in which two stars stand for any number of names or not at all. -/
def IsSegment (segment : List UInt8) : Prop :=
  slash ∉ segment ∧ (segment = wideSegment ∨ ¬ [star, star] <:+: segment)

section Shapes

variable {segment front back r : List UInt8} {segments before rest : List (List UInt8)}

@[simp]
theorem spelled_nil : spelled [] = [] := rfl

theorem spelled_cons (segment : List UInt8) (segments : List (List UInt8)) :
    spelled (segment :: segments) = slash :: (segment ++ spelled segments) := rfl

@[simp]
theorem spelled_append (before rest : List (List UInt8)) :
    spelled (before ++ rest) = spelled before ++ spelled rest := List.flatMap_append

/-- What follows a segment is nothing or a separator. -/
theorem spelled_cases (segments : List (List UInt8)) :
    spelled segments = [] ∨ ∃ r, spelled segments = slash :: r := by
  cases segments with
  | nil => exact .inl rfl
  | cons segment rest => exact .inr ⟨_, rfl⟩

theorem eq_slash_of_spelled {c : UInt8} (follows : spelled segments = c :: r) : c = slash := by
  rcases spelled_cases segments with none | ⟨_, slashed⟩
  · rw [none] at follows
    cases follows
  · rw [slashed, List.cons.injEq] at follows
    exact follows.1.symm

theorem not_star_spelled : spelled segments ≠ star :: r := fun follows =>
  absurd (eq_slash_of_spelled follows) (by decide)

/-- Two stars in a row are a whole segment. -/
theorem eq_wide_of_stars (shaped : IsSegment (front ++ back))
    (stars : back ++ spelled segments = star :: star :: r) :
    front = [] ∧ back = wideSegment ∧ r = spelled segments := by
  cases back with
  | nil => exact absurd stars not_star_spelled
  | cons b back =>
      rw [List.cons_append, List.cons.injEq] at stars
      obtain ⟨rfl, stars⟩ := stars
      cases back with
      | nil => exact absurd stars not_star_spelled
      | cons b back =>
          rw [List.cons_append, List.cons.injEq] at stars
          obtain ⟨rfl, stars⟩ := stars
          rcases shaped.2 with isWide | single
          · have length := congrArg List.length isWide
            simp only [List.length_append, List.length_cons, wideSegment, List.length_nil] at length
            have none : front = [] ∧ back = [] := by
              constructor <;> apply List.eq_nil_of_length_eq_zero <;> omega
            obtain ⟨rfl, rfl⟩ := none
            exact ⟨rfl, rfl, stars.symm⟩
          · exact absurd ⟨front, back, by simp⟩ single

/-- Two stars in a row stand at the start of a segment. -/
theorem exists_wide_of_stars (shaped : ∀ segment ∈ segments, IsSegment segment) {index : Nat}
    (stars : (spelled segments).drop index = star :: star :: r) :
    ∃ before after, segments = before ++ wideSegment :: after ∧
      index = (spelled before).length + 1 ∧ r = spelled after := by
  induction segments generalizing index with
  | nil => simp at stars
  | cons segment segments ih =>
      have later := @ih fun other member => shaped other (by simp [member])
      cases index with
      | zero =>
          rw [List.drop_zero, spelled_cons, List.cons.injEq] at stars
          exact absurd stars.1 (by decide)
      | succ index =>
          rw [spelled_cons, List.drop_succ_cons, List.drop_append] at stars
          by_cases within : index < segment.length
          · have rest : index - segment.length = 0 := by omega
            rw [rest, List.drop_zero] at stars
            have whole : IsSegment (segment.take index ++ segment.drop index) := by
              rw [List.take_append_drop]
              exact shaped segment (by simp)
            obtain ⟨none, isWide, same⟩ := eq_wide_of_stars whole stars
            have start : index = 0 := by
              rcases List.take_eq_nil_iff.mp none with start | empty
              · exact start
              · simp [empty] at within
            subst start
            rw [List.drop_zero] at isWide
            exact ⟨[], segments, by rw [isWide]; rfl, rfl, same⟩
          · rw [List.drop_eq_nil_of_le (by omega), List.nil_append] at stars
            obtain ⟨before, after, rfl, place, same⟩ := later stars
            refine ⟨segment :: before, after, rfl, ?_, same⟩
            simp only [spelled_cons, List.length_cons, List.length_append]
            omega

theorem exists_run (segments : List (List UInt8)) :
    ∃ k rest, segments = List.replicate k wideSegment ++ rest ∧ rest.head? ≠ some wideSegment := by
  induction segments with
  | nil => exact ⟨0, [], rfl, by simp⟩
  | cons segment segments ih =>
      by_cases isWide : segment = wideSegment
      · obtain ⟨k, rest, rfl, other⟩ := ih
        exact ⟨k + 1, rest, by rw [isWide]; rfl, other⟩
      · exact ⟨0, segment :: segments, rfl, by simpa using isWide⟩

theorem length_run (k : Nat) : (spelled (List.replicate k wideSegment)).length = 3 * k := by
  induction k with
  | zero => rfl
  | succ k ih =>
      rw [List.replicate_succ, spelled_cons, List.length_cons, List.length_append, ih]
      simp only [wideSegment, List.length_cons, List.length_nil]
      omega

end Shapes

section Stars

variable {glob path : Octets} {before rest : List (List UInt8)}

theorem isRepeated_iff (glob : Octets) (index : Nat) :
    (isAt glob index '/' && isAt glob (index + 1) '*' && isAt glob (index + 2) '*') = true ↔
      ∃ r, from_ glob index = slash :: star :: star :: r := by
  simp only [Bool.and_eq_true, isAt_iff]
  constructor
  · rintro ⟨⟨⟨_, first⟩, _, second⟩, r, third⟩
    have behind := from_succ first
    rw [behind] at second
    have behind' := from_succ (behind.trans second)
    rw [third] at behind'
    exact ⟨r, by rw [first, second, ← behind']⟩
  · rintro ⟨r, shape⟩
    have second := from_succ shape
    exact ⟨⟨⟨_, shape⟩, _, second⟩, _, from_succ second⟩

/-- Repetitions of `/**` are left out, and nothing else. -/
theorem skipRepeated_eq {k fuel index : Nat} (shaped : ∀ segment ∈ rest, IsSegment segment)
    (last : rest.head? ≠ some wideSegment) (enough : k ≤ fuel)
    (shape : from_ glob index = spelled (List.replicate k wideSegment ++ rest)) :
    skipRepeated glob fuel index = index + 3 * k := by
  induction k generalizing fuel index with
  | zero =>
      cases fuel with
      | zero => rfl
      | succ fuel =>
          rw [skipRepeated, if_neg]
          · rfl
          rw [isRepeated_iff]
          rintro ⟨r, stars⟩
          rw [List.replicate_zero, List.nil_append] at shape
          rw [shape] at stars
          cases rest with
          | nil => cases stars
          | cons segment rest =>
              rw [spelled_cons, List.cons.injEq] at stars
              have whole : IsSegment ([] ++ segment) := shaped segment (by simp)
              obtain ⟨_, isWide, _⟩ := eq_wide_of_stars whole stars.2
              exact last (by rw [isWide]; rfl)
  | succ k ih =>
      cases fuel with
      | zero => omega
      | succ fuel =>
          have wide : from_ glob index =
              [slash, star, star] ++ spelled (List.replicate k wideSegment ++ rest) := shape
          have next : from_ glob (index + 3) = spelled (List.replicate k wideSegment ++ rest) :=
            from_add wide
          rw [skipRepeated, if_pos ((isRepeated_iff glob index).mpr ⟨_, wide⟩), ih (by omega) next]
          omega

/-- The last of some stars for whole segments in a row. -/
theorem from_run {k : Nat}
    (shape : glob.toList = spelled (before ++ wideSegment :: (List.replicate k wideSegment ++ rest))) :
    from_ glob ((spelled before).length + 3 * k) = slash :: (wideSegment ++ spelled rest) := by
  have turned : wideSegment :: (List.replicate k wideSegment ++ rest) =
      List.replicate k wideSegment ++ wideSegment :: rest := by
    rw [← List.cons_append, ← List.replicate_succ, List.replicate_succ', List.append_assoc]
    rfl
  have place : (spelled before).length + 3 * k =
      (spelled (before ++ List.replicate k wideSegment)).length := by
    rw [spelled_append, List.length_append, length_run]
  rw [from_, shape, turned, ← List.append_assoc, spelled_append, place, List.drop_left]
  rfl

def isFresh (path : Octets) (index : Nat) : Bool :=
  index == 0 || (index < path.size && isAt path (index - 1) '/')

/-- At stars for whole segments, the walk passes to the last one of them in a row; where no segment
of the path starts, it stays in front of the next separator. -/
theorem starred_wide {k : Nat} {spot : Spot}
    (shape : glob.toList = spelled (before ++ wideSegment :: (List.replicate k wideSegment ++ rest)))
    (some : rest ≠ []) (last : rest.head? ≠ .some wideSegment)
    (shaped : ∀ segment ∈ rest, IsSegment segment)
    (here : spot.glob = (spelled before).length + 1) :
    spot.starred glob path =
      { path := spot.path
        glob := spot.glob + 3 * k + (if isFresh path spot.path then 3 else 2)
        star := ⟨spot.glob + 3 * k, spot.path + 1⟩
        wide := ⟨spot.glob + 3 * k, spot.path + 1⟩ } := by
  have start : from_ glob spot.glob =
      wideSegment ++ spelled (List.replicate k wideSegment ++ rest) := by
    rw [from_, shape, here, spelled_append, ← List.drop_drop, List.drop_left]
    rfl
  have isWide : isAt glob (spot.glob + 1) '*' = true := isAt_iff.mpr ⟨_, from_succ start⟩
  have behind : from_ glob (spot.glob + 2) = spelled (List.replicate k wideSegment ++ rest) :=
    from_add start
  have ended : from_ glob (spot.glob + 3 * k + 2) = spelled rest := by
    rw [spelled_append] at behind
    have skipped := from_add behind
    rw [length_run] at skipped
    rw [← skipped]
    congr 1
    omega
  have enough : k ≤ glob.size := by
    rw [← Array.length_toList, shape]
    simp only [spelled_append, spelled_cons, List.length_append, List.length_cons, length_run]
    omega
  have index : skipRepeated glob glob.size (spot.glob + 2) - 2 = spot.glob + 3 * k := by
    rw [skipRepeated_eq shaped last enough behind]
    omega
  have slashed : isAt glob (spot.glob + 3 * k + 2 - 3) '/' = true := by
    rw [isAt_iff, show spot.glob + 3 * k + 2 - 3 = (spelled before).length + 3 * k by omega,
      from_run shape]
    exact ⟨_, rfl⟩
  obtain ⟨segment, others, rfl⟩ := List.exists_cons_of_ne_nil some
  have slashed' : isAt glob (spot.glob + 3 * k + 2) '/' = true := isAt_iff.mpr ⟨_, ended⟩
  have inside : (spot.glob + 3 * k + 2 == glob.size) = false := by
    have lt := lt_size_of_from_ ended
    rw [beq_eq_false_iff_ne]
    omega
  unfold Spot.starred
  simp only [isWide, if_true, index, wideStar, inside, Bool.false_eq_true, if_false, slashed,
    slashed', Bool.or_true, Bool.and_self]
  unfold endStar
  cases fresh : isFresh path spot.path with
  | true =>
      unfold isFresh at fresh
      simp [fresh]
  | false =>
      unfold isFresh at fresh
      simp [fresh]

variable {spot : Spot}

theorem starred_narrow (single : isAt glob (spot.glob + 1) '*' = false) (path : Octets) :
    spot.starred glob path =
      endStar path { spot with star := ⟨spot.glob, spot.path + 1⟩, glob := spot.glob + 1 } := by
  unfold Spot.starred
  simp only [single, Bool.false_eq_true, if_false]

/-- At any other star, the walk goes on behind the star, unless it has come to a separator. -/
theorem starred_on (single : isAt glob (spot.glob + 1) '*' = false)
    (on : isAt path spot.path '/' = false) :
    spot.starred glob path =
      { spot with star := ⟨spot.glob, spot.path + 1⟩, glob := spot.glob + 1 } := by
  rw [starred_narrow single]
  simp [endStar, on]

/-- At a separator, the walk goes back to stars for whole segments, if it has passed some. -/
theorem starred_back (single : isAt glob (spot.glob + 1) '*' = false)
    (ended : isAt path spot.path '/' = true) (apart : spot.wide.path ≠ spot.path + 1)
    (wide : 0 < spot.wide.path) (within : spot.path + 1 < path.size) :
    spot.starred glob path =
      { spot with glob := spot.wide.glob, star := ⟨spot.wide.glob, spot.path + 1⟩ } := by
  rw [starred_narrow single]
  simp [endStar, ended, apart, wide, within]

/-- At a separator, a star is given up if there is nothing to go back to. -/
theorem starred_drop (single : isAt glob (spot.glob + 1) '*' = false)
    (ended : isAt path spot.path '/' = true) (apart : spot.wide.path ≠ spot.path + 1)
    (none : ¬ (0 < spot.wide.path ∧ spot.path + 1 < path.size)) :
    spot.starred glob path = { spot with star := ⟨spot.glob, 0⟩, glob := spot.glob + 1 } := by
  rw [starred_narrow single]
  simp only [endStar, ended, Bool.and_true, bne_iff_ne, ne_eq, apart, not_false_eq_true, if_true]
  split
  next back => exact absurd (by simpa using back) none
  next => rfl

/-- What a walk does next. -/
theorem next?_cases {next : Spot} (stepped : next? glob path spot = some next) :
    (∃ g, from_ glob spot.glob = star :: g ∧ next = spot.starred glob path) ∨
    (∃ wanted g c p, from_ glob spot.glob = wanted :: g ∧ wanted ≠ star ∧
      from_ path spot.path = c :: p ∧ Takes wanted c ∧ next = spot.taken wanted) ∨
    spot.back? path = some next := by
  simp only [next?, getElem?_from_] at stepped
  cases shape : from_ glob spot.glob with
  | nil =>
      rw [shape] at stepped
      exact .inr (.inr stepped)
  | cons wanted g =>
      rw [shape] at stepped
      simp only [List.head?_cons] at stepped
      by_cases starred : wanted = star
      · subst starred
        rw [if_pos rfl] at stepped
        cases stepped
        exact .inl ⟨g, rfl, rfl⟩
      rw [if_neg starred] at stepped
      cases shape' : from_ path spot.path with
      | nil =>
          rw [shape'] at stepped
          exact .inr (.inr stepped)
      | cons c p =>
          rw [shape'] at stepped
          simp only [List.head?_cons] at stepped
          split at stepped
          next takes =>
            cases stepped
            exact .inr (.inl ⟨wanted, g, c, p, rfl, starred, rfl, takes, rfl⟩)
          next => exact .inr (.inr stepped)

end Stars

end StyleInline.Glob.Braces
