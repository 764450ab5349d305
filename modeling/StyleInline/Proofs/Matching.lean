import StyleInline.Pattern.Matcher

/-!
# Parts of a text that match

A matcher walks through a text with marks on its places.  What it does to the marks says which parts
of the text match; a text in which parts are replaced one after another, each as far to the left and
then as long as possible, is determined by that.
-/

namespace StyleInline.Pattern

open StyleInline.Text (CharTable)

namespace Matcher

/-- A place is among some places. -/
def IsMarked (places : Places) (place : Nat) : Prop := places[place]? = some true

def onlyPlace (chars : List Char) (place : Nat) : Places :=
  (List.range (chars.length + 1)).map (· == place)

/-- The part of a text from one place to another one matches. -/
def Matches (matcher : Matcher) (chars : List Char) (first last : Nat) : Prop :=
  IsMarked (matcher.ends chars (onlyPlace chars first)) last

/-- The text behind a place after a replacement of the parts that match.  Of the parts that start
first the longest one is replaced, and so on behind its end. -/
inductive Replaces (matcher : Matcher) (chars replacement : List Char) :
    Nat → List Char → Prop where
  | rest {start : Nat}
      (unmatched : ∀ first last, start ≤ first → ¬ matcher.Matches chars first last) :
      Replaces matcher chars replacement start (chars.drop start)
  | next {start first last : Nat} {behind : List Char} (from_ : start ≤ first)
      (found : matcher.Matches chars first last)
      (leftmost : ∀ first' last', start ≤ first' → matcher.Matches chars first' last' →
        first ≤ first')
      (longest : ∀ last', matcher.Matches chars first last' → last' ≤ last)
      (others : Replaces matcher chars replacement last behind) :
      Replaces matcher chars replacement start
        ((chars.drop start).take (first - start) ++ replacement ++ behind)

/-- Parts can be replaced in one way only. -/
theorem Replaces.unique {matcher : Matcher} {chars replacement : List Char} {start : Nat}
    {left right : List Char} (one : Replaces matcher chars replacement start left)
    (other : Replaces matcher chars replacement start right) : left = right := by
  induction one generalizing right with
  | rest unmatched =>
      cases other with
      | rest _ => rfl
      | next from_ found _ _ _ => exact absurd found (unmatched _ _ from_)
  | next from_ found leftmost longest _ ih =>
      cases other with
      | rest unmatched => exact absurd found (unmatched _ _ from_)
      | next from' found' leftmost' longest' others' =>
          obtain rfl := Nat.le_antisymm (leftmost _ _ from' found') (leftmost' _ _ from_ found)
          obtain rfl := Nat.le_antisymm (longest' _ found) (longest _ found')
          rw [ih others']

section Marks

variable {chars : List Char} {places : Places} {accepted : CharTable}

def IsAccepted (accepted : CharTable) (chars : List Char) (place : Nat) : Prop :=
  ∃ c, chars[place]? = some c ∧ accepted.contains c = true

theorem isMarked_onlyPlace {first place : Nat} :
    IsMarked (onlyPlace chars first) place ↔ place = first ∧ place ≤ chars.length := by
  rw [IsMarked, onlyPlace, List.getElem?_map, Option.map_eq_some_iff]
  constructor
  · rintro ⟨found, here, same⟩
    obtain ⟨inside, rfl⟩ := List.getElem?_eq_some_iff.mp here
    rw [List.length_range] at inside
    rw [List.getElem_range] at same
    exact ⟨eq_of_beq same, Nat.lt_succ_iff.mp inside⟩
  · rintro ⟨rfl, inside⟩
    exact ⟨place, by rw [List.getElem?_range (Nat.lt_succ_iff.mpr inside)], BEq.rfl⟩

theorem isMarked_either {left right : Places} (same : left.length = right.length) {place : Nat} :
    IsMarked (either left right) place ↔ IsMarked left place ∨ IsMarked right place := by
  rw [IsMarked, IsMarked, IsMarked, either, List.getElem?_zipWith_eq_some]
  constructor
  · rintro ⟨here, there, found, found', one⟩
    rw [found, found']
    rcases Bool.or_eq_true_iff.mp one with rfl | rfl
    · exact .inl rfl
    · exact .inr rfl
  · rintro (found | found)
    · obtain ⟨inside, _⟩ := List.getElem?_eq_some_iff.mp found
      exact ⟨true, _, found, List.getElem?_eq_getElem (same ▸ inside), Bool.true_or _⟩
    · obtain ⟨inside, _⟩ := List.getElem?_eq_some_iff.mp found
      exact ⟨_, true, List.getElem?_eq_getElem (same ▸ inside), found, Bool.or_true _⟩

theorem length_either {left right : Places} {length : Nat} (first : left.length = length)
    (second : right.length = length) : (either left right).length = length := by
  rw [either, List.length_zipWith, first, second, Nat.min_self]

theorem length_iterate {step : Places → Places} {length : Nat}
    (keeps : ∀ places, places.length = length → (step places).length = length) (fuel : Nat)
    (full : places.length = length) : (iterate step fuel places).length = length := by
  induction fuel generalizing places with
  | zero => exact full
  | succ fuel ih =>
      rw [iterate]
      split
      · exact full
      · exact ih (keeps places full)

/-- The places stay those of the text. -/
theorem length_ends (matcher : Matcher) (full : places.length = chars.length + 1) :
    (matcher.ends chars places).length = chars.length + 1 := by
  induction matcher generalizing places with
  | nothing => exact full
  | set accepted => simp [ends, full]
  | look flags condition => simp [ends, neighbours, full]
  | sequence first second ihFirst ihSecond => exact ihSecond (ihFirst full)
  | choice left right ihLeft ihRight => exact length_either (ihLeft full) (ihRight full)
  | group isCaptured inner ih => exact ih full
  | repetition count inner ih =>
      exact length_iterate (fun _ kept => length_either kept (ih kept)) _
        (length_iterate (fun _ kept => ih kept) _ full)

/-- A set takes one character. -/
theorem isMarked_set {place : Nat} :
    IsMarked ((set accepted).ends chars places) place ↔
      ∃ before, place = before + 1 ∧ IsMarked places before ∧ IsAccepted accepted chars before := by
  cases place with
  | zero => simp [IsMarked, ends]
  | succ before =>
      rw [IsMarked, ends, List.getElem?_cons_succ, List.getElem?_zipWith_eq_some]
      constructor
      · rintro ⟨c, here, found, marked, both⟩
        obtain ⟨rfl, inside⟩ := Bool.and_eq_true_iff.mp both
        exact ⟨before, rfl, marked, c, found, inside⟩
      · rintro ⟨_, same, marked, c, found, inside⟩
        cases same
        exact ⟨c, true, found, marked, by rw [inside]; rfl⟩

/-- Steps over characters of a set go through a stretch of such characters. -/
theorem isMarked_iterate (full : places.length = chars.length + 1) (fuel place : Nat) :
    IsMarked (iterate (fun places => either places ((set accepted).ends chars places)) fuel places)
        place ↔
      ∃ start, start ≤ place ∧ place ≤ start + fuel ∧ IsMarked places start ∧
        ∀ between, start ≤ between → between < place → IsAccepted accepted chars between := by
  induction fuel generalizing places with
  | zero =>
      rw [iterate]
      constructor
      · intro marked
        exact ⟨place, Nat.le_refl _, Nat.le_refl _, marked,
          fun between low high => absurd low (by omega)⟩
      · rintro ⟨start, low, high, marked, _⟩
        obtain rfl : start = place := by omega
        exact marked
  | succ fuel ih =>
      have next : ∀ place, IsMarked (either places ((set accepted).ends chars places)) place ↔
          IsMarked places place ∨ ∃ before, place = before + 1 ∧ IsMarked places before ∧
            IsAccepted accepted chars before := by
        intro place
        rw [isMarked_either (full.trans (length_ends _ full).symm), isMarked_set]
      rw [iterate]
      split
      next still =>
        -- The marks stay as they are, so they have been through every stretch.
        rw [eq_of_beq still] at next
        constructor
        · intro marked
          exact ⟨place, Nat.le_refl _, by omega, marked,
            fun between low high => absurd low (by omega)⟩
        · rintro ⟨start, low, high, marked, stretch⟩
          clear high ih
          obtain ⟨count, rfl⟩ := Nat.exists_eq_add_of_le low
          clear low
          induction count with
          | zero => exact marked
          | succ count ihCount =>
              have before := ihCount fun between above below => stretch between above (by omega)
              exact (next _).mpr (.inr ⟨start + count, rfl, before,
                stretch (start + count) (by omega) (by omega)⟩)
      next =>
        rw [ih (length_either full (length_ends _ full))]
        constructor
        · rintro ⟨start, low, high, marked, stretch⟩
          rcases (next start).mp marked with here | ⟨before, rfl, here, inside⟩
          · exact ⟨start, low, by omega, here, stretch⟩
          · refine ⟨before, by omega, by omega, here, fun between above below => ?_⟩
            rcases Nat.eq_or_lt_of_le above with rfl | later
            · exact inside
            · exact stretch between later below
        · rintro ⟨start, low, high, marked, stretch⟩
          rcases Nat.eq_or_lt_of_le low with rfl | later
          · exact ⟨start, Nat.le_refl _, by omega, (next start).mpr (.inl marked),
              fun between above below => absurd above (by omega)⟩
          · exact ⟨start + 1, later, by omega,
              (next _).mpr (.inr ⟨start, rfl, marked, stretch start (Nat.le_refl _) later⟩),
              fun between above below => stretch between (by omega) below⟩

/-- A set repeated any number of times takes a stretch of its characters. -/
theorem isMarked_repeated (full : places.length = chars.length + 1) {place : Nat} :
    IsMarked ((repetition ⟨0, none⟩ (set accepted)).ends chars places) place ↔
      ∃ start, start ≤ place ∧ IsMarked places start ∧
        ∀ between, start ≤ between → between < place → IsAccepted accepted chars between := by
  rw [ends]
  dsimp only
  rw [iterate, isMarked_iterate full]
  constructor
  · rintro ⟨start, low, _, marked, stretch⟩
    exact ⟨start, low, marked, stretch⟩
  · rintro ⟨start, low, marked, stretch⟩
    refine ⟨start, low, ?_, marked, stretch⟩
    rcases Nat.eq_or_lt_of_le low with rfl | later
    · omega
    · obtain ⟨c, found, _⟩ := stretch (place - 1) (by omega) (by omega)
      obtain ⟨inside, _⟩ := List.getElem?_eq_some_iff.mp found
      omega

end Marks

end Matcher

end StyleInline.Pattern
