import Mathlib.Data.List.TakeWhile
import StyleInline.Script.Quoted

/-!
# Reading quoted texts

A text that is written between quotes is read back as it was, with one exception: the escape of a
surrogate whose opening brace stays open.  It is written with a single backslash, as if a brace
closed it behind its digits, and what stands behind them is read as a part of it.
-/

namespace StyleInline.Script

namespace Lexer

def IsHex (c : Char) : Prop := (digitValue? 16 c).isSome = true

instance (c : Char) : Decidable (IsHex c) := inferInstanceAs (Decidable (_ = _))

/-- Digits, letters and braces, which stand for themselves wherever they are written. -/
def IsSolid (c : Char) : Prop := 48 ≤ c.toNat ∧ c.toNat < 128 ∧ c ≠ '\\'

instance (c : Char) : Decidable (IsSolid c) := inferInstanceAs (Decidable (_ ∧ _))

theorem IsHex.isSolid {c : Char} (hex : IsHex c) : IsSolid c := by
  refine ⟨?_, ?_, ?_⟩
  · by_contra low
    simp [IsHex, digitValue?, show ¬48 ≤ c.toNat by omega, show ¬97 ≤ c.toNat by omega,
      show ¬65 ≤ c.toNat by omega] at hex
  · by_contra high
    simp [IsHex, digitValue?, show ¬c.toNat ≤ 57 by omega, show ¬c.toNat ≤ 102 by omega,
      show ¬c.toNat ≤ 70 by omega] at hex
  · rintro rfl
    revert hex
    decide

theorem isHex_of_octal {c : Char} (octal : (digitValue? 8 c).isSome = true) :
    IsHex c ∧ c.isDigit = true := by
  have small : 48 ≤ c.toNat ∧ c.toNat ≤ 55 := by
    simp only [digitValue?] at octal
    split_ifs at octal <;> simp_all <;> omega
  have digits : ∀ code < 56, 48 ≤ code →
      IsHex (Char.ofNat code) ∧ (Char.ofNat code).isDigit = true := by
    decide
  have here := digits c.toNat (by omega) small.1
  rwa [Char.ofNat_toNat] at here

theorem hexDigits_append {digits tail : List Char} (hex : ∀ c ∈ digits, IsHex c) :
    hexDigits (digits ++ tail) = digits ++ hexDigits tail :=
  List.takeWhile_append_of_pos hex

theorem spelled_append (radix : Nat) (first : List Char) (c : Char) :
    spelled radix (first ++ [c]) =
      match digitValue? radix c with
      | some value => spelled radix first * radix + value
      | none => spelled radix first := by
  rw [spelled, List.foldl_append]
  rfl

/-- More digits make a number no smaller. -/
theorem spelled_le (first more : List Char) :
    spelled 16 first ≤ spelled 16 (first ++ more) := by
  induction more generalizing first with
  | nil => rw [List.append_nil]
  | cons c more ih =>
      rw [List.append_cons]
      refine le_trans ?_ (ih _)
      rw [spelled_append]
      split
      · exact le_trans (Nat.le_mul_of_pos_right _ (by decide)) (Nat.le_add_right _ _)
      · exact le_refl _

/-- One more digit makes a number larger. -/
theorem spelled_lt (first : List Char) {c : Char} (hex : IsHex c) (more : List Char) :
    16 * spelled 16 first ≤ spelled 16 (first ++ c :: more) := by
  obtain ⟨value, known⟩ := Option.isSome_iff_exists.mp hex
  rw [List.append_cons]
  refine le_trans ?_ (spelled_le _ more)
  rw [spelled_append, known, Nat.mul_comm]
  exact Nat.le_add_right _ _

variable {digits tail written value after : List Char} {quote : Char} {string : OpenString}

theorem escapeSequence_zero (notOctal : startsOctal ('0' :: tail) = false) :
    escapeSequence ('0' :: tail) = (.ok ['\x00'], tail) := by
  simp [escapeSequence, isLineEnd, notOctal]

/-- An escape with a fixed number of digits, all of which are there. -/
theorem fixedEscape_digits (hex : ∀ c ∈ digits, IsHex c) (fault : ParseError) (tail : List Char) :
    fixedEscape digits.length fault (digits ++ tail) =
      if isSurrogate (spelled 16 digits) then (.ok ('\\' :: 'u' :: digits), tail)
      else (.ok [Char.ofNat (spelled 16 digits)], tail) := by
  have taken : (hexDigits (digits ++ tail)).take digits.length = digits := by
    rw [hexDigits_append hex, List.take_left]
  simp only [fixedEscape, taken, lt_irrefl, ↓reduceIte, List.drop_left]

theorem unicodeEscape_digits (hex : ∀ c ∈ digits, IsHex c) (four : digits.length = 4) :
    unicodeEscape (digits ++ tail) =
      if isSurrogate (spelled 16 digits) then (.ok ('\\' :: 'u' :: digits), tail)
      else (.ok [Char.ofNat (spelled 16 digits)], tail) := by
  obtain _ | ⟨first, others⟩ := digits
  · cases four
  · have other : first ≠ '\x7b' := by
      rintro rfl
      exact absurd (hex _ List.mem_cons_self) (by decide)
    rw [← fixedEscape_digits hex (.badEscape "4 hex characters"), four]
    unfold unicodeEscape
    split
    next same => exact absurd (List.cons.inj same).1 other
    next => rfl

theorem hexDigits_eq (hex : ∀ c ∈ digits, IsHex c)
    (stops : tail.head?.any (fun c => decide (IsHex c)) = false) :
    hexDigits (digits ++ tail) = digits := by
  rw [hexDigits_append hex]
  obtain _ | ⟨c, rest⟩ := tail
  · exact List.append_nil _
  · have noHex : (digitValue? 16 c).isSome = false :=
      Bool.eq_false_iff.mpr (of_decide_eq_false stops)
    rw [hexDigits, List.takeWhile_cons_of_neg (by rw [noHex]; decide), List.append_nil]

/-- The digits at the front of a text, and what is behind them. -/
theorem exists_hexDigits (chars : List Char) :
    ∃ digits rest, chars = digits ++ rest ∧ (∀ c ∈ digits, IsHex c) ∧
      rest.head?.any (fun c => decide (IsHex c)) = false := by
  induction chars with
  | nil => exact ⟨[], [], rfl, by simp, rfl⟩
  | cons c chars ih =>
      by_cases hex : IsHex c
      · obtain ⟨digits, rest, rfl, all, stops⟩ := ih
        exact ⟨c :: digits, rest, rfl, List.forall_mem_cons.mpr ⟨hex, all⟩, stops⟩
      · exact ⟨[], c :: chars, rfl, by simp, decide_eq_false hex⟩

section Braces

variable (hex : ∀ c ∈ digits, IsHex c)
include hex

theorem noBrace_of_hex : '\x7d' ∉ digits := fun member => absurd (hex _ member) (by decide)

section Other

variable (notInRange : isSurrogate (spelled 16 digits) = false)
include notInRange

theorem bracedReach_other (stops : tail.head?.any (fun c => decide (IsHex c)) = false) :
    bracedReach (digits ++ tail) = digits.length := by
  simp [bracedReach, hexDigits_eq hex stops, notInRange]

/-- An escape of no surrogate in braces that no brace closes is an error. -/
theorem bracedEscape_open (stops : tail.head?.any (fun c => decide (IsHex c)) = false)
    (noBrace : tail.head? ≠ some '\x7d') :
    ∃ error after, bracedEscape (digits ++ tail) = (.error error, after) := by
  simp only [bracedEscape, hexDigits_eq hex stops, bracedReach_other hex notInRange stops,
    List.drop_left, bne_iff_ne.mpr noBrace]
  split
  · exact ⟨_, _, rfl⟩
  · split <;> exact ⟨_, _, rfl⟩

/-- An escape of no surrogate in braces is an error or stands for one character. -/
theorem bracedEscape_other (tail : List Char) :
    (∃ error after, bracedEscape (digits ++ '\x7d' :: tail) = (.error error, after)) ∨
      bracedEscape (digits ++ '\x7d' :: tail) = (.ok [Char.ofNat (spelled 16 digits)], tail) := by
  have stops : ('\x7d' :: tail).head?.any (fun c => decide (IsHex c)) = false := rfl
  simp only [bracedEscape, hexDigits_eq hex stops, bracedReach_other hex notInRange stops,
    List.drop_left, notInRange]
  split
  · exact .inl ⟨_, _, rfl⟩
  · split
    · exact .inl ⟨_, _, rfl⟩
    · exact .inr rfl

end Other

section Surrogate

variable (four : digits.length = 4) (inRange : isSurrogate (spelled 16 digits) = true)
include four inRange

/-- The escape of a surrogate is an error, unless a brace closes what it takes. -/
theorem bracedEscape_taken (stops : tail.head?.any (fun c => decide (IsHex c)) = false) :
    let reach := (((digits ++ tail).take 6).findIdx? (· == '\x7d')).getD 6
    bracedEscape (digits ++ tail) =
      if ((digits ++ tail).drop reach).head? = some '\x7d' then
        (.ok ('\\' :: 'u' :: '\x7b' :: ((digits ++ tail).take reach ++ ['\x7d'])),
          (digits ++ tail).drop (reach + 1))
      else (.error .invalidUnicodeEscape, (digits ++ tail).drop reach) := by
  intro reach
  have nonempty : digits.isEmpty = false := by
    cases digits with
    | nil => cases four
    | cons => rfl
  have bound : spelled 16 digits ≤ 0xDFFF := by
    simp only [isSurrogate, Bool.and_eq_true, decide_eq_true_eq] at inRange
    exact inRange.2
  have short : ¬Nat.pow 2 32 ≤ spelled 16 digits := not_le.mpr (lt_of_le_of_lt bound (by decide))
  have inside : ¬0x10FFFF < spelled 16 digits := by omega
  have taken : bracedReach (digits ++ tail) = reach := by
    rw [bracedReach, hexDigits_eq hex stops, if_pos inRange]
  simp only [bracedEscape, hexDigits_eq hex stops, taken, nonempty, short, inside, inRange]
  by_cases closed : ((digits ++ tail).drop reach).head? = some '\x7d' <;> simp [closed]

/-- The escape of a surrogate is an error, unless a brace closes it behind at most two more
characters. -/
theorem bracedEscape_cases (stops : tail.head?.any (fun c => decide (IsHex c)) = false) :
    (∃ error after, bracedEscape (digits ++ tail) = (.error error, after)) ∨
      ∃ inside rest, tail = inside ++ '\x7d' :: rest ∧ '\x7d' ∉ inside ∧ inside.length ≤ 2 := by
  have taken := bracedEscape_taken hex four inRange stops
  dsimp only at taken
  generalize reaches : (((digits ++ tail).take 6).findIdx? (· == '\x7d')).getD 6 = reach at taken
  have short : reach ≤ 6 ∧ '\x7d' ∉ (digits ++ tail).take reach := by
    cases found : ((digits ++ tail).take 6).findIdx? (· == '\x7d') with
    | none =>
        rw [found] at reaches
        subst reaches
        have none := List.findIdx?_eq_none_iff.mp found
        exact ⟨le_rfl, fun member => by simpa using none _ member⟩
    | some place =>
        rw [found] at reaches
        subst reaches
        obtain ⟨bound, -, before⟩ := List.findIdx?_eq_some_iff_getElem.mp found
        rw [List.length_take] at bound
        refine ⟨by simp only [Option.getD_some]; omega, fun member => ?_⟩
        obtain ⟨index, inside, same⟩ := List.mem_iff_getElem.mp member
        rw [List.length_take, Option.getD_some] at inside
        have other := before index (by omega)
        rw [List.getElem_take] at other same
        exact other (by simp [same])
  split at taken
  next closed =>
    obtain ⟨rest, dropped⟩ := List.head?_eq_some_iff.mp closed
    have split : digits ++ tail = (digits ++ tail).take reach ++ '\x7d' :: rest := by
      rw [← dropped, List.take_append_drop]
    rcases List.append_eq_append_iff.mp split with ⟨inside, front, same⟩ | ⟨inside, front, same⟩
    · refine .inr ⟨inside, rest, same, fun member => ?_, ?_⟩
      · exact short.2 (front ▸ List.mem_append_right _ member)
      · have size := congrArg List.length front
        simp only [List.length_take, List.length_append, four] at size
        omega
    · cases inside with
      | nil => exact .inr ⟨[], rest, same.symm, List.not_mem_nil, Nat.zero_le _⟩
      | cons c inside =>
          obtain ⟨rfl, -⟩ := List.cons.inj same
          exact absurd (front ▸ List.mem_append_right _ List.mem_cons_self) (noBrace_of_hex hex)
  next => exact .inl ⟨_, _, taken⟩

/-- The escape of a surrogate that a brace closes behind at most two more characters stands for its
own spelling. -/
theorem bracedEscape_surrogate {inside : List Char} (noBrace : '\x7d' ∉ inside)
    (short : inside.length ≤ 2) (stops : inside.head?.any (fun c => decide (IsHex c)) = false)
    (rest : List Char) :
    bracedEscape (digits ++ (inside ++ '\x7d' :: rest)) =
      (.ok ('\\' :: 'u' :: '\x7b' :: (digits ++ (inside ++ ['\x7d']))), rest) := by
  have stops' : (inside ++ '\x7d' :: rest).head?.any (fun c => decide (IsHex c)) = false := by
    cases inside with
    | nil => rfl
    | cons => exact stops
  have noBrace' : '\x7d' ∉ digits ++ inside := by
    rw [List.mem_append, not_or]
    exact ⟨noBrace_of_hex hex, noBrace⟩
  have reach : (((digits ++ (inside ++ '\x7d' :: rest)).take 6).findIdx? (· == '\x7d')).getD 6 =
      (digits ++ inside).length := by
    have none : (digits ++ inside).findIdx? (· == '\x7d') = none :=
      List.findIdx?_eq_none_iff.mpr fun c member => by
        simpa using ne_of_mem_of_not_mem member noBrace'
    have long : (digits ++ inside).length ≤ 6 := by
      rw [List.length_append]
      omega
    rw [← List.append_assoc, List.take_append, List.take_of_length_le long, List.findIdx?_append,
      none]
    cases room : 6 - (digits ++ inside).length with
    | zero =>
        simp only [List.take_zero, List.findIdx?_nil, Option.map_none, Option.or_none,
          Option.getD_none]
        omega
    | succ room => simp [List.findIdx?_cons]
  have taken := bracedEscape_taken hex four inRange stops'
  dsimp only at taken
  rw [reach, ← List.append_assoc, List.drop_left, List.take_left] at taken
  rw [← List.append_assoc, taken, List.drop_length_add_append]
  simp

end Surrogate

end Braces

namespace OpenString

def extended (string : OpenString) (chars : List Char) : OpenString :=
  { string with reversed := chars.reverse ++ string.reversed }

@[simp]
theorem extended_extended (string : OpenString) (first second : List Char) :
    (string.extended first).extended second = string.extended (first ++ second) := by
  simp [extended]

theorem escaped_eq (notOctal : startsOctal written = false) :
    string.escaped written value = string.extended value := by
  rw [escaped, notOctal]
  rfl

theorem closed_extended (chars rest : List Char) :
    (extended ⟨[], none⟩ chars).closed rest = (String.ofList chars, none, rest) := by
  simp [extended, closed]

end OpenString

theorem stringValue_quote (rest : List Char) :
    stringValue quote string (quote :: rest) = .ok (string.closed rest) := by
  rw [stringValue.eq_def]
  simp

theorem stringValue_char {c : Char} (open' : c ≠ quote) (noEscape : c ≠ '\\')
    (inLine : ¬(c = '\n' ∨ c = '\r')) (rest : List Char) :
    stringValue quote string (c :: rest) = stringValue quote (string.extended [c]) rest := by
  rw [stringValue.eq_def]
  simp [open', noEscape, inLine, OpenString.extended]

theorem stringValue_escape (other : quote ≠ '\\') (notOctal : startsOctal written = false)
    (reads : escapeSequence written = (.ok value, after)) (shorter : after.length ≤ written.length) :
    stringValue quote string ('\\' :: written) =
      stringValue quote (string.extended value) after := by
  rw [stringValue.eq_def]
  simp only [other.symm, ↓reduceIte, reads, shorter, OpenString.escaped_eq notOctal]

theorem stringValue_fault (other : quote ≠ '\\') {error : ParseError}
    (reads : escapeSequence written = (.error error, after)) :
    stringValue quote string ('\\' :: written) = .error (error, after) := by
  rw [stringValue.eq_def]
  simp only [other.symm, ↓reduceIte, reads]

end Lexer

namespace Quoted

open Lexer

structure Surrogate where
  digits : List Char
  four : digits.length = 4
  hex : ∀ c ∈ digits, IsHex c
  inRange : isSurrogate (spelled 16 digits) = true

theorem spellsSurrogate_iff {chars : List Char} :
    spellsSurrogate chars = true ↔ ∃ (surrogate : Surrogate) (rest : List Char),
      chars = surrogate.digits ++ rest := by
  constructor
  · intro spells
    match chars with
    | a :: b :: c :: d :: rest =>
        simp only [spellsSurrogate, hexNumber?] at spells
        split at spells
        next code known =>
          split at known
          next all =>
            cases known
            exact ⟨⟨[a, b, c, d], rfl, List.all_eq_true.mp all, spells⟩, rest, rfl⟩
          next => cases known
        next => cases spells
  · rintro ⟨⟨digits, four, hex, inRange⟩, rest, rfl⟩
    obtain ⟨a, b, c, d, rfl⟩ : ∃ a b c d, digits = [a, b, c, d] := by
      match digits, four with
      | [a, b, c, d], _ => exact ⟨a, b, c, d, rfl⟩
    have all : ([a, b, c, d].all fun c => (digitValue? 16 c).isSome) = true :=
      List.all_eq_true.mpr hex
    simp only [List.cons_append, List.nil_append, spellsSurrogate, hexNumber?, all, ↓reduceIte,
      inRange]

/-- A closing brace stands behind at most `room` characters, which are written as themselves. -/
def closesWithin (quote : Char) : Nat → List Char → Bool
  | _, [] => false
  | 0, c :: _ => c == '\x7d'
  | room + 1, c :: rest =>
    c == '\x7d' || (escape quote c [] == [c] && closesWithin quote room rest)

/-- The characters behind the digits of a surrogate close its escape. -/
def closes (quote : Char) (chars : List Char) : Bool :=
  !chars.head?.any (fun c => decide (IsHex c)) && closesWithin quote 2 chars

/-- What stands behind a backslash makes it the escape of a surrogate with an opening brace that is
not closed. -/
def startsOpen (quote : Char) : List Char → Bool
  | 'u' :: '\x7b' :: rest => spellsSurrogate rest && !closes quote (rest.drop 4)
  | _ => false

/-- Somewhere in a text there is such an escape. -/
def hasOpen (quote : Char) : List Char → Bool
  | [] => false
  | c :: rest => (c == '\\' && startsOpen quote rest) || hasOpen quote rest

/-- The text is read as it is where it was written between quotes. -/
def IsKept (value : String) : Prop := hasOpen (quoteFor value.toList) value.toList = false

instance (value : String) : Decidable (IsKept value) := inferInstanceAs (Decidable (_ = _))

theorem hasOpen_iff {quote : Char} {chars : List Char} :
    hasOpen quote chars = true ↔
      ∃ before after, chars = before ++ '\\' :: after ∧ startsOpen quote after = true := by
  induction chars with
  | nil => simp [hasOpen]
  | cons c rest ih =>
      rw [hasOpen, Bool.or_eq_true, Bool.and_eq_true, beq_iff_eq, ih]
      constructor
      · rintro (⟨rfl, opens⟩ | ⟨before, after, rfl, opens⟩)
        · exact ⟨[], rest, rfl, opens⟩
        · exact ⟨c :: before, after, rfl, opens⟩
      · rintro ⟨before, after, same, opens⟩
        obtain _ | ⟨head, before⟩ := before
        · obtain ⟨rfl, rfl⟩ := List.cons.inj same
          exact .inl ⟨rfl, opens⟩
        · obtain ⟨rfl, rfl⟩ := List.cons.inj same
          exact .inr ⟨before, after, rfl, opens⟩

example : hasOpen '"' "\\u\x7bD83D".toList = true ∧ hasOpen '"' "\\u\x7bD83D, \x7d".toList = false := by
  decide

/-- An escape that starts open is the escape of a surrogate. -/
theorem startsSurrogate_of_startsOpen {quote : Char} {chars : List Char}
    (opens : startsOpen quote chars = true) : startsSurrogate chars = true := by
  unfold startsOpen at opens
  split at opens
  · exact (Bool.and_eq_true _ _ ▸ opens).1
  · cases opens

theorem hasOpen_append {quote : Char} {chars : List Char} (plain : ∀ c ∈ chars, c ≠ '\\')
    (rest : List Char) : hasOpen quote (chars ++ rest) = hasOpen quote rest := by
  induction chars with
  | nil => rfl
  | cons c chars ih =>
      obtain ⟨here, others⟩ := List.forall_mem_cons.mp plain
      rw [List.cons_append, hasOpen, ih others, beq_false_of_ne here, Bool.false_and, Bool.false_or]

structure IsHeld (quote : Char) (inside : List Char) : Prop where
  short : inside.length ≤ 2
  plain : ∀ c ∈ inside, escape quote c [] = [c]
  noBrace : '\x7d' ∉ inside
  stops : inside.head?.any (fun c => decide (IsHex c)) = false

theorem closesWithin_iff {quote : Char} {room : Nat} {chars : List Char} :
    closesWithin quote room chars = true ↔ ∃ inside rest, chars = inside ++ '\x7d' :: rest ∧
      inside.length ≤ room ∧ (∀ c ∈ inside, escape quote c [] = [c]) ∧ '\x7d' ∉ inside := by
  fun_induction closesWithin quote room chars with
  | case1 => simp
  | case2 c rest =>
      rw [beq_iff_eq]
      constructor
      · rintro rfl
        exact ⟨[], rest, rfl, le_rfl, by simp, by simp⟩
      · rintro ⟨inside, behind, same, short, -⟩
        obtain rfl := List.eq_nil_of_length_eq_zero (Nat.le_zero.mp short)
        exact (List.cons.inj same).1
  | case3 room c rest ih =>
      rw [Bool.or_eq_true, Bool.and_eq_true, beq_iff_eq, beq_iff_eq, ih]
      constructor
      · rintro (rfl | ⟨plain, inside, behind, rfl, short, others, noBrace⟩)
        · exact ⟨[], rest, rfl, Nat.zero_le _, by simp, by simp⟩
        · by_cases brace : c = '\x7d'
          · exact ⟨[], inside ++ '\x7d' :: behind, by rw [brace]; rfl, Nat.zero_le _, by simp, by simp⟩
          · refine ⟨c :: inside, behind, rfl, Nat.succ_le_succ short,
              List.forall_mem_cons.mpr ⟨plain, others⟩, ?_⟩
            exact List.not_mem_cons_of_ne_of_not_mem (Ne.symm brace) noBrace
      · rintro ⟨inside, behind, same, short, plain, noBrace⟩
        cases inside with
        | nil => exact .inl (List.cons.inj same).1
        | cons head inside =>
            obtain ⟨rfl, rfl⟩ := List.cons.inj same
            obtain ⟨here, others⟩ := List.forall_mem_cons.mp plain
            exact .inr ⟨here, inside, behind, rfl, Nat.le_of_succ_le_succ short, others,
              fun member => noBrace (List.mem_cons_of_mem _ member)⟩

theorem closes_iff {quote : Char} {chars : List Char} :
    closes quote chars = true ↔
      ∃ inside rest, chars = inside ++ '\x7d' :: rest ∧ IsHeld quote inside := by
  rw [closes, Bool.and_eq_true, closesWithin_iff]
  constructor
  · rintro ⟨stops, inside, rest, rfl, short, plain, noBrace⟩
    refine ⟨inside, rest, rfl, short, plain, noBrace, ?_⟩
    cases inside with
    | nil => rfl
    | cons => simpa using stops
  · rintro ⟨inside, rest, rfl, short, plain, noBrace, stops⟩
    refine ⟨?_, inside, rest, rfl, short, plain, noBrace⟩
    cases inside with
    | nil => rfl
    | cons => simpa using stops

namespace Surrogate

variable (surrogate : Surrogate) (rest : List Char)

theorem exists_first :
    ∃ first others, surrogate.digits = first :: others ∧ first ≠ '\x7b' := by
  obtain ⟨digits, four, hex, _⟩ := surrogate
  obtain _ | ⟨first, others⟩ := digits
  · cases four
  · refine ⟨first, others, rfl, ?_⟩
    rintro rfl
    exact absurd (hex _ List.mem_cons_self) (by decide)

variable {quote : Char}

theorem startsOpen_bare : startsOpen quote ('u' :: (surrogate.digits ++ rest)) = false := by
  obtain ⟨first, others, same, noBrace⟩ := surrogate.exists_first
  rw [same, List.cons_append]
  unfold startsOpen
  split
  next same => exact absurd (List.cons.inj (List.cons.inj same).2).1 noBrace
  next => rfl

theorem startsOpen_braced :
    startsOpen quote ('u' :: '\x7b' :: (surrogate.digits ++ rest)) = !closes quote rest := by
  have spells := spellsSurrogate_iff.mpr ⟨surrogate, rest, rfl⟩
  rw [startsOpen, spells, Bool.true_and, List.drop_left' surrogate.four]

theorem startsSurrogate_bare : startsSurrogate ('u' :: (surrogate.digits ++ rest)) = true := by
  have spells := spellsSurrogate_iff.mpr ⟨surrogate, rest, rfl⟩
  obtain ⟨first, others, same, noBrace⟩ := surrogate.exists_first
  rw [same, List.cons_append] at spells ⊢
  unfold startsSurrogate
  split
  next same => exact absurd (List.cons.inj (List.cons.inj same).2).1 noBrace
  next same => exact (List.cons.inj same).2 ▸ spells
  next other => exact (other _ rfl).elim

theorem startsSurrogate_braced :
    startsSurrogate ('u' :: '\x7b' :: (surrogate.digits ++ rest)) = true :=
  spellsSurrogate_iff.mpr ⟨surrogate, rest, rfl⟩

end Surrogate

/-- Every text is written piece by piece: a character, or the escape of a surrogate with all its
digits and with all up to the closing brace, if it has one. -/
theorem pieces_induction (quote : Char) {motive : List Char → Prop} (nil : motive [])
    (plain : ∀ c rest, ¬(c = '\\' ∧ startsSurrogate rest = true) → motive rest →
      motive (c :: rest))
    (bare : ∀ (surrogate : Surrogate) rest, motive rest →
      motive ('\\' :: 'u' :: (surrogate.digits ++ rest)))
    (braced : ∀ (surrogate : Surrogate) inside rest, IsHeld quote inside → motive rest →
      motive ('\\' :: 'u' :: '\x7b' :: (surrogate.digits ++ (inside ++ '\x7d' :: rest))))
    (opened : ∀ (surrogate : Surrogate) rest, closes quote rest = false →
      (∀ last, last.length < rest.length → motive last) →
      motive ('\\' :: 'u' :: '\x7b' :: (surrogate.digits ++ rest)))
    (content : List Char) : motive content := by
  induction sized : content.length using Nat.strong_induction_on generalizing content with
  | _ size ih =>
      subst sized
      obtain _ | ⟨c, rest⟩ := content
      · exact nil
      · by_cases written : c = '\\' ∧ startsSurrogate rest = true
        · obtain ⟨rfl, starts⟩ := written
          unfold startsSurrogate at starts
          split at starts
          next digits =>
            obtain ⟨surrogate, rest, rfl⟩ := spellsSurrogate_iff.mp starts
            cases closed : closes quote rest with
            | true =>
                obtain ⟨inside, last, rfl, held⟩ := closes_iff.mp closed
                exact braced surrogate inside last held (ih _ (by simp; omega) last rfl)
            | false =>
                refine opened surrogate rest closed fun last shorter => ih _ ?_ last rfl
                simp only [List.length_cons, List.length_append]
                omega
          next digits _ =>
            obtain ⟨surrogate, rest, rfl⟩ := spellsSurrogate_iff.mp starts
            exact bare surrogate rest (ih _ (by simp; omega) rest rfl)
          next => cases starts
        · exact plain c rest written (ih _ (Nat.lt_succ_self _) rest rfl)

/-- The quotes that texts are put into. -/
def IsQuote (quote : Char) : Prop := quote = '"' ∨ quote = '\''

theorem quoteFor_isQuote (chars : List Char) : IsQuote (quoteFor chars) := by
  unfold quoteFor
  split
  · exact .inr rfl
  · exact .inl rfl

section Writing

variable {quote c : Char}

theorem IsQuote.bounded (isQuote : IsQuote quote) : quote.toNat < 48 := by
  rcases isQuote with rfl | rfl <;> decide

theorem IsQuote.noMark (isQuote : IsQuote quote) : quote ≠ '\\' := by
  rcases isQuote with rfl | rfl <;> decide

theorem escape_solid (isQuote : IsQuote quote) (solid : IsSolid c) (rest : List Char) :
    escape quote c rest = [c] := by
  obtain ⟨low, high, noMark⟩ := solid
  have apart (other : Char) (outside : other.toNat < 48 ∨ 128 ≤ other.toNat) : c ≠ other := by
    rintro rfl
    omega
  have noQuote : c ≠ quote := apart quote (.inl isQuote.bounded)
  have printed : ¬c.toNat < 32 := by omega
  simp only [escape, noMark, noQuote, printed, ↓reduceIte, apart '\x00' (by decide),
    apart '\x08' (by decide), apart '\x0c' (by decide),
    apart '\n' (by decide), apart '\r' (by decide),
    apart '\x0b' (by decide), apart '\t' (by decide),
    apart '\u2028' (by decide), apart '\u2029' (by decide),
    apart '\ufeff' (by decide)]

/-- A character that is written as itself at the end of a text is written so everywhere, and it is
no backslash. -/
theorem escape_plain (plain : escape quote c [] = [c]) (rest : List Char) :
    escape quote c rest = [c] ∧ c ≠ '\\' := by
  have noMark : c ≠ '\\' := by
    rintro rfl
    revert plain
    simp [escape, startsSurrogate]
  refine ⟨?_, noMark⟩
  have noZero : c ≠ '\x00' := by
    rintro rfl
    revert plain
    simp [escape]
  simpa only [escape, if_neg noZero, if_neg noMark] using plain

theorem escapeAll_plain {chars : List Char} (plain : ∀ c ∈ chars, escape quote c [] = [c])
    (rest : List Char) : escapeAll quote (chars ++ rest) = chars ++ escapeAll quote rest := by
  induction chars with
  | nil => rfl
  | cons c chars ih =>
      obtain ⟨here, others⟩ := List.forall_mem_cons.mp plain
      rw [List.cons_append, escapeAll, (escape_plain here _).1, ih others]
      rfl

/-- A character that is written as itself somewhere is a plain one, or a backslash in front of a
surrogate. -/
theorem plain_of_escape {rest : List Char}
    (same : escape quote c rest = [c]) :
    escape quote c [] = [c] ∨ c = '\\' ∧ startsSurrogate rest = true := by
  by_cases noZero : c = '\x00'
  · subst noZero
    exfalso
    revert same
    unfold escape
    rw [if_pos rfl]
    split
    · split <;> decide
    · decide
  · by_cases mark : c = '\\'
    · subst mark
      refine .inr ⟨rfl, ?_⟩
      by_contra other
      revert same
      simp [escape, other]
    · left
      simpa only [escape, if_neg noZero, if_neg mark] using same

theorem hexByte_spells : ∀ code < 32, (hexByte code).length = 2 ∧
    ((hexByte code).all fun c => (digitValue? 16 c).isSome) = true ∧
      spelled 16 (hexByte code) = code := by
  decide

/-- The escape of a character stands for that character, whatever comes behind it, and no other
character in it closes a brace. -/
structure Spells (written : List Char) (c : Char) : Prop where
  notOctal : ∀ tail, startsOctal (written ++ tail) = false
  reads : ∀ tail, escapeSequence (written ++ tail) = (.ok [c], tail)
  noBrace : c ≠ '\x7d' → '\x7d' ∉ written

theorem spells_hexByte (small : c.toNat < 32) : Spells ('x' :: hexByte c.toNat) c := by
  obtain ⟨two, hex, same⟩ := hexByte_spells c.toNat small
  have noSurrogate : isSurrogate c.toNat = false := by
    simp [isSurrogate, show ¬55296 ≤ c.toNat by omega]
  refine ⟨fun _ => rfl, fun tail => ?_, fun _ => ?_⟩
  · have reads := fixedEscape_digits (List.all_eq_true.mp hex) (.badEscape "2 hex characters") tail
    rw [two, same, noSurrogate, Char.ofNat_toNat] at reads
    exact reads
  · exact List.not_mem_cons_of_ne_of_not_mem (by decide)
      (noBrace_of_hex (List.all_eq_true.mp hex))

/-- What is true of each way to write a character is true of the character as it is written. -/
theorem escape_cases {motive : List Char → Prop} (isQuote : IsQuote quote) (rest : List Char)
    (self : c ≠ quote → c ≠ '\\' → ¬(c = '\n' ∨ c = '\r') → motive [c])
    (mark : c = '\\' → startsSurrogate rest = true → motive ['\\'])
    (zero : c = '\x00' → (∀ d ∈ rest.head?, d.isDigit = false) → motive ['\\', '0'])
    (escaped : ∀ written, Spells written c → motive ('\\' :: written)) :
    motive (escape quote c rest) := by
  unfold escape
  refine iteInduction (fun isZero => ?_) fun _ => ?_
  · subst isZero
    obtain _ | ⟨d, more⟩ := rest
    · exact zero rfl fun d member => by cases member
    · refine iteInduction (fun _ => escaped ['x', '0', '0']
        ⟨fun _ => rfl, fun _ => rfl, fun _ => by decide⟩) fun noDigit => ?_
      refine zero rfl fun d' member => ?_
      obtain rfl : d = d' := by simpa using member
      exact Bool.eq_false_iff.mpr noDigit
  refine iteInduction (fun same => escaped ['b']
    (same ▸ ⟨fun _ => rfl, fun _ => rfl, fun _ => by decide⟩)) fun _ => ?_
  refine iteInduction (fun same => escaped ['f']
    (same ▸ ⟨fun _ => rfl, fun _ => rfl, fun _ => by decide⟩)) fun _ => ?_
  refine iteInduction (fun same => escaped ['n']
    (same ▸ ⟨fun _ => rfl, fun _ => rfl, fun _ => by decide⟩)) fun noFeed => ?_
  refine iteInduction (fun same => escaped ['r']
    (same ▸ ⟨fun _ => rfl, fun _ => rfl, fun _ => by decide⟩)) fun noReturn => ?_
  refine iteInduction (fun same => escaped ['v']
    (same ▸ ⟨fun _ => rfl, fun _ => rfl, fun _ => by decide⟩)) fun _ => ?_
  refine iteInduction (fun isTab => ?_) fun _ => ?_
  · subst isTab
    refine self ?_ (by decide) (by decide)
    rcases isQuote with rfl | rfl <;> decide
  refine iteInduction (fun isMark => ?_) fun noMark => ?_
  · subst isMark
    exact iteInduction (fun starts => mark rfl starts) fun _ => escaped ['\\']
      ⟨fun _ => rfl, fun _ => rfl, fun _ => by decide⟩
  refine iteInduction (fun same => escaped [c] ?_) fun noQuote => ?_
  · rcases same ▸ isQuote with rfl | rfl <;>
      exact ⟨fun _ => rfl, fun _ => rfl, fun _ => by decide⟩
  refine iteInduction (fun small => escaped _ (spells_hexByte small)) fun _ => ?_
  refine iteInduction (fun same => escaped ['u', '2', '0', '2', '8']
    (same ▸ ⟨fun _ => rfl, fun _ => rfl, fun _ => by decide⟩)) fun _ => ?_
  refine iteInduction (fun same => escaped ['u', '2', '0', '2', '9']
    (same ▸ ⟨fun _ => rfl, fun _ => rfl, fun _ => by decide⟩)) fun _ => ?_
  refine iteInduction (fun same => escaped ['u', 'F', 'E', 'F', 'F']
    (same ▸ ⟨fun _ => rfl, fun _ => rfl, fun _ => by decide⟩)) fun _ => ?_
  exact self noQuote noMark (not_or.mpr ⟨noFeed, noReturn⟩)

/-- A text as it is written starts with a solid character where the text itself does. -/
theorem head_escapeAll (isQuote : IsQuote quote) {picked : Char → Bool}
    (solid : ∀ c, picked c = true → IsSolid c) (content after : List Char) :
    (escapeAll quote content ++ quote :: after).head?.any picked = content.head?.any picked := by
  have noMark : picked '\\' = false :=
    Bool.eq_false_iff.mpr fun isPicked => (solid _ isPicked).2.2 rfl
  obtain _ | ⟨c, rest⟩ := content
  · have noQuote : picked quote = false := Bool.eq_false_iff.mpr fun isPicked =>
      absurd isQuote.bounded (Nat.not_lt.mpr (solid _ isPicked).1)
    simpa [escapeAll] using noQuote
  · rw [escapeAll, List.append_assoc]
    by_cases isPicked : picked c = true
    · rw [escape_solid isQuote (solid c isPicked)]
      rfl
    · have away : picked '\\' = (c :: rest).head?.any picked := by
        simpa [noMark] using isPicked
      exact escape_cases (motive := fun written =>
        (written ++ _).head?.any picked = (c :: rest).head?.any picked) isQuote rest
        (fun _ _ _ => rfl) (fun _ _ => away) (fun _ _ => away) fun _ _ => away

theorem stops_escapeAll (isQuote : IsQuote quote) {content : List Char}
    (stops : content.head?.any (fun c => decide (IsHex c)) = false) (after : List Char) :
    (escapeAll quote content ++ quote :: after).head?.any (fun c => decide (IsHex c)) = false := by
  rw [head_escapeAll isQuote (fun c isHex => IsHex.isSolid (of_decide_eq_true isHex)), stops]

/-- A single zero is no octal number where no digit was written behind it. -/
theorem startsOctal_zero (isQuote : IsQuote quote) {rest : List Char}
    (noDigit : ∀ d ∈ rest.head?, d.isDigit = false) (after : List Char) :
    startsOctal ('0' :: (escapeAll quote rest ++ quote :: after)) = false := by
  have head := head_escapeAll isQuote (fun c octal => (isHex_of_octal octal).1.isSolid) rest after
  have none : rest.head?.any (fun c => (digitValue? 8 c).isSome) = false := by
    obtain _ | ⟨d, more⟩ := rest
    · rfl
    · exact Bool.eq_false_iff.mpr fun octal =>
        absurd (isHex_of_octal octal).2 (by rw [noDigit d rfl]; decide)
  rw [none] at head
  generalize escapeAll quote rest ++ quote :: after = tail at head ⊢
  cases tail with
  | nil => rfl
  | cons d more => exact head

/-- A character is read back, unless it is a backslash in front of a surrogate. -/
theorem stringValue_escape_cons (isQuote : IsQuote quote) {rest : List Char}
    (plain : ¬(c = '\\' ∧ startsSurrogate rest = true)) (string : OpenString)
    (after : List Char) :
    stringValue quote string (escape quote c rest ++ (escapeAll quote rest ++ quote :: after)) =
      stringValue quote (string.extended [c]) (escapeAll quote rest ++ quote :: after) := by
  refine escape_cases (motive := fun written => stringValue quote string (written ++ _) = _)
    isQuote rest (fun noQuote noMark inLine => ?_) (fun same starts => ?_)
    (fun same noDigit => ?_) fun written spells => ?_
  · exact stringValue_char noQuote noMark inLine _
  · exact (plain ⟨same, starts⟩).elim
  · subst same
    have notOctal := startsOctal_zero isQuote noDigit after
    exact stringValue_escape isQuote.noMark notOctal (escapeSequence_zero notOctal) (Nat.le_succ _)
  · exact stringValue_escape isQuote.noMark (spells.notOctal _) (spells.reads _)
      (List.suffix_append _ _).length_le

/-- What is read where a text was written between quotes: the text itself, or nothing or another one
if a brace stays open in it. -/
structure ReadsBack (quote : Char) (content : List Char) : Prop where
  closed : hasOpen quote content = false → ∀ string after,
    stringValue quote string (escapeAll quote content ++ quote :: after) =
      .ok ((string.extended content).closed after)
  opened : hasOpen quote content = true → ∀ string after, '\x7d' ∉ after.take 2 →
    (∃ fault, stringValue quote string (escapeAll quote content ++ quote :: after) =
        .error fault) ∨
      ∃ value, value ≠ content ∧
        stringValue quote string (escapeAll quote content ++ quote :: after) =
          .ok ((string.extended value).closed after)

/-- Behind characters that were read back. -/
theorem ReadsBack.behind (chars : List Char) {rest : List Char}
    (reads : ∀ string after,
      stringValue quote string (escapeAll quote (chars ++ rest) ++ quote :: after) =
        stringValue quote (string.extended chars) (escapeAll quote rest ++ quote :: after))
    (same : hasOpen quote (chars ++ rest) = hasOpen quote rest) (back : ReadsBack quote rest) :
    ReadsBack quote (chars ++ rest) := by
  constructor
  · intro sound string after
    rw [reads, back.closed (same ▸ sound), OpenString.extended_extended]
  · intro opens string after quiet
    rw [reads]
    refine (back.opened (same ▸ opens) (string.extended chars) after quiet).imp_right ?_
    rintro ⟨value, other, inner⟩
    refine ⟨chars ++ value, fun equal => other (List.append_cancel_left equal), ?_⟩
    rw [inner, OpenString.extended_extended]

/-- Nothing is read where a text was written, or some text up to the closing quote. -/
theorem ReadsBack.settled {content after : List Char} (back : ReadsBack quote content)
    (string : OpenString) (quiet : '\x7d' ∉ after.take 2) :
    (∃ fault, stringValue quote string (escapeAll quote content ++ quote :: after) =
        .error fault) ∨
      ∃ value, stringValue quote string (escapeAll quote content ++ quote :: after) =
        .ok ((string.extended value).closed after) := by
  cases opens : hasOpen quote content with
  | true => exact (back.opened opens string after quiet).imp_right fun ⟨value, _, read⟩ => ⟨value, read⟩
  | false => exact .inr ⟨content, back.closed opens string after⟩

/-- A plain character holds no brace that stays open. -/
theorem hasOpen_cons {rest : List Char} (plain : ¬(c = '\\' ∧ startsSurrogate rest = true)) :
    hasOpen quote (c :: rest) = hasOpen quote rest := by
  have closed : (c == '\\' && startsOpen quote rest) = false := by
    rw [Bool.eq_false_iff, Ne, Bool.and_eq_true, beq_iff_eq]
    exact fun ⟨same, opens⟩ => plain ⟨same, startsSurrogate_of_startsOpen opens⟩
  rw [hasOpen, closed, Bool.false_or]

theorem Surrogate.solid (surrogate : Surrogate) : ∀ c ∈ surrogate.digits, IsSolid c :=
  fun c member => (surrogate.hex c member).isSolid

section Mark

variable {chars rest : List Char} (plain : ∀ c ∈ chars, escape quote c [] = [c])
include plain

/-- The escape of a surrogate is written as it is. -/
theorem escapeAll_mark (starts : startsSurrogate (chars ++ rest) = true) :
    escapeAll quote ('\\' :: (chars ++ rest)) = '\\' :: (chars ++ escapeAll quote rest) := by
  have mark : escape quote '\\' (chars ++ rest) = ['\\'] := by
    simp [escape, starts]
  rw [escapeAll, mark, escapeAll_plain plain]
  rfl

theorem hasOpen_mark :
    hasOpen quote ('\\' :: (chars ++ rest)) =
      (startsOpen quote (chars ++ rest) || hasOpen quote rest) := by
  rw [hasOpen, hasOpen_append fun c member => (escape_plain (plain c member) []).2]
  rfl

/-- An escape that is written as it is and that stands for its own spelling is read back. -/
theorem ReadsBack.behind_mark (isQuote : IsQuote quote)
    (starts : startsSurrogate (chars ++ rest) = true)
    (closed : startsOpen quote (chars ++ rest) = false)
    (notOctal : ∀ tail, startsOctal (chars ++ tail) = false)
    (reads : ∀ tail, escapeSequence (chars ++ tail) = (.ok ('\\' :: chars), tail))
    (back : ReadsBack quote rest) : ReadsBack quote ('\\' :: (chars ++ rest)) := by
  refine back.behind ('\\' :: chars) (fun string after => ?_) ?_
  · rw [List.cons_append, escapeAll_mark plain starts, List.cons_append, List.append_assoc]
    exact stringValue_escape isQuote.noMark (notOctal _) (reads _) (List.suffix_append _ _).length_le
  · rw [List.cons_append, hasOpen_mark plain, closed, Bool.false_or]

end Mark

/-- More digits behind those of a surrogate spell the code of another character, if of any. -/
theorem Surrogate.more (surrogate : Surrogate) {more : List Char} (nonempty : more ≠ [])
    (hex : ∀ c ∈ more, IsHex c) :
    isSurrogate (spelled 16 (surrogate.digits ++ more)) = false ∧
      Char.ofNat (spelled 16 (surrogate.digits ++ more)) ≠ '\\' := by
  obtain ⟨digit, others, rfl⟩ := List.exists_cons_of_ne_nil nonempty
  have large := spelled_lt surrogate.digits (hex _ List.mem_cons_self) others
  have inRange := surrogate.inRange
  simp only [isSurrogate, Bool.and_eq_true, decide_eq_true_eq] at inRange
  constructor
  · rw [isSurrogate, Bool.and_eq_false_iff, decide_eq_false_iff_not, decide_eq_false_iff_not]
    omega
  · intro mark
    by_cases valid : (spelled 16 (surrogate.digits ++ digit :: others)).isValidChar
    · rw [Char.ofNat, dif_pos valid] at mark
      have code := congrArg Char.toNat mark
      change spelled 16 (surrogate.digits ++ digit :: others) = 92 at code
      omega
    · rw [Char.ofNat, dif_neg valid] at mark
      exact absurd mark (by decide)

section Surrogate

variable (isQuote : IsQuote quote) (surrogate : Surrogate)
include isQuote

theorem plain_of_solid {chars : List Char} (solid : ∀ c ∈ chars, IsSolid c) :
    ∀ c ∈ chars, escape quote c [] = [c] :=
  fun c member => escape_solid isQuote (solid c member) []

/-- The escape of a surrogate without braces is read back. -/
theorem readsBack_bare {rest : List Char} (back : ReadsBack quote rest) :
    ReadsBack quote ('\\' :: 'u' :: (surrogate.digits ++ rest)) := by
  have solid : ∀ c ∈ 'u' :: surrogate.digits, IsSolid c :=
    List.forall_mem_cons.mpr ⟨by decide, surrogate.solid⟩
  refine back.behind_mark (plain_of_solid isQuote solid) isQuote
    (surrogate.startsSurrogate_bare rest) (surrogate.startsOpen_bare rest) (fun _ => rfl)
    fun tail => ?_
  exact (unicodeEscape_digits surrogate.hex surrogate.four).trans (if_pos surrogate.inRange)

/-- The escape of a surrogate in braces is read back. -/
theorem readsBack_braced {inside rest : List Char} (held : IsHeld quote inside)
    (back : ReadsBack quote rest) :
    ReadsBack quote
      ('\\' :: 'u' :: '\x7b' :: (surrogate.digits ++ (inside ++ '\x7d' :: rest))) := by
  have closed : startsOpen quote
      ('u' :: '\x7b' :: (surrogate.digits ++ (inside ++ '\x7d' :: rest))) = false := by
    rw [surrogate.startsOpen_braced, closes_iff.mpr ⟨inside, rest, rfl, held⟩]
    rfl
  have starts := surrogate.startsSurrogate_braced (inside ++ '\x7d' :: rest)
  have plain : ∀ c ∈ 'u' :: '\x7b' :: (surrogate.digits ++ (inside ++ ['\x7d'])),
      escape quote c [] = [c] := by
    have brace : ∀ c ∈ ['u', '\x7b', '\x7d'], escape quote c [] = [c] :=
      plain_of_solid isQuote (by decide)
    simp only [List.forall_mem_cons, List.forall_mem_append]
    exact ⟨brace _ (by simp), brace _ (by simp), plain_of_solid isQuote surrogate.solid, held.plain,
      brace _ (by simp), by simp⟩
  have shape : surrogate.digits ++ (inside ++ '\x7d' :: rest) =
      surrogate.digits ++ (inside ++ ['\x7d']) ++ rest := by simp
  rw [shape] at closed starts ⊢
  refine back.behind_mark plain isQuote starts closed (fun _ => rfl) fun tail => ?_
  have escaped := bracedEscape_surrogate surrogate.hex surrogate.four surrogate.inRange held.noBrace
    held.short held.stops tail
  rw [List.append_cons inside, ← List.append_assoc] at escaped
  exact escaped

end Surrogate

/-- What is written for a character other than a closing brace holds none. -/
theorem noBrace_escape (isQuote : IsQuote quote) (other : c ≠ '\x7d') (rest : List Char) :
    '\x7d' ∉ escape quote c rest ∧ 0 < (escape quote c rest).length := by
  refine escape_cases (motive := fun written => '\x7d' ∉ written ∧ 0 < written.length) isQuote rest
    (fun _ _ _ => ?_) (fun _ _ => by decide) (fun _ _ => by decide) fun written spells => ?_
  · simpa using other.symm
  · exact ⟨List.not_mem_cons_of_ne_of_not_mem (by decide) (spells.noBrace other), Nat.succ_pos _⟩

theorem startsSurrogate_brace (next : Char) (last : List Char) :
    startsSurrogate (next :: '\x7d' :: last) = false := by
  by_contra starts
  rw [Bool.not_eq_false] at starts
  unfold startsSurrogate at starts
  split at starts
  next same => exact absurd (List.cons.inj (List.cons.inj same).2).1 (by decide)
  next same =>
    obtain ⟨surrogate, rest, split⟩ := spellsSurrogate_iff.mp starts
    obtain ⟨first, others, digits, -⟩ := surrogate.exists_first
    have isBrace : '\x7d' = first := by
      rw [digits] at split
      exact (List.cons.inj ((List.cons.inj same).2.trans split)).1
    exact absurd (surrogate.hex first (digits ▸ List.mem_cons_self)) (isBrace ▸ by decide)
  next => cases starts

/-- A closing brace among the first characters that were written closes the text in front of it. -/
theorem exists_brace (isQuote : IsQuote quote) {rest after written behind : List Char}
    (quiet : '\x7d' ∉ after.take 2)
    (same : escapeAll quote rest ++ quote :: after = written ++ '\x7d' :: behind)
    (noBrace : '\x7d' ∉ written) (short : written.length ≤ 2) :
    ∃ inside last, rest = inside ++ '\x7d' :: last ∧ '\x7d' ∉ inside ∧
      inside.length ≤ written.length ∧ behind = escapeAll quote last ++ quote :: after ∧
        (written = inside → ∀ c ∈ inside, escape quote c [] = [c]) := by
  induction rest generalizing written with
  | nil =>
      exfalso
      cases written with
      | nil =>
          have bound := isQuote.bounded
          rw [(List.cons.inj same).1] at bound
          exact absurd bound (by decide)
      | cons first written =>
          have split : after = written ++ '\x7d' :: behind := (List.cons.inj same).2
          refine quiet (List.mem_take_iff_getElem.mpr ⟨written.length, ?_, ?_⟩)
          · rw [split]
            simp only [List.length_cons] at short
            simp
            omega
          · simp [split]
  | cons c rest ih =>
      by_cases brace : c = '\x7d'
      · subst brace
        rw [escapeAll, escape_solid isQuote (by decide)] at same
        cases written with
        | nil => exact ⟨[], rest, rfl, List.not_mem_nil, le_rfl, (List.cons.inj same).2.symm, by simp⟩
        | cons first written =>
            exact absurd ((List.cons.inj same).1 ▸ List.mem_cons_self) noBrace
      · obtain ⟨clean, nonempty⟩ := noBrace_escape isQuote brace rest
        rw [escapeAll, List.append_assoc] at same
        obtain ⟨more, rfl, back⟩ : ∃ more, written = escape quote c rest ++ more ∧
            escapeAll quote rest ++ quote :: after = more ++ '\x7d' :: behind := by
          rcases List.append_eq_append_iff.mp same with split | ⟨more, front, back⟩
          · exact split
          · cases more with
            | nil => exact ⟨[], by rw [front, List.append_nil, List.append_nil], back.symm⟩
            | cons first more =>
                obtain ⟨rfl, -⟩ := List.cons.inj back
                exact absurd (front ▸ List.mem_append_right _ List.mem_cons_self) clean
        rw [List.length_append] at short
        rw [List.mem_append, not_or] at noBrace
        obtain ⟨inside, last, rfl, none, fewer, goesOn, plain⟩ := ih back noBrace.2 (by omega)
        refine ⟨c :: inside, last, rfl, ?_, ?_, goesOn, fun whole => ?_⟩
        · exact List.not_mem_cons_of_ne_of_not_mem (Ne.symm brace) none
        · rw [List.length_append, List.length_cons]
          omega
        · -- Only what is written as itself is as long as it is.
          have size := congrArg List.length whole
          rw [List.length_append, List.length_cons] at size
          obtain ⟨first, only⟩ := List.length_eq_one_iff.mp (show (escape quote c
            (inside ++ '\x7d' :: last)).length = 1 by omega)
          rw [only] at whole
          obtain ⟨rfl, others⟩ := List.cons.inj whole
          refine List.forall_mem_cons.mpr ⟨?_, plain others⟩
          refine (plain_of_escape only).resolve_right fun ⟨_, starts⟩ => ?_
          have few : inside.length ≤ 1 := by omega
          match inside, few with
          | [], _ => cases starts
          | [next], _ => exact absurd starts (Bool.eq_false_iff.mp (startsSurrogate_brace next last))

section Opened

variable (isQuote : IsQuote quote)
include isQuote

/-- Behind an escape in braces that stands for some characters. -/
theorem stringValue_braced {tail last value after : List Char} (back : ReadsBack quote last)
    (reads : bracedEscape tail = (.ok value, escapeAll quote last ++ quote :: after))
    (fewer : (escapeAll quote last ++ quote :: after).length ≤ tail.length)
    (quiet : '\x7d' ∉ after.take 2) (string : OpenString) :
    (∃ fault, stringValue quote string ('\\' :: 'u' :: '\x7b' :: tail) = .error fault) ∨
      ∃ more, stringValue quote string ('\\' :: 'u' :: '\x7b' :: tail) =
        .ok ((string.extended (value ++ more)).closed after) := by
  have escaped : escapeSequence ('u' :: '\x7b' :: tail) = _ := reads
  rw [stringValue_escape isQuote.noMark rfl escaped (fewer.trans (Nat.le_add_right _ 2))]
  refine (back.settled (string.extended value) quiet).imp_right fun ⟨more, inner⟩ => ⟨more, ?_⟩
  rw [inner, OpenString.extended_extended]

theorem stringValue_unbraced {tail after : List Char} {error : ParseError}
    (reads : bracedEscape tail = (.error error, after)) (string : OpenString) :
    ∃ fault, stringValue quote string ('\\' :: 'u' :: '\x7b' :: tail) = .error fault := by
  have escaped : escapeSequence ('u' :: '\x7b' :: tail) = _ := reads
  exact ⟨_, stringValue_fault isQuote.noMark escaped⟩

variable (surrogate : Surrogate) {rest after : List Char}
  (back : ∀ last, last.length < rest.length → ReadsBack quote last) (quiet : '\x7d' ∉ after.take 2)
  (string : OpenString)
include back quiet

/-- Digits behind those of a surrogate make the escape one of another character. -/
theorem opened_digits {more last : List Char} (shape : rest = more ++ last) (nonempty : more ≠ [])
    (hex : ∀ c ∈ more, IsHex c) (stops : last.head?.any (fun c => decide (IsHex c)) = false) :
    let tail := surrogate.digits ++ (escapeAll quote rest ++ quote :: after)
    (∃ fault, stringValue quote string ('\\' :: 'u' :: '\x7b' :: tail) = .error fault) ∨
      ∃ c value, c ≠ '\\' ∧ stringValue quote string ('\\' :: 'u' :: '\x7b' :: tail) =
        .ok ((string.extended (c :: value)).closed after) := by
  intro tail
  obtain ⟨noSurrogate, noMark⟩ := surrogate.more nonempty hex
  have all : ∀ c ∈ surrogate.digits ++ more, IsHex c :=
    List.forall_mem_append.mpr ⟨surrogate.hex, hex⟩
  have written : tail = surrogate.digits ++ more ++ (escapeAll quote last ++ quote :: after) := by
    have plain := plain_of_solid isQuote fun c member => (hex c member).isSolid
    simp only [tail, shape, escapeAll_plain plain, List.append_assoc]
  have head := stops_escapeAll isQuote stops after
  rw [written]
  by_cases closed : (escapeAll quote last ++ quote :: after).head? = some '\x7d'
  · obtain ⟨behind, split⟩ := List.head?_eq_some_iff.mp closed
    obtain ⟨inside, last, rfl, -, none, rfl, -⟩ :=
      exists_brace isQuote quiet (show _ = [] ++ '\x7d' :: behind from split) List.not_mem_nil
        (Nat.zero_le _)
    obtain rfl := List.eq_nil_of_length_eq_zero (Nat.le_zero.mp none)
    rw [split]
    rcases bracedEscape_other all noSurrogate (escapeAll quote last ++ quote :: after) with
      ⟨error, left, reads⟩ | reads
    · exact .inl (stringValue_unbraced isQuote reads string)
    · have fewer : last.length < rest.length := by
        rw [shape]
        simp
        omega
      refine (stringValue_braced isQuote (back last fewer) reads ?_ quiet string).imp_right
        fun ⟨value, read⟩ => ⟨_, value, noMark, read⟩
      simp
      omega
  · obtain ⟨error, left, reads⟩ := bracedEscape_open all noSurrogate head closed
    exact .inl (stringValue_unbraced isQuote reads string)

/-- An escape that takes characters which are not written as themselves stands for others. -/
theorem opened_taken (stops : rest.head?.any (fun c => decide (IsHex c)) = false)
    (unclosed : closes quote rest = false) :
    let tail := surrogate.digits ++ (escapeAll quote rest ++ quote :: after)
    (∃ fault, stringValue quote string ('\\' :: 'u' :: '\x7b' :: tail) = .error fault) ∨
      ∃ value, value ≠ rest ∧ stringValue quote string ('\\' :: 'u' :: '\x7b' :: tail) =
        .ok ((string.extended ('\\' :: 'u' :: '\x7b' :: (surrogate.digits ++ value))).closed after) := by
  intro tail
  have head := stops_escapeAll isQuote stops after
  rcases bracedEscape_cases surrogate.hex surrogate.four surrogate.inRange head with
    ⟨error, left, reads⟩ | ⟨written, behind, split, noBrace, short⟩
  · exact .inl (stringValue_unbraced isQuote reads string)
  · obtain ⟨inside, last, rfl, none, fewer, rfl, plain⟩ :=
      exists_brace isQuote quiet split noBrace short
    have starts : written.head?.any (fun c => decide (IsHex c)) = false := by
      cases written with
      | nil => rfl
      | cons => simpa [split] using head
    have reads := bracedEscape_surrogate surrogate.hex surrogate.four surrogate.inRange noBrace
      short starts (escapeAll quote last ++ quote :: after)
    simp only [tail, split]
    refine (stringValue_braced isQuote (back last (by simp; omega)) reads (by simp; omega) quiet
      string).imp_right fun ⟨more, read⟩ => ⟨written ++ '\x7d' :: more, fun same => ?_, ?_⟩
    · -- What was read could only be the text if the text closed the escape itself.
      have whole : written = inside := by
        have equal := congrArg (List.takeWhile (· != '\x7d')) same
        rwa [List.takeWhile_append_of_pos fun c member =>
            bne_iff_ne.mpr (ne_of_mem_of_not_mem member noBrace),
          List.takeWhile_append_of_pos fun c member =>
            bne_iff_ne.mpr (ne_of_mem_of_not_mem member none),
          List.takeWhile_cons_of_neg (by decide), List.takeWhile_cons_of_neg (by decide),
          List.append_nil, List.append_nil] at equal
      have held : IsHeld quote inside := ⟨fewer.trans short, plain whole, none, whole ▸ starts⟩
      rw [closes_iff.mpr ⟨inside, last, rfl, held⟩] at unclosed
      cases unclosed
    · rw [read]
      simp

end Opened

/-- The escape of a surrogate that stays open is not read back. -/
theorem readsBack_opened (isQuote : IsQuote quote) (surrogate : Surrogate) {rest : List Char}
    (unclosed : closes quote rest = false)
    (back : ∀ last, last.length < rest.length → ReadsBack quote last) :
    ReadsBack quote ('\\' :: 'u' :: '\x7b' :: (surrogate.digits ++ rest)) := by
  have plain : ∀ c ∈ 'u' :: '\x7b' :: surrogate.digits, escape quote c [] = [c] :=
    plain_of_solid isQuote (List.forall_mem_cons.mpr ⟨by decide,
      List.forall_mem_cons.mpr ⟨by decide, surrogate.solid⟩⟩)
  have opens : hasOpen quote ('\\' :: 'u' :: '\x7b' :: (surrogate.digits ++ rest)) = true := by
    have mark : hasOpen quote ('\\' :: ('u' :: '\x7b' :: surrogate.digits ++ rest)) = _ :=
      hasOpen_mark plain
    simp only [List.cons_append, surrogate.startsOpen_braced, unclosed] at mark
    exact mark
  refine ⟨fun closed => absurd (opens.symm.trans closed) (by decide), fun _ string after quiet => ?_⟩
  have written : escapeAll quote ('\\' :: 'u' :: '\x7b' :: (surrogate.digits ++ rest)) ++
      quote :: after =
        '\\' :: 'u' :: '\x7b' :: (surrogate.digits ++ (escapeAll quote rest ++ quote :: after)) := by
    have mark := escapeAll_mark plain (surrogate.startsSurrogate_braced rest)
    simp only [List.cons_append] at mark
    rw [mark]
    simp
  rw [written]
  obtain ⟨more, last, shape, hex, stops⟩ := exists_hexDigits rest
  by_cases hasMore : more = []
  · subst hasMore
    rw [List.nil_append] at shape
    refine (opened_taken isQuote surrogate back quiet string (shape ▸ stops) unclosed).imp_right
      fun ⟨value, other, read⟩ => ⟨_, fun same => other ?_, read⟩
    simpa using same
  · refine (opened_digits isQuote surrogate back quiet string shape hasMore hex stops).imp_right
      fun ⟨c, value, noMark, read⟩ => ⟨_, fun same => noMark ?_, read⟩
    exact (List.cons.inj same).1

end Writing

/-- What is read where a text was written is told by the text. -/
theorem readsBack {quote : Char} (isQuote : IsQuote quote) (content : List Char) :
    ReadsBack quote content := by
  induction content using pieces_induction quote with
  | nil => exact ⟨fun _ string after => stringValue_quote after, fun opens => by cases opens⟩
  | plain c rest plain back =>
      refine back.behind [c] (fun string after => ?_) (hasOpen_cons plain)
      rw [List.singleton_append, escapeAll, List.append_assoc]
      exact stringValue_escape_cons isQuote plain string after
  | bare surrogate rest back => exact readsBack_bare isQuote surrogate back
  | braced surrogate inside rest held back => exact readsBack_braced isQuote surrogate held back
  | opened surrogate rest unclosed back => exact readsBack_opened isQuote surrogate unclosed back

section Token

variable (isTyped : Bool) {value : String} (after : List Char)

theorem quoted_append : (quoted value).toList ++ after =
    quoteFor value.toList ::
      (escapeAll (quoteFor value.toList) value.toList ++ quoteFor value.toList :: after) := by
  rw [quoted, String.toList_ofList, List.append_assoc]
  rfl

theorem consumed_quoted : consumed ((quoted value).toList ++ after) after = quoted value := by
  rw [consumed, List.length_append, Nat.add_sub_cancel, List.take_left, String.ofList_toList]

/-- A quote starts a string. -/
theorem token_quote {quote : Char} (isQuote : IsQuote quote) (chars : List Char) :
    token isTyped (quote :: chars) =
      match stringValue quote ⟨[], none⟩ chars with
      | .ok (value, noted, after) =>
        (.text ⟨value, some (consumed (quote :: chars) after)⟩, noted, after)
      | .error (error, after) => faulty error after := by
  rcases isQuote with rfl | rfl <;> rfl

/-- A text in which no brace stays open is the value of the token that it is written as. -/
theorem token_quoted (kept : IsKept value) :
    token isTyped ((quoted value).toList ++ after) =
      (.text ⟨value, some (quoted value)⟩, none, after) := by
  have isQuote := quoteFor_isQuote value.toList
  have reads := (readsBack isQuote value.toList).closed kept ⟨[], none⟩ after
  rw [OpenString.closed_extended, String.ofList_toList] at reads
  rw [quoted_append, token_quote isTyped isQuote, reads, ← quoted_append]
  dsimp only
  rw [consumed_quoted]

/-- A text in which a brace stays open is not the value of the token that it is written as, if that
is one. -/
theorem token_quoted_open (opens : ¬ IsKept value)
    (quiet : '\x7d' ∉ after.take 2) :
    (∃ error left, token isTyped ((quoted value).toList ++ after) = faulty error left) ∨
      ∃ other raw, other ≠ value ∧
        token isTyped ((quoted value).toList ++ after) = (.text ⟨other, raw⟩, none, after) := by
  have isQuote := quoteFor_isQuote value.toList
  rw [quoted_append, token_quote isTyped isQuote]
  rcases (readsBack isQuote value.toList).opened (Bool.of_not_eq_false opens) ⟨[], none⟩
    after quiet with
    ⟨⟨error, left⟩, reads⟩ | ⟨other, different, reads⟩
  · exact .inl ⟨error, left, by rw [reads]⟩
  · refine .inr ⟨String.ofList other, _, ?_, by rw [reads, OpenString.closed_extended]⟩
    rintro rfl
    exact different String.toList_ofList.symm

/-- A quote behind a blank starts the next token. -/
theorem ofChars_quote {quote : Char} (isQuote : IsQuote quote) (chars : List Char) :
    Lexed.ofChars isTyped (' ' :: quote :: chars) =
      let (token, noted, rest) := token isTyped (quote :: chars)
      ⟨token, false, noted, quote :: chars, rest, ' ' :: quote :: chars⟩ := by
  rcases isQuote with rfl | rfl <;> rfl

theorem ofChars_quoted (value : String) :
    Lexed.ofChars isTyped (' ' :: ((quoted value).toList ++ after)) =
      let (token, noted, rest) := token isTyped ((quoted value).toList ++ after)
      ⟨token, false, noted, (quoted value).toList ++ after, rest,
        ' ' :: ((quoted value).toList ++ after)⟩ := by
  rw [quoted_append]
  exact ofChars_quote isTyped (quoteFor_isQuote _) _

end Token

end Quoted

end StyleInline.Script
