import StyleInline.Glob.Braces
import StyleInline.Proofs.Wildcards

/-!
# Octets of names

The octets of a character tell where it starts, so a name fits a segment octet by octet as it fits
it character by character; only a mark, which stands for one octet there, needs names of ASCII.
-/

namespace StyleInline.Glob

open String (utf8EncodeChar)

def octets (chars : List Char) : List UInt8 := chars.flatMap utf8EncodeChar

theorem toUTF8_eq (text : String) : text.toUTF8.data.toList = octets text.toList := by
  have same : text.toUTF8 = text.toList.utf8Encode := String.utf8Encode_toList.symm
  rw [same, List.utf8Encode, List.toList_data_toByteArray]
  rfl

@[simp]
theorem octets_append (chars others : List Char) :
    octets (chars ++ others) = octets chars ++ octets others := List.flatMap_append

section Characters

/-- The octets of a character end where they do, whatever follows them. -/
theorem encoded_append {c d : Char} {rest others : List UInt8}
    (same : utf8EncodeChar c ++ rest = utf8EncodeChar d ++ others) : c = d ∧ rest = others := by
  have decoded : ∀ (c : Char) (rest : List UInt8),
      (utf8EncodeChar c ++ rest).toByteArray.utf8DecodeChar? 0 = some c := by
    intro c rest
    rw [List.toByteArray_append]
    exact ByteArray.utf8DecodeChar?_utf8EncodeChar_append
  have first := decoded c rest
  rw [same, decoded d others] at first
  cases first
  exact ⟨rfl, List.append_cancel_left same⟩

/-- An octet that starts no character. -/
def Continues (b : UInt8) : Prop := ¬ b.IsUTF8FirstByte

theorem encoded_cons (c : Char) :
    ∃ first rest, utf8EncodeChar c = first :: rest ∧ ¬ Continues first ∧ ∀ b ∈ rest, Continues b := by
  have starts := @UInt8.isUTF8FirstByte_getElem_utf8EncodeChar c
  obtain ⟨first, rest, spelled⟩ := List.exists_cons_of_ne_nil (@String.utf8EncodeChar_ne_nil c)
  refine ⟨first, rest, spelled, ?_, ?_⟩
  · have zero := @starts 0 (by simp [spelled])
    simp only [spelled, List.getElem_cons_zero, iff_true] at zero
    exact not_not.mpr zero
  · intro b member
    obtain ⟨index, inside, rfl⟩ := List.getElem_of_mem member
    have later := @starts (index + 1) (by simpa [spelled] using inside)
    simp only [spelled, List.getElem_cons_succ, Nat.succ_ne_zero, iff_false] at later
    exact later

/-- A character of one octet. -/
def IsShort (c : Char) : Prop := c.toNat < 128

instance (c : Char) : Decidable (IsShort c) := inferInstanceAs (Decidable (c.toNat < 128))

theorem encoded_short {c : Char} (short : IsShort c) : utf8EncodeChar c = [Braces.octet c] := by
  have size : c.utf8Size = 1 := by
    rw [Char.utf8Size_eq_one_iff, UInt32.le_iff_toNat_le]
    exact Nat.le_of_lt_succ short
  exact String.utf8EncodeChar_eq_singleton size

/-- The octet of a short character stands for that character only. -/
theorem eq_of_octet_mem {c d : Char} (short : IsShort c)
    (member : Braces.octet c ∈ utf8EncodeChar d) : d = c := by
  obtain ⟨first, rest, spelled, starts, continues⟩ := encoded_cons d
  have alone := encoded_short short
  rw [spelled] at member
  rcases List.mem_cons.mp member with same | later
  · have joined : utf8EncodeChar d ++ [] = utf8EncodeChar c ++ rest := by
      rw [List.append_nil, spelled, alone, same]
      rfl
    exact (encoded_append joined).1
  · obtain ⟨first', rest', spelled', starts', _⟩ := encoded_cons c
    rw [alone, List.cons.injEq] at spelled'
    rw [← spelled'.1] at starts'
    exact absurd (continues _ later) starts'

theorem octet_mem_octets {c : Char} (short : IsShort c) {chars : List Char} :
    Braces.octet c ∈ octets chars ↔ c ∈ chars := by
  rw [octets, List.mem_flatMap]
  constructor
  · rintro ⟨d, member, inside⟩
    rw [← eq_of_octet_mem short inside]
    exact member
  · intro member
    exact ⟨c, member, by simp [encoded_short short]⟩

end Characters

section Fitting

abbrev star : UInt8 := Braces.octet '*'

abbrev mark : UInt8 := Braces.octet '?'

abbrev slash : UInt8 := Braces.octet '/'

/-- A name fits a segment, octet by octet. -/
def FitsOctets (segment name : String) : Prop :=
  Matches star mark (octets segment.toList) (octets name.toList)

variable {symbols name : List Char}

theorem octets_cons (c : Char) (chars : List Char) :
    octets (c :: chars) = utf8EncodeChar c ++ octets chars := rfl

theorem octets_short {c : Char} (short : IsShort c) (chars : List Char) :
    octets (c :: chars) = Braces.octet c :: octets chars := by
  rw [octets_cons, encoded_short short]
  rfl

/-- Octets that are neither a star nor a mark stand for themselves. -/
theorem solid_iff {solid : List UInt8} (solids : ∀ b ∈ solid, b ≠ star ∧ b ≠ mark)
    (rest name : List UInt8) :
    Matches star mark (solid ++ rest) name ↔
      ∃ back, name = solid ++ back ∧ Matches star mark rest back := by
  induction solid generalizing name with
  | nil => simp
  | cons b solid ih =>
      rw [List.cons_append, Matches.literal_iff (solids b (by simp))]
      simp only [ih fun other member => solids other (by simp [member])]
      constructor
      · rintro ⟨_, rfl, back, rfl, fits⟩
        exact ⟨back, rfl, fits⟩
      · rintro ⟨back, rfl, fits⟩
        exact ⟨_, rfl, back, rfl, fits⟩

theorem encoded_solid {c : Char} (solid : c ≠ '*' ∧ c ≠ '?') :
    ∀ b ∈ utf8EncodeChar c, b ≠ star ∧ b ≠ mark := by
  intro b member
  constructor
  · rintro rfl
    exact solid.1 (eq_of_octet_mem (by decide) member)
  · rintro rfl
    exact solid.2 (eq_of_octet_mem (by decide) member)

/-- A part of the octets of a name starts with what is left of a character. -/
theorem octets_split {front back : List UInt8} (split : octets name = front ++ back) :
    ∃ before behind rest, name = before ++ behind ∧ back = rest ++ octets behind ∧
      (∀ b ∈ rest, Continues b) ∧ ((∀ c ∈ name, IsShort c) → rest = []) := by
  induction name generalizing front with
  | nil =>
      obtain ⟨_, rfl⟩ := List.append_eq_nil_iff.mp split.symm
      exact ⟨[], [], [], rfl, rfl, by simp, fun _ => rfl⟩
  | cons c name ih =>
      rw [octets_cons] at split
      rcases List.append_eq_append_iff.mp split with ⟨front, rfl, later⟩ | ⟨rest, spelled, rfl⟩
      · obtain ⟨before, behind, rest, rfl, rfl, continues, none⟩ := ih later
        refine ⟨c :: before, behind, rest, rfl, rfl, continues, fun short => none ?_⟩
        intro other member
        exact short other (by simp [member])
      · obtain ⟨first, tail, spelled', _, continues⟩ := encoded_cons c
        cases front with
        | nil =>
            refine ⟨[], c :: name, [], rfl, ?_, by simp, fun _ => rfl⟩
            rw [octets_cons, spelled]
            rfl
        | cons other front =>
            refine ⟨[c], name, rest, rfl, rfl, ?_, ?_⟩
            · intro b member
              rw [spelled, List.cons_append, List.cons.injEq] at spelled'
              exact continues b (by simp [← spelled'.2, member])
            · intro short
              rw [encoded_short (short c (by simp)), List.cons_append, List.cons.injEq] at spelled
              exact (List.append_eq_nil_iff.mp spelled.2.symm).2

/-- What is left of a character is not needed. -/
theorem matches_behind {rest back : List UInt8} (continues : ∀ b ∈ rest, Continues b)
    (marked : '?' ∈ symbols → rest = [])
    (fits : Matches star mark (octets symbols) (rest ++ back)) :
    Matches star mark (octets symbols) back := by
  induction symbols generalizing rest with
  | nil =>
      rw [octets, List.flatMap_nil, Matches.nil_iff] at fits ⊢
      exact (List.append_eq_nil_iff.mp fits).2
  | cons c symbols ih =>
      cases rest with
      | nil => exact fits
      | cons b rest =>
          by_cases isStar : c = '*'
          · subst isStar
            rw [octets_short (by decide), Matches.star_iff] at fits ⊢
            obtain ⟨front, behind, split, fits⟩ := fits
            rcases List.append_eq_append_iff.mp split with ⟨front, _, rfl⟩ | ⟨left, spelled, rfl⟩
            · exact ⟨front, behind, rfl, fits⟩
            · refine ⟨[], back, rfl, ih ?_ ?_ fits⟩
              · intro other member
                exact continues other (by simp [spelled, member])
              · intro member
                have none := marked (by simp [member])
                cases none
          · have other : c ≠ '?' := by
              rintro rfl
              have none := marked (by simp)
              cases none
            obtain ⟨first, tail, spelled, starts, _⟩ := encoded_cons c
            rw [octets_cons, solid_iff (encoded_solid ⟨isStar, other⟩), spelled] at fits
            obtain ⟨_, same, _⟩ := fits
            rw [List.cons_append, List.cons_append, List.cons.injEq] at same
            rw [← same.1] at starts
            exact absurd (continues b (by simp)) starts

/-- Names fit octet by octet what they fit character by character. -/
theorem fits_octets_iff (short : '?' ∈ symbols → ∀ c ∈ name, IsShort c) :
    Matches star mark (octets symbols) (octets name) ↔ Matches '*' '?' symbols name := by
  induction symbols generalizing name with
  | nil =>
      rw [octets, List.flatMap_nil, Matches.nil_iff, Matches.nil_iff]
      cases name with
      | nil => simp [octets]
      | cons c name => simp [octets, String.utf8EncodeChar_ne_nil]
  | cons c symbols ih =>
      have later : ∀ {before behind : List Char}, name = before ++ behind →
          ('?' ∈ symbols → ∀ c ∈ behind, IsShort c) := by
        rintro before behind rfl member d inside
        exact short (by simp [member]) d (by simp [inside])
      by_cases isStar : c = '*'
      · subst isStar
        rw [octets_short (by decide), Matches.star_iff, Matches.star_iff]
        constructor
        · rintro ⟨front, back, split, fits⟩
          obtain ⟨before, behind, rest, rfl, rfl, continues, none⟩ := octets_split split
          refine ⟨before, behind, rfl, (ih (later rfl)).mp ?_⟩
          exact matches_behind continues (fun member => none (short (by simp [member]))) fits
        · rintro ⟨before, behind, rfl, fits⟩
          exact ⟨octets before, octets behind, octets_append _ _, (ih (later rfl)).mpr fits⟩
      by_cases isMark : c = '?'
      · subst isMark
        rw [octets_short (by decide), Matches.any_iff (by decide), Matches.any_iff (by decide)]
        cases name with
        | nil => simp [octets]
        | cons d name =>
            have one := short (by simp) d (by simp)
            rw [octets_short one]
            constructor
            · rintro ⟨b, rest, split, fits⟩
              rw [List.cons.injEq] at split
              obtain ⟨rfl, rfl⟩ := split
              exact ⟨d, name, rfl, (ih (later (List.singleton_append).symm)).mp fits⟩
            · rintro ⟨e, rest, split, fits⟩
              rw [List.cons.injEq] at split
              obtain ⟨rfl, rfl⟩ := split
              exact ⟨_, _, rfl, (ih (later (List.singleton_append).symm)).mpr fits⟩
      · rw [octets_cons, solid_iff (encoded_solid ⟨isStar, isMark⟩),
          Matches.literal_iff ⟨isStar, isMark⟩]
        constructor
        · rintro ⟨back, split, fits⟩
          cases name with
          | nil =>
              have none := List.append_eq_nil_iff.mp split.symm
              exact absurd none.1 String.utf8EncodeChar_ne_nil
          | cons d name =>
              obtain ⟨rfl, rfl⟩ := encoded_append split
              exact ⟨name, rfl, (ih (later (List.singleton_append).symm)).mp fits⟩
        · rintro ⟨rest, rfl, fits⟩
          exact ⟨octets rest, rfl, (ih (later (List.singleton_append).symm)).mpr fits⟩

end Fitting

end StyleInline.Glob
