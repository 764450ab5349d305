import StyleInline.Proofs.Templates

/-!
# Words in their places

A word of letters is read as it is, up to the first character that continues no word.  A word that
means nothing to the grammar may name whatever is declared, and stands for a value where one is
read.
-/

namespace StyleInline.Script

namespace Lexer

def isWord : List Char → Bool
  | [] => false
  | c :: rest =>
    Text.isIdentifierStart c && !isSpace c && !isLineEnd c &&
      (c :: rest).all Text.isIdentifierPart

def endsWord (c : Char) : Bool := !Text.isIdentifierPart c && c != '\\'

theorem endsWord_blank : endsWord ' ' = true := by decide

theorem nameWithin_letters {letters : List Char}
    (parts : ∀ c ∈ letters, Text.isIdentifierPart c = true) {c : Char} (ends : endsWord c = true)
    (tail : List Char) {fuel : Nat} (enough : letters.length < fuel) {reversed : List Char}
    (started : reversed ≠ []) :
    nameWithin fuel ⟨reversed, false, none⟩ (letters ++ c :: tail) =
      (.ok ⟨letters.reverse ++ reversed, false, none⟩, c :: tail) := by
  have begun (other : Char) : (⟨reversed, false, none⟩ : OpenName).allows other =
      Text.isIdentifierPart other := by
    simp [OpenName.allows, started]
  induction letters generalizing fuel reversed with
  | nil =>
      obtain ⟨fuel, rfl⟩ := Nat.exists_eq_add_of_lt enough
      simp only [endsWord, Bool.and_eq_true, Bool.not_eq_true', bne_iff_ne, ne_eq] at ends
      rw [List.nil_append, nameWithin.eq_4 _ _ _ _ (fun _ mark => absurd mark ends.2) ends.2, begun,
        ends.1]
      rfl
  | cons letter letters ih =>
      obtain ⟨fuel, rfl⟩ := Nat.exists_eq_add_of_lt enough
      have part := parts letter List.mem_cons_self
      have plain : letter ≠ '\\' := by
        rintro rfl
        exact absurd part (by decide)
      have fewer : letters.length < letters.length + 1 + fuel := by omega
      have more : (letter :: letters).length + fuel + 1 = (letters.length + 1 + fuel).succ := by
        rw [List.length_cons]
      rw [more, List.cons_append,
        nameWithin.eq_4 _ _ _ _ (fun _ mark => absurd mark plain) plain, begun, if_pos part,
        ih (fun c inside => parts c (List.mem_cons_of_mem _ inside)) fewer
          (List.cons_ne_nil _ _) fun other => by simp [OpenName.allows]]
      simp

theorem not_isDigit {c : Char} (starts : Text.isIdentifierStart c = true) :
    c.isDigit = false := by
  cases digit : c.isDigit with
  | false => rfl
  | true =>
      simp only [Char.isDigit, Bool.and_eq_true, decide_eq_true_eq] at digit
      have low : 48 ≤ c.toNat := digit.1
      have high : c.toNat ≤ 57 := digit.2
      have code : c = Char.ofNat c.toNat := (Char.ofNat_toNat c).symm
      generalize c.toNat = n at *
      subst code
      have all : ∀ k < 10, Text.isIdentifierStart (Char.ofNat (48 + k)) = false := by decide
      have none := all (n - 48) (by omega)
      rw [Nat.add_sub_cancel' low] at none
      rw [none] at starts
      cases starts

/-- What follows from a character that starts a word. -/
theorem ne_of_isIdentifierStart {c other : Char} (starts : Text.isIdentifierStart c = true)
    (none : Text.isIdentifierStart other = false) : c ≠ other := by
  rintro rfl
  rw [starts] at none
  cases none

theorem token_word (isTyped : Bool) {letters : List Char} (isWord : isWord letters = true)
    {c : Char} (ends : endsWord c = true) (tail : List Char) :
    token isTyped (letters ++ c :: tail) = (.word (String.ofList letters), none, c :: tail) := by
  cases letters with
  | nil => cases isWord
  | cons first rest =>
      simp only [Lexer.isWord, Bool.and_eq_true, Bool.not_eq_true', List.all_eq_true,
        List.forall_mem_cons] at isWord
      obtain ⟨⟨⟨starts, _⟩, _⟩, _, parts⟩ := isWord
      have plain : first ≠ '\\' := ne_of_isIdentifierStart starts (by decide)
      have read : word (first :: rest ++ c :: tail) =
          (.word (String.ofList (first :: rest)), none, c :: tail) := by
        rw [word, List.cons_append, nameWithin.eq_4 _ _ _ _ (fun _ mark => absurd mark plain) plain]
        simp only [OpenName.allows, List.isEmpty_nil, ↓reduceIte, starts]
        rw [nameWithin_letters parts ends tail _ (List.cons_ne_nil _ _)]
        · simp
        · simp only [List.length_append, List.length_cons]; omega
      have double : first ≠ '"' := ne_of_isIdentifierStart starts (by decide)
      have single : first ≠ '\'' := ne_of_isIdentifierStart starts (by decide)
      have point : first ≠ '.' := ne_of_isIdentifierStart starts (by decide)
      rw [List.cons_append] at read ⊢
      simp [token, double, single, point, not_isDigit starts, starts, read]

theorem skipGap_word {letters : List Char} (isWord : isWord letters = true) (newline : Bool)
    (tail : List Char) :
    skipGap newline .spaces (letters ++ tail) = ⟨newline, false, letters ++ tail⟩ := by
  cases letters with
  | nil => cases isWord
  | cons first rest =>
      simp only [Lexer.isWord, Bool.and_eq_true, Bool.not_eq_true'] at isWord
      obtain ⟨⟨⟨starts, space⟩, lineEnd⟩, _⟩ := isWord
      have slash : first ≠ '/' := ne_of_isIdentifierStart starts (by decide)
      rw [List.cons_append, skipGap.eq_3 _ _ _ (fun _ mark => absurd mark slash)
        fun _ mark => absurd mark slash, lineEnd, space]
      rfl

theorem lineMark?_word {letters : List Char} (isWord : isWord letters = true) (newline : Bool)
    (tail : List Char) : lineMark? newline (letters ++ tail) = none := by
  cases letters with
  | nil => cases isWord
  | cons first rest =>
      simp only [Lexer.isWord, Bool.and_eq_true] at isWord
      obtain ⟨⟨⟨starts, _⟩, _⟩, _⟩ := isWord
      have less : '<' ≠ first := (ne_of_isIdentifierStart starts (by decide)).symm
      have dash : '-' ≠ first := (ne_of_isIdentifierStart starts (by decide)).symm
      have equals : '=' ≠ first := (ne_of_isIdentifierStart starts (by decide)).symm
      have greater : '>' ≠ first := (ne_of_isIdentifierStart starts (by decide)).symm
      simp [lineMark?, less, dash, equals, greater]

end Lexer

namespace Lexed

open Lexer

variable (isTyped : Bool) {letters : List Char} (word : isWord letters = true) {c : Char}
  (ends : endsWord c = true) (tail : List Char)
include word ends

theorem within_word (fuel : Nat) (newline : Bool) :
    within isTyped (fuel + 1) newline none (letters ++ c :: tail) =
      { token := .word (String.ofList letters)
        newline
        noted := none
        start := letters ++ c :: tail
        rest := c :: tail } := by
  simp [within, skipGap_word word, lineMark?_word word, token_word isTyped word ends]

/-- A word behind a blank. -/
theorem ofChars_word :
    ofChars isTyped (' ' :: (letters ++ c :: tail)) =
      ⟨.word (String.ofList letters), false, none, letters ++ c :: tail, c :: tail,
        ' ' :: (letters ++ c :: tail)⟩ := by
  have gap : within isTyped ((' ' :: (letters ++ c :: tail)).length + 1) false none
      (' ' :: (letters ++ c :: tail)) = within isTyped ((letters ++ c :: tail).length + 1 + 1) false
        none (letters ++ c :: tail) := rfl
  rw [ofChars, gap, within_word isTyped word ends tail]

end Lexed

namespace Grammar

def unboundWords : List String :=
  keywords ++
    ["enum", "let", "await", "yield", "static", "implements", "interface", "package", "private",
     "protected", "public", "eval", "arguments"]

/-- A word that names what is declared. -/
def isBindable (name : String) : Bool :=
  Lexer.isWord name.toList && !unboundWords.contains name

/-- A word that names what is declared, and has no meaning where a value or a type is read. -/
def isFree (name : String) : Bool :=
  isBindable name && !(["async", "type"] ++ typeNames).contains name

section Bindable

variable {name : String} (bindable : isBindable name = true)
include bindable

/-- A name consists of letters. -/
theorem parts_of_isBindable : ∀ c ∈ name.toList, Text.isIdentifierPart c = true := by
  rw [isBindable, Bool.and_eq_true] at bindable
  obtain ⟨word, _⟩ := bindable
  cases spelled : name.toList with
  | nil => exact List.forall_mem_nil _
  | cons c rest =>
      simp only [spelled, Lexer.isWord, Bool.and_eq_true, List.all_eq_true] at word
      exact word.2

theorem isWord_of_isBindable : Lexer.isWord name.toList = true := by
  rw [isBindable, Bool.and_eq_true] at bindable
  exact bindable.1

theorem ne_of_isBindable {word : String} (unbound : unboundWords.contains word = true) :
    name ≠ word := by
  rintro rfl
  simp [isBindable, List.contains_iff_mem.mp unbound] at bindable

theorem not_mem_keywords : name ∉ keywords := by
  intro inside
  refine ne_of_isBindable bindable (List.contains_iff_mem.mpr ?_) rfl
  exact List.mem_append_left _ inside

/-- The words that a name is told from. -/
theorem plain_of_isBindable :
    name ≠ "enum" ∧ name ≠ "let" ∧ name ≠ "await" ∧ name ≠ "yield" ∧ name ≠ "static" ∧
      name ≠ "implements" ∧ name ≠ "interface" ∧ name ≠ "package" ∧ name ≠ "private" ∧
      name ≠ "protected" ∧ name ≠ "public" ∧ name ≠ "eval" ∧ name ≠ "arguments" ∧
      name ≠ "this" := by
  refine ⟨?_, ?_, ?_, ?_, ?_, ?_, ?_, ?_, ?_, ?_, ?_, ?_, ?_, ?_⟩ <;>
    exact ne_of_isBindable bindable (by decide)

/-- A name behind a blank. -/
theorem ofChars_bindable (isTyped : Bool) {c : Char} (ends : Lexer.endsWord c = true)
    (tail : List Char) :
    Lexed.ofChars isTyped (' ' :: (name.toList ++ c :: tail)) =
      ⟨.word name, false, none, name.toList ++ c :: tail, c :: tail,
        ' ' :: (name.toList ++ c :: tail)⟩ := by
  rw [Lexed.ofChars_word isTyped (isWord_of_isBindable bindable) ends, String.ofList_toList]

variable {context : Context} {cursor : Cursor} {after : Lexed}
  (seen : cursor.lexed.token = .word name)
  (next : Lexed.ofChars context.dialect.types cursor.lexed.rest = after)
  (quiet : after.noted = none)
include seen next quiet

theorem outcome_identifierName (allowYield : Bool) :
    outcome (identifierName allowYield) context cursor =
      (.ok name, { cursor with lexed := after }) := by
  simp [identifierName, demand, seen, next, quiet, not_mem_keywords bindable,
    plain_of_isBindable bindable]

theorem outcome_bindingName (refusesLet : Bool) :
    outcome (bindingName refusesLet) context cursor =
      (.ok name, { cursor with lexed := after }) := by
  simp [bindingName, seen, outcome_identifierName bindable seen next quiet, isStrictBinding,
    plain_of_isBindable bindable]

end Bindable

section Free

variable {name : String} (free : isFree name = true)
include free

theorem isBindable_of_isFree : isBindable name = true := by
  rw [isFree, Bool.and_eq_true] at free
  exact free.1

theorem isEmpty_of_isFree : name.isEmpty = false := by
  cases empty : name.isEmpty with
  | false => rfl
  | true =>
      rw [String.isEmpty_iff.mp empty] at free
      exact absurd free (by decide)

theorem not_mem_of_isFree : name ∉ ["async", "type"] ++ typeNames := by
  rw [isFree, Bool.and_eq_true, Bool.not_eq_true'] at free
  exact fun inside => Bool.false_ne_true (free.2.symm.trans (List.contains_iff_mem.mpr inside))

/-- The words that a value is told from. -/
theorem plain_of_isFree :
    name ≠ "async" ∧ name ≠ "type" ∧ name ≠ "null" ∧ name ≠ "true" ∧ name ≠ "false" ∧
      name ≠ "super" ∧ name ≠ "import" ∧ name ≠ "new" ∧ name ≠ "function" ∧ name ≠ "class" := by
  have others := not_mem_of_isFree free
  refine ⟨?_, ?_, ?_, ?_, ?_, ?_, ?_, ?_, ?_, ?_⟩
  · rintro rfl
    exact others (by decide)
  · rintro rfl
    exact others (by decide)
  all_goals exact ne_of_isBindable (isBindable_of_isFree free) (by decide)

end Free

end Grammar

end StyleInline.Script
