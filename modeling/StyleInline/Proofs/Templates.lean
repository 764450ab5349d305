import StyleInline.Proofs.Parsing

/-!
# Raw texts of templates

A template behind a tag is read up to the first backtick that no escape takes for itself.  A text
without backticks and substitutions is read as it is, unless its last escape goes on behind it: an
odd number of backslashes at the end, or the escape of a surrogate with an opening brace and fewer
than six characters behind that.
-/

namespace StyleInline.Script.Grammar

/-- Neither a backtick nor a substitution stands in the text. -/
def IsBare (chars : List Char) : Prop := '\x60' ∉ chars ∧ ¬ ['$', '{'] <:+: chars

/-- How many characters behind the text its escapes take, where the next `held` characters belong to
one. -/
def overhang : Nat → List Char → Nat
  | held, [] => held
  | held + 1, _ :: rest => overhang held rest
  | 0, c :: rest => overhang (if c = '\\' then escapeReach rest else 0) rest

/-- An escape in the text goes on behind it. -/
def EndsOpen (chars : List Char) : Prop := overhang 0 chars ≠ 0

instance (chars : List Char) : Decidable (IsBare chars) := inferInstanceAs (Decidable (_ ∧ _))

instance (chars : List Char) : Decidable (EndsOpen chars) :=
  inferInstanceAs (Decidable (_ ≠ _))

theorem IsBare.tail {c : Char} {chars : List Char} (bare : IsBare (c :: chars)) : IsBare chars where
  left member := bare.1 (List.mem_cons_of_mem c member)
  right inside := bare.2 (inside.trans (List.suffix_cons c chars).isInfix)

theorem overhang_past {held : Nat} {chars : List Char} (past : chars.length < held) :
    overhang held chars ≠ 0 := by
  induction chars generalizing held with
  | nil => exact Nat.ne_of_gt past
  | cons c chars ih =>
      obtain ⟨more, rfl⟩ := Nat.exists_eq_add_of_lt past
      exact ih (Nat.lt_of_lt_of_le (Nat.lt_succ_self _) (Nat.le_add_right _ _))

/-- The digits in front of a backtick are those that the text ends in. -/
theorem hexDigits_backtick (chars behind : List Char) :
    Lexer.hexDigits (chars ++ '\x60' :: behind) = Lexer.hexDigits chars := by
  induction chars with
  | nil => rfl
  | cons c chars ih =>
      rw [Lexer.hexDigits, Lexer.hexDigits, List.cons_append, List.takeWhile_cons,
        List.takeWhile_cons]
      split
      next => exact congrArg _ ih
      next => rfl

/-- What comes behind a backtick changes nothing about an escape that ends in front of it. -/
theorem bracedReach_backtick (chars behind : List Char) :
    Lexer.bracedReach chars ≤ chars.length ∧
        Lexer.bracedReach (chars ++ '\x60' :: behind) = Lexer.bracedReach chars ∨
      chars.length < Lexer.bracedReach chars ∧
        chars.length < Lexer.bracedReach (chars ++ '\x60' :: behind) := by
  simp only [Lexer.bracedReach, hexDigits_backtick]
  split
  next =>
    rw [List.take_append, List.findIdx?_append]
    cases found : (chars.take 6).findIdx? (· == '\x7d') with
    | some place =>
        left
        have bound := (List.findIdx?_eq_some_iff_findIdx_eq.mp found).1
        rw [List.length_take] at bound
        exact ⟨by simp only [Option.getD_some]; omega, rfl⟩
    | none =>
        simp only [Option.getD_none, Option.none_or]
        by_cases long : 6 ≤ chars.length
        · have full : 6 - chars.length = 0 := by omega
          exact .inl ⟨long, by simp [full]⟩
        · right
          obtain ⟨room, gap⟩ := Nat.exists_eq_add_of_lt (Nat.lt_of_not_le long)
          have left : 6 - chars.length = room + 1 := by omega
          have taken : (chars.take 6).length = chars.length := by
            rw [List.length_take]
            omega
          refine ⟨by omega, ?_⟩
          rw [left, taken, List.take_succ_cons, List.findIdx?_cons]
          cases (behind.take room).findIdx? (· == '\x7d') with
          | none => simp; omega
          | some => simp
  next => exact .inl ⟨(List.takeWhile_prefix _).length_le, rfl⟩

theorem escapeReach_backtick (chars behind : List Char) :
    escapeReach chars ≤ chars.length ∧
        escapeReach (chars ++ '\x60' :: behind) = escapeReach chars ∨
      chars.length < escapeReach chars ∧
        chars.length < escapeReach (chars ++ '\x60' :: behind) := by
  unfold escapeReach
  split
  next rest =>
    have inner := bracedReach_backtick rest behind
    simp only [List.cons_append, List.length_cons]
    omega
  next other =>
    split
    next rest same =>
      rcases chars with _ | ⟨first, _ | ⟨second, chars⟩⟩
      · cases same
      · cases same
      · cases same
        exact (other _ rfl).elim
    next =>
      cases chars with
      | nil => simp
      | cons => simp

/-- What was met so far stands at the front of the text of a template. -/
theorem prefix_templateText (held : Nat) (reversed chars : List Char) :
    reversed.reverse <+: (templateText held reversed chars).1.toList := by
  fun_induction templateText held reversed chars with
  | case1 held reversed c rest ih | case4 reversed c rest _ _ ih =>
      refine List.IsPrefix.trans ?_ ih
      simp
  | case2 | case3 | case5 => simp

/-- Outside of an escape, what neither ends a text nor starts a substitution belongs to it. -/
theorem templateText_cons {c : Char} {chars : List Char} (bare : IsBare (c :: chars))
    (reversed behind : List Char) :
    templateText 0 reversed (c :: (chars ++ '\x60' :: behind)) =
      templateText (if c = '\\' then escapeReach (chars ++ '\x60' :: behind) else 0)
        (c :: reversed) (chars ++ '\x60' :: behind) := by
  refine templateText.eq_4 _ _ _ ?_ ?_
  · rintro rest rfl same
    cases chars with
    | nil => cases same
    | cons next chars =>
        obtain ⟨rfl, -⟩ := List.cons.inj same
        exact bare.2 ⟨[], chars, rfl⟩
  · rintro rfl
    exact bare.1 List.mem_cons_self

section Text

variable {held : Nat} {chars : List Char}

theorem templateText_past (past : chars.length < held) (reversed behind : List Char) :
    ∃ more, templateText held reversed (chars ++ '\x60' :: behind) =
      templateText more ('\x60' :: (chars.reverse ++ reversed)) behind := by
  induction chars generalizing held reversed with
  | nil =>
      obtain ⟨more, rfl⟩ := Nat.exists_eq_add_of_lt past
      exact ⟨0 + more, rfl⟩
  | cons c chars ih =>
      obtain ⟨more, rfl⟩ := Nat.exists_eq_add_of_lt past
      obtain ⟨more, same⟩ := @ih (chars.length + 1 + more) (by omega) (c :: reversed)
      refine ⟨more, ?_⟩
      simpa [templateText] using same

/-- A text in which each escape ends is read up to the backtick behind it. -/
theorem templateText_append (bare : IsBare chars) (closed : overhang held chars = 0)
    (reversed behind : List Char) :
    templateText held reversed (chars ++ '\x60' :: behind) =
      (String.ofList (reversed.reverse ++ chars), '\x60' :: behind) := by
  fun_induction overhang held chars generalizing reversed with
  | case1 held =>
      subst closed
      simp [templateText]
  | case2 held c rest ih =>
      rw [List.cons_append, templateText, ih bare.tail closed]
      simp
  | case3 c rest ih =>
      rw [List.cons_append, templateText_cons bare]
      have same : (if c = '\\' then escapeReach (rest ++ '\x60' :: behind) else 0) =
          if c = '\\' then escapeReach rest else 0 := by
        split
        next escape =>
          rw [if_pos escape] at closed
          rcases escapeReach_backtick rest behind with ⟨-, same⟩ | ⟨past, -⟩
          · exact same
          · exact absurd closed (overhang_past past)
        next => rfl
      rw [same, ih bare.tail closed]
      simp

/-- An escape that goes on behind a text takes the backtick. -/
theorem templateText_overhang (bare : IsBare chars) (opens : overhang held chars ≠ 0)
    (reversed behind : List Char) :
    ∃ more, templateText held reversed (chars ++ '\x60' :: behind) =
      templateText more ('\x60' :: (chars.reverse ++ reversed)) behind := by
  fun_induction overhang held chars generalizing reversed with
  | case1 held =>
      obtain ⟨more, rfl⟩ := Nat.exists_eq_succ_of_ne_zero opens
      exact ⟨more, rfl⟩
  | case2 held c rest ih =>
      obtain ⟨more, same⟩ := ih bare.tail opens (c :: reversed)
      refine ⟨more, ?_⟩
      simpa [templateText] using same
  | case3 c rest ih =>
      rw [List.cons_append, templateText_cons bare]
      have goesOn : ∃ more, templateText
          (if c = '\\' then escapeReach (rest ++ '\x60' :: behind) else 0) (c :: reversed)
            (rest ++ '\x60' :: behind) =
          templateText more ('\x60' :: (rest.reverse ++ c :: reversed)) behind := by
        by_cases escape : c = '\\'
        · simp only [if_pos escape] at opens ih ⊢
          rcases escapeReach_backtick rest behind with ⟨-, same⟩ | ⟨-, past⟩
          · rw [same]
            exact ih bare.tail opens _
          · exact templateText_past past _ _
        · simp only [if_neg escape] at opens ih ⊢
          exact ih bare.tail opens _
      simpa using goesOn

end Text

theorem templateText_closed {chars : List Char} (bare : IsBare chars) (closed : ¬ EndsOpen chars)
    (behind : List Char) :
    templateText 0 [] (chars ++ '\x60' :: behind) = (String.ofList chars, '\x60' :: behind) :=
  templateText_append bare (Decidable.not_not.mp closed) [] behind

/-- A text that ends open is not all that is read. -/
theorem templateText_open {chars : List Char} (bare : IsBare chars) (opens : EndsOpen chars)
    (behind : List Char) :
    (templateText 0 [] (chars ++ '\x60' :: behind)).1 ≠ String.ofList chars := by
  intro same
  obtain ⟨more, goesOn⟩ := templateText_overhang bare opens [] behind
  have longer := prefix_templateText more ('\x60' :: (chars.reverse ++ [])) behind
  rw [← goesOn, same, String.toList_ofList] at longer
  have bound := longer.length_le
  simp only [List.append_nil, List.reverse_cons, List.reverse_reverse, List.length_append,
    List.length_singleton] at bound
  exact Nat.not_succ_le_self _ bound

section Template

variable {α β : Type} {context : Context} {cursor after : Cursor} {chars behind : List Char}

/-- A reader that goes on and succeeds has succeeded before. -/
theorem exists_of_outcome_bind {first : Parse α} {next : α → Parse β} {result : β}
    (read : outcome (first >>= next) context cursor = (.ok result, after)) :
    ∃ value middle, outcome first context cursor = (.ok value, middle) ∧
      outcome (next value) context middle = (.ok result, after) := by
  rw [outcome_bind] at read
  split at read
  next value middle here => exact ⟨value, middle, here, read⟩
  next => cases read

theorem exists_of_outcome_inContext {change : Context → Context} {reader : Parse α} {result : α}
    (read : outcome (inContext change reader) context cursor = (.ok result, after)) :
    ∃ middle, outcome reader (change context) cursor = (.ok result, middle) := by
  rw [outcome_inContext] at read
  rcases ran : outcome reader (change context) cursor with ⟨value, middle⟩
  rw [ran] at read
  cases read
  exact ⟨middle, rfl⟩

/-- The first text of a template with a tag is what was read as such. -/
theorem head_templatePartsWithin {substitution : Parse Node} {fuel : Nat} {texts : List String}
    {nodes : List Node}
    (read : outcome (templatePartsWithin true substitution fuel chars) context cursor =
      (.ok (texts, nodes), after)) :
    texts.head? = some (templateText 0 [] chars).1 := by
  cases fuel with
  | zero => cases read
  | succ fuel =>
      rw [templatePartsWithin] at read
      simp only [Bool.not_true, Bool.false_eq_true, ↓reduceIte] at read
      split at read
      next =>
        obtain ⟨_, _, _, ended⟩ := exists_of_outcome_bind read
        cases ended
      next =>
        split at read
        next =>
          obtain ⟨_, _, _, read⟩ := exists_of_outcome_bind read
          obtain ⟨_, _, _, read⟩ := exists_of_outcome_bind read
          obtain ⟨_, _, _, read⟩ := exists_of_outcome_bind read
          split at read
          next =>
            obtain ⟨_, _, _, read⟩ := exists_of_outcome_bind read
            obtain ⟨_, _, _, read⟩ := exists_of_outcome_bind read
            obtain ⟨_, _, _, read⟩ := exists_of_outcome_bind read
            obtain ⟨_, _, _, read⟩ := exists_of_outcome_bind read
            cases read
            rfl
          next =>
            obtain ⟨_, _, _, read⟩ := exists_of_outcome_bind read
            obtain ⟨_, _, _, read⟩ := exists_of_outcome_bind read
            cases read
            rfl
        next =>
          obtain ⟨_, _, _, read⟩ := exists_of_outcome_bind read
          cases read
          rfl

/-- A template with a tag, a text between its backticks. -/
theorem outcome_templateParts {substitution : Parse Node}
    (rest : cursor.lexed.rest = chars ++ '\x60' :: behind) (bare : IsBare chars)
    (closed : ¬ EndsOpen chars) :
    outcome (templateParts true substitution) context cursor =
      outcome (do resume behind; return ([String.ofList chars], [])) context cursor := by
  simp [templateParts, rest, templatePartsWithin, templateText_closed bare closed]

def Cursor.seeing (cursor : Cursor) (lexed : Lexed) : Cursor :=
  { cursor with
    lexed
    noted :=
      if cursor.isTrial then cursor.noted
      else lexed.noted.elim cursor.noted (Lexer.noting cursor.noted) }

theorem outcome_look_seeing (lexed : Lexed) :
    outcome (look lexed) context cursor = (.ok (), cursor.seeing lexed) := by
  cases noted : lexed.noted <;> cases trial : cursor.isTrial <;>
    simp [look, noted, note, Cursor.seeing, trial]

variable {recur : Read} {tag types : Node}

theorem outcome_templateLiteral (rest : cursor.lexed.rest = chars ++ '\x60' :: behind)
    (bare : IsBare chars) (closed : ¬ EndsOpen chars) :
    outcome (templateLiteral recur true) context cursor =
      (.ok (.form (.template [String.ofList chars]) []),
        cursor.seeing (Lexed.ofChars context.dialect.types behind)) := by
  simp [templateLiteral, outcome_templateParts rest bare closed, resume, outcome_look_seeing]

/-- A text that ends open is no text of a template. -/
theorem templateLiteral_open (rest : cursor.lexed.rest = chars ++ '\x60' :: behind)
    (bare : IsBare chars) (opens : EndsOpen chars) (after : Cursor) :
    outcome (templateLiteral recur true) context cursor ≠
      (.ok (.form (.template [String.ofList chars]) []), after) := by
  intro read
  obtain ⟨⟨texts, nodes⟩, _, parts, read⟩ := exists_of_outcome_bind read
  cases read
  rw [templateParts] at parts
  obtain ⟨_, _, here, parts⟩ := exists_of_outcome_bind parts
  cases here
  have head := head_templatePartsWithin parts
  rw [rest] at head
  exact templateText_open bare opens behind (Option.some.inj head).symm

def rawTemplate (tag types : Node) (chars : List Char) : Node :=
  .form .tagged [tag, types, .form (.template [String.ofList chars]) []]

/-- At every place, a text between backticks behind a tag is read as it is, and the reading goes on
behind it; but for a text that ends open. -/
theorem tagged_raw_iff (rest : cursor.lexed.rest = chars ++ '\x60' :: behind)
    (bare : IsBare chars) :
    (∃ after, outcome (tagged recur tag types) context cursor =
        (.ok (rawTemplate tag types chars), after) ∧
      after.lexed = Lexed.ofChars context.dialect.types behind) ↔ ¬ EndsOpen chars := by
  constructor
  · rintro ⟨after, read, -⟩ opens
    obtain ⟨template, middle, literal, read⟩ := exists_of_outcome_bind read
    obtain ⟨_, literal⟩ := exists_of_outcome_inContext literal
    have same : template = .form (.template [String.ofList chars]) [] := by
      cases chain : tag.isOptionalChain <;> simp [chain, rawTemplate, note] at read <;>
        exact read.1
    subst same
    exact templateLiteral_open rest bare opens _ literal
  · intro closed
    have literal := @outcome_templateLiteral { context with beforeColon := false } cursor chars
      behind recur rest bare closed
    cases chain : tag.isOptionalChain with
    | false =>
        refine ⟨cursor.seeing (Lexed.ofChars context.dialect.types behind), ?_, rfl⟩
        simp [tagged, withoutColon, outcome_inContext, literal, chain, rawTemplate, Cursor.seeing]
    | true =>
        refine ⟨(outcome (note .taggedOptional) context
          (cursor.seeing (Lexed.ofChars context.dialect.types behind))).2, ?_, ?_⟩
        · simp [tagged, withoutColon, outcome_inContext, literal, chain, rawTemplate, note,
            Cursor.seeing]
        · rw [note, outcome_modify]
          dsimp only
          split <;> rfl

end Template

end StyleInline.Script.Grammar
