import StyleInline.Proofs.Lines
import StyleInline.Proofs.Quoting

/-!
# The import of a tag

The line of an import of one name from a module.  Read wherever it stands, it gives that import,
with the spelling of the module's name.
-/

namespace StyleInline.Script

namespace Grammar

/-- One name of an import list, with the name on the far side if that is another one. -/
def specifierText (name : String) : Option String → List Char
  | none => name.toList
  | some other => other.toList ++ ' ' :: 'a' :: 's' :: ' ' :: name.toList

def specifierOf (name : String) (imported : Option String) : ImportSpecifier :=
  .named { name } (imported.map fun other => .ident { name := other }) false

/-- The line of an import of one name. -/
def importText (name : String) (imported : Option String) (source : String) : List Char :=
  "import".toList ++ ' ' :: '\x7b' :: ' ' :: (specifierText name imported ++
    ' ' :: '\x7d' :: ' ' :: 'f' :: 'r' :: 'o' :: 'm' :: ' ' ::
      ((Quoted.quoted source).toList ++ [';']))

/-- The import of one name, as it is read. -/
def importOf (name : String) (imported : Option String) (source : String) : Node :=
  .importDecl
    { typeOnly := false
      specifiers := [specifierOf name imported]
      source := ⟨source, some (Quoted.quoted source)⟩ }
    .absent


theorem ofChars_brace_blank (isTyped : Bool) (tail : List Char) :
    Lexed.ofChars isTyped (' ' :: '\x7d' :: tail) =
      ⟨.punct "\x7d", false, none, '\x7d' :: tail, tail, ' ' :: '\x7d' :: tail⟩ :=
  rfl

variable {context : Context} {cursor : Cursor} {name : String} {imported : Option String}
  {tail : List Char} (free : isFree name = true)
  (known : ∀ other ∈ imported, isFree other = true)
include free known

theorem outcome_importSpecifier
    (here : cursor.lexed = Lexed.ofChars context.dialect.types
      (' ' :: (specifierText name imported ++ ' ' :: '\x7d' :: tail))) :
    outcome (importSpecifier false) context cursor =
      (.ok (specifierOf name imported),
        { cursor with lexed := Lexed.ofChars context.dialect.types (' ' :: '\x7d' :: tail) }) := by
  have blank := Lexer.endsWord_blank
  have bindable := isBindable_of_isFree free
  have bound := @outcome_bindingName name bindable context
    { cursor with
      lexed := Lexed.ofChars context.dialect.types (' ' :: (name.toList ++ ' ' :: '\x7d' :: tail)) }
    _ (by rw [ofChars_bindable bindable _ blank])
    (by rw [ofChars_bindable bindable _ blank, ofChars_brace_blank])
    rfl false
  rw [ofChars_bindable bindable _ blank] at bound
  cases imported with
  | none =>
      rw [specifierText, ofChars_bindable bindable _ blank] at here
      simp [importSpecifier, moduleName, demand, atName, isWord, here, ofChars_brace_blank,
        plain_of_isFree free, specifierOf]
  | some other =>
      have marked := plain_of_isFree (known other rfl)
      have others := isBindable_of_isFree (known other rfl)
      have text : specifierText name (some other) ++ ' ' :: '\x7d' :: tail =
          other.toList ++ ' ' :: 'a' :: 's' :: ' ' :: (name.toList ++ ' ' :: '\x7d' :: tail) := by
        simp [specifierText]
      have as (tail : List Char) : Lexed.ofChars context.dialect.types
          (' ' :: 'a' :: 's' :: ' ' :: tail) =
        ⟨.word "as", false, none, 'a' :: 's' :: ' ' :: tail, ' ' :: tail,
          ' ' :: 'a' :: 's' :: ' ' :: tail⟩ := rfl
      rw [text, ofChars_bindable others _ blank] at here
      simp [importSpecifier, moduleName, demand, atName, isWord, here, as,
        ofChars_bindable bindable _ blank, bound, ofChars_brace_blank, marked, specifierOf]

/-- The first token of a name in a list is a word. -/
theorem exists_specifier (isTyped : Bool) (tail : List Char) : ∃ word length,
    let lexed := Lexed.ofChars isTyped (' ' :: (specifierText name imported ++ ' ' :: tail))
    lexed.token = .word word ∧ lexed.noted = none ∧ lexed.start.length = length + 1 := by
  have blank := Lexer.endsWord_blank
  have bindable := isBindable_of_isFree free
  cases imported with
  | none =>
      refine ⟨name, name.toList.length + tail.length, ?_⟩
      rw [specifierText, ofChars_bindable bindable _ blank]
      simp
      omega
  | some other =>
      refine ⟨other, other.toList.length + (3 + name.toList.length + 1 + tail.length), ?_⟩
      have text : specifierText name (some other) ++ ' ' :: tail =
          other.toList ++ ' ' :: 'a' :: 's' :: ' ' :: (name.toList ++ ' ' :: tail) := by
        simp [specifierText]
      rw [text, ofChars_bindable (isBindable_of_isFree (known other rfl)) _ blank]
      simp
      omega

/-- A list of one name, behind its opening brace. -/
theorem outcome_specifiers
    (here : cursor.lexed = Lexed.ofChars context.dialect.types
      (' ' :: (specifierText name imported ++ ' ' :: '\x7d' :: tail)))
    (settled : (Lexed.ofChars context.dialect.types tail).noted = none) :
    outcome (specifiers (importSpecifier false)) context cursor =
      (.ok [specifierOf name imported],
        { cursor with lexed := Lexed.ofChars context.dialect.types tail }) := by
  have read := @outcome_importSpecifier context cursor name imported tail free known here
  obtain ⟨word, length, seen, quiet, long⟩ :=
    exists_specifier free known context.dialect.types ('\x7d' :: tail)
  rw [← here] at seen long
  simp [specifiers, many, long, repeatWithin, seen, read, ofChars_brace_blank, expectMark, settled]

omit free known in
/-- An import ends in the quote of the module's name and a semicolon. -/
theorem not_endsBehindComma (name : String) (imported : Option String) (source : String) :
    endsBehindComma (importText name imported source) = false := by
  have solid : Text.isBlank (Quoted.quoteFor source.toList) = false ∧
      Quoted.quoteFor source.toList ≠ ',' := by
    rcases Quoted.quoteFor_isQuote source.toList with same | same <;> rw [same] <;> decide
  have ends : ∃ front, importText name imported source =
      front ++ [Quoted.quoteFor source.toList, ';'] := by
    refine ⟨"import".toList ++ ' ' :: '\x7b' :: ' ' :: (specifierText name imported ++
      ' ' :: '\x7d' :: ' ' :: 'f' :: 'r' :: 'o' :: 'm' :: ' ' :: Quoted.quoteFor source.toList ::
        Quoted.escapeAll (Quoted.quoteFor source.toList) source.toList), ?_⟩
    simp [importText, Quoted.quoted_append]
  obtain ⟨front, ends⟩ := ends
  rw [endsBehindComma, ends]
  simp [solid]

omit free known in
/-- The text of an import is what was read when its end has been left behind. -/
theorem consumed_import (name : String) (imported : Option String) (source : String)
    (behind : List Char) :
    (Lexer.consumed (importText name imported source ++ behind) behind).toList =
      importText name imported source := by
  rw [Lexer.consumed, List.length_append, Nat.add_sub_cancel, List.take_left, String.toList_ofList]

omit free known in
theorem outcome_item_import {dialect : Dialect} {last : Cursor} {node : Node} {fuel : Nat}
    (seen : cursor.lexed.token = .word "import")
    (next : (Lexed.ofChars dialect.types cursor.lexed.rest).token = .punct "\x7b")
    (read : outcome (importItem (reader (fuel + 1))) { dialect } cursor = (.ok node, last)) :
    outcome (reader (fuel + 2) .item) { dialect } cursor =
      (.ok node, { last with isTrial := cursor.isTrial }) := by
  have undecorated : outcome (reader (fuel + 1) .decorators) { dialect } cursor =
      (.ok (.form .decorators []), cursor) := by
    simp [reader, step, decorators, seen]
  have all : outcome (item (reader (fuel + 1))) { dialect } cursor =
      (.ok node, { last with isTrial := cursor.isTrial }) := by
    simp [item, withoutColon, outcome_inContext, decorated, undecorated, seen, beyondMarks, next,
      read]
  exact all

def importBody (name : String) (imported : Option String) (source : String) (tail : List Char) :
    List Char :=
  '\x7b' :: ' ' :: (specifierText name imported ++ ' ' :: '\x7d' ::
    ' ' :: 'f' :: 'r' :: 'o' :: 'm' :: ' ' :: ((Quoted.quoted source).toList ++ ';' :: tail))

theorem outcome_importItem {source : String} (kept : Quoted.IsKept source)
    {behind : List Char}
    (whole : cursor.lexed.start = importText name imported source ++ '\n' :: behind)
    (rest : cursor.lexed.rest = ' ' :: importBody name imported source ('\n' :: behind))
    (settled : (Lexed.ofChars context.dialect.types ('\n' :: behind)).noted = none)
    (recur : Read) :
    outcome (importItem recur) context cursor =
      (.ok (importOf name imported source),
        { cursor with lexed := Lexed.ofChars context.dialect.types ('\n' :: behind) }) := by
  have source_eq := Quoted.ofChars_quoted context.dialect.types (';' :: '\n' :: behind) source
  rw [Quoted.token_quoted _ _ kept] at source_eq
  let front := (Quoted.quoted source).toList ++ ';' :: '\n' :: behind
  have brace : Lexed.ofChars context.dialect.types
      (' ' :: importBody name imported source ('\n' :: behind)) =
    ⟨.punct "\x7b", false, none, importBody name imported source ('\n' :: behind),
      ' ' :: (specifierText name imported ++ ' ' :: '\x7d' ::
        ' ' :: 'f' :: 'r' :: 'o' :: 'm' :: ' ' :: front),
      ' ' :: importBody name imported source ('\n' :: behind)⟩ := rfl
  have from_ : Lexed.ofChars context.dialect.types
      (' ' :: 'f' :: 'r' :: 'o' :: 'm' :: ' ' :: front) =
    ⟨.word "from", false, none, 'f' :: 'r' :: 'o' :: 'm' :: ' ' :: front, ' ' :: front,
      ' ' :: 'f' :: 'r' :: 'o' :: 'm' :: ' ' :: front⟩ := rfl
  have listed := @outcome_specifiers context
    { cursor with
      lexed := Lexed.ofChars context.dialect.types
        (' ' :: (specifierText name imported ++ ' ' :: '\x7d' ::
          ' ' :: 'f' :: 'r' :: 'o' :: 'm' :: ' ' :: front)) }
    name imported _ free known rfl (by rw [from_])
  obtain ⟨word, length, first, quiet, long⟩ := exists_specifier free known context.dialect.types
    ('\x7d' :: ' ' :: 'f' :: 'r' :: 'o' :: 'm' :: ' ' :: front)
  have read := consumed_import name imported source ('\n' :: behind)
  have untrailed := not_endsBehindComma name imported source
  have last : (Lexed.ofChars context.dialect.types ('\n' :: behind)).before = '\n' :: behind := rfl
  rw [from_] at listed
  simp [importItem, importFront, atIdentifier, isIdentifier, rest, brace, importedNames,
    quiet, listed, moduleSource, expectWord, front, source_eq, demand, stringLiteral,
    attributes?, expectStatementEnd, eatStatementEnd, ofChars_closing, settled, isTrailedFrom,
    whole, last, read, untrailed, importOf]

/-- The line of an import of one name is read as that import. -/
theorem stands_import {source : String} (kept : Quoted.IsKept source)
    (dialect : Dialect) :
    Stands dialect (importText name imported source) (importOf name imported source) := by
  refine stands_of_word (by decide) (by decide) (by decide)
    fun behind opens depth deep before start => ?_
  obtain ⟨fuel, rfl⟩ := exists_depth 4 (by decide) deep
  let body := ' ' :: importBody name imported source ('\n' :: behind)
  have text : importText name imported source ++ '\n' :: behind = "import".toList ++ body := by
    simp [importText, body, importBody]
  have tail : ' ' :: ('\x7b' :: ' ' :: (specifierText name imported ++
      ' ' :: '\x7d' :: ' ' :: 'f' :: 'r' :: 'o' :: 'm' :: ' ' ::
        ((Quoted.quoted source).toList ++ [';'])) ++ '\n' :: behind) = body := by
    simp [body, importBody]
  rw [tail]
  let cursor : Cursor :=
    { lexed := ⟨.word (String.ofList "import".toList), true, none, "import".toList ++ body, body,
        before⟩
      arrowStart := start }
  have read := @outcome_importItem { dialect } cursor name imported free known source kept behind
    text.symm rfl opens.settled (reader (fuel + 3))
  have all := @outcome_item_import cursor dialect _ _ (fuel + 2) rfl rfl read
  rw [Lexed.ofChars_newline] at all
  exact ⟨start, all⟩

end Grammar

end StyleInline.Script
