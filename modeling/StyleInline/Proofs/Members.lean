import StyleInline.Proofs.Classes

/-!
# Members with styles

A class tells its styles by a static field, or by a static getter that returns them.  Each of them
is read on lines of its own, with the value that its text is read as.
-/

namespace StyleInline.Script

namespace Grammar

open Lexed (Begins)

section Styles

variable {context : Context} {cursor : Cursor} {after : Lexed}

/-- A static field with the name of styles. -/
def stylesField (value : Node) : Node :=
  .member { kind := .field, isStatic := true, before := [], after := [], mark := "" }
    (.form (.key "styles") []) [] value [.absent, .form .decorators []]

variable {recur : Read} {value : Node} {last : Cursor} {tail behind : List Char}

theorem outcome_field_styles (seen : cursor.lexed.token = .punct "=")
    (next : Lexed.ofChars context.dialect.types cursor.lexed.rest = after)
    (quiet : after.noted = none)
    (read : outcome (recur .assignment) { context with allowIn := true, inField := true }
      { cursor with lexed := after } = (.ok value, last))
    (stop : last.lexed = Lexed.ofChars context.dialect.types (';' :: behind))
    (settled : (Lexed.ofChars context.dialect.types behind).noted = none) :
    outcome (field recur { decorators := [], access := [], isStatic := true }
        (.form (.key "styles") [])) context cursor =
      (.ok (stylesField value),
        { last with
          lexed := Lexed.ofChars context.dialect.types behind
          isTrial := cursor.isTrial }) := by
  simp [field, isConstructorKey, Node.isPrivateKey, eatMarkIf, typeAnnotation, outcome_inContext,
    behindMark?, seen, next, quiet, read, stop, ofChars_closing, eatStatementEnd, settled,
    MemberWords.fieldHead, MemberWords.behindStatic, stylesField]

theorem ofChars_styles (isTyped : Bool) (tail : List Char) :
    Lexed.ofChars isTyped (' ' :: 's' :: 't' :: 'y' :: 'l' :: 'e' :: 's' :: ' ' :: tail) =
      ⟨.word "styles", false, none, 's' :: 't' :: 'y' :: 'l' :: 'e' :: 's' :: ' ' :: tail,
        ' ' :: tail, ' ' :: 's' :: 't' :: 'y' :: 'l' :: 'e' :: 's' :: ' ' :: tail⟩ :=
  rfl

theorem outcome_memberRest_styles (seen : cursor.lexed.token = .word "styles")
    (rest : cursor.lexed.rest = ' ' :: '=' :: ' ' :: tail)
    (next : Lexed.ofChars context.dialect.types (' ' :: tail) = after) (quiet : after.noted = none)
    (read : outcome (recur .assignment) { context with allowIn := true, inField := true }
      { cursor with lexed := after } = (.ok value, last))
    (stop : last.lexed = Lexed.ofChars context.dialect.types (';' :: behind))
    (settled : (Lexed.ofChars context.dialect.types behind).noted = none) :
    outcome (memberRest recur { decorators := [], access := [], isStatic := true }) context cursor =
      (.ok (stylesField value),
        { last with
          lexed := Lexed.ofChars context.dialect.types behind
          isTrial := cursor.isTrial }) := by
  have mark := ofChars_equals context.dialect.types tail
  have filled := @outcome_field_styles context
    { cursor with lexed := Lexed.ofChars context.dialect.types (' ' :: '=' :: ' ' :: tail) } after
    recur value last behind (by rw [mark]) (by rw [mark]; exact next) quiet read stop settled
  rw [mark] at filled
  have keyed : outcome (keyedMember recur { decorators := [], access := [], isStatic := true })
      context cursor = (.ok (stylesField value),
        { last with
          lexed := Lexed.ofChars context.dialect.types behind
          isTrial := cursor.isTrial }) := by
    simp [keyedMember, memberKey, propertyName, demand, seen, rest, mark, eatMarkIf, atMethod,
      atField, atMarks, filled]
  simp [memberRest, looseModifiers, extend, extendWithin, modifier?, demand, seen, indexSignature?,
    keyed]

theorem outcome_classMember_styles
    (undecorated : outcome (recur .decorators) context cursor =
      (.ok (.form .decorators []), cursor))
    (seen : cursor.lexed.token = .word "static")
    (rest : cursor.lexed.rest =
      ' ' :: 's' :: 't' :: 'y' :: 'l' :: 'e' :: 's' :: ' ' :: '=' :: ' ' :: tail)
    (next : Lexed.ofChars context.dialect.types (' ' :: tail) = after) (quiet : after.noted = none)
    (read : outcome (recur .assignment) { context with allowIn := true, inField := true }
      { cursor with lexed := after } = (.ok value, last))
    (stop : last.lexed = Lexed.ofChars context.dialect.types (';' :: behind))
    (settled : (Lexed.ofChars context.dialect.types behind).noted = none) :
    outcome (classMember recur) context cursor =
      (.ok (stylesField value),
        { last with
          lexed := Lexed.ofChars context.dialect.types behind
          isTrial := cursor.isTrial }) := by
  have key := ofChars_styles context.dialect.types ('=' :: ' ' :: tail)
  have filled := @outcome_memberRest_styles context
    { cursor with
      lexed := Lexed.ofChars context.dialect.types
        (' ' :: 's' :: 't' :: 'y' :: 'l' :: 'e' :: 's' :: ' ' :: '=' :: ' ' :: tail) } after recur
    value last tail behind (by rw [key]) (by rw [key]) next quiet read stop settled
  rw [key] at filled
  simp [classMember, decorated, undecorated, eatWordIf, accessModifier, modifier?, demand, seen,
    rest, key, wordMember?, atMethod, atField, atMarks, filled]

end Styles

section Field

variable {dialect : Dialect} {text : List Char} {value : Node}

def fieldFront (tail : List Char) : List Char :=
  ' ' :: ' ' :: ' ' :: ' ' :: 's' :: 't' :: 'a' :: 't' :: 'i' :: 'c' ::
    ' ' :: 's' :: 't' :: 'y' :: 'l' :: 'e' :: 's' :: ' ' :: '=' :: ' ' :: tail

/-- The lines of a styles field. -/
def fieldText (text : List Char) : List Char := fieldFront (text ++ [';'])

theorem ofChars_fieldFront (isTyped : Bool) (tail : List Char) :
    Lexed.ofChars isTyped ('\n' :: fieldFront tail) =
      ⟨.word "static", true, none, 's' :: 't' :: 'a' :: 't' :: 'i' :: 'c' ::
        ' ' :: 's' :: 't' :: 'y' :: 'l' :: 'e' :: 's' :: ' ' :: '=' :: ' ' :: tail,
        ' ' :: 's' :: 't' :: 'y' :: 'l' :: 'e' :: 's' :: ' ' :: '=' :: ' ' :: tail,
        '\n' :: fieldFront tail⟩ :=
  rfl

/-- The lines of a styles field are read as that field. -/
theorem belongs_field (isValue : IsValue dialect text value) :
    Belongs dialect (fieldText text) (stylesField value) := by
  have shape (behind : List Char) :
      fieldText text ++ '\n' :: behind = fieldFront (text ++ ';' :: '\n' :: behind) := by
    simp [fieldText, fieldFront]
  constructor
  · intro behind
    rw [shape, ofChars_fieldFront]
    simp only [List.length_cons, List.length_append]
    omega
  · intro behind
    rw [shape, ofChars_fieldFront]
  · intro behind
    rw [shape, ofChars_fieldFront]
    simp
  · intro behind settled depth deep start
    obtain ⟨fuel, rfl⟩ := exists_depth 1 (by decide) deep
    have ends : Ends (';' :: '\n' :: behind) := .semicolon _
    have reads := isValue { ofMembers dialect with allowIn := true, inField := true } rfl rfl
    obtain ⟨token, rest, begins, -⟩ := reads.begins _ ends
    have enough : depthFor text.length ≤ fuel + 1 := by
      simp only [depthFor, fieldText, fieldFront, List.length_append, List.length_cons] at deep ⊢
      omega
    let line := Lexed.ofChars dialect.types ('\n' :: fieldFront (text ++ ';' :: '\n' :: behind))
    have line_eq : line = _ := ofChars_fieldFront dialect.types (text ++ ';' :: '\n' :: behind)
    obtain ⟨finish, read⟩ := @Reads.reads _ _ _ reads _ ends
      ⟨token, false, none, text ++ ';' :: '\n' :: behind, rest,
        ' ' :: (text ++ ';' :: '\n' :: behind)⟩ begins (fuel + 1) enough start
    have undecorated : outcome (reader (fuel + 1) .decorators) (ofMembers dialect)
        { lexed := line, arrowStart := start } =
          (.ok (.form .decorators []), { lexed := line, arrowStart := start }) := by
      simp [reader, step, decorators, line_eq]
    refine ⟨finish, ?_⟩
    rw [shape]
    exact @outcome_classMember_styles (ofMembers dialect) { lexed := line, arrowStart := start } _
      (reader (fuel + 1)) _ _ _ ('\n' :: behind) undecorated (by rw [line_eq]) (by rw [line_eq])
      begins.ofChars_blank rfl read rfl settled

end Field

section Return

variable {context : Context} {cursor last : Cursor} {recur : Read} {value : Node} {after : Lexed}

theorem outcome_atStatementEnd_value (opens : opensValue cursor.lexed.token = true)
    (sameLine : cursor.lexed.newline = false) :
    outcome atStatementEnd context cursor = (.ok false, cursor) := by
  cases seen : cursor.lexed.token with
  | punct mark =>
      rw [seen] at opens
      have plain : mark ≠ ";" ∧ mark ≠ "\x7d" := by
        constructor <;> (rintro rfl; cases opens)
      simp [atStatementEnd, seen, plain, sameLine]
  | eof =>
      rw [seen] at opens
      cases opens
  | _ => simp [atStatementEnd, seen, sameLine]

/-- What is returned stands behind the word for it, up to a semicolon. -/
theorem outcome_returnValue (inside : context.inFunction = true)
    (next : Lexed.ofChars context.dialect.types cursor.lexed.rest = after)
    (quiet : after.noted = none) (opens : opensValue after.token = true)
    (sameLine : after.newline = false)
    (read : outcome (recur .expression) { context with allowIn := true }
      { cursor with lexed := after } = (.ok value, last)) {behind : List Char}
    (stop : last.lexed = Lexed.ofChars context.dialect.types (';' :: behind))
    (settled : (Lexed.ofChars context.dialect.types behind).noted = none) :
    outcome (returnValue recur) context cursor =
      (.ok (.form .returnValue [value]),
        { last with
          lexed := Lexed.ofChars context.dialect.types behind
          isTrial := cursor.isTrial }) := by
  have more := @outcome_atStatementEnd_value context { cursor with lexed := after } opens sameLine
  have valued : outcome (withIn (recur .expression)) context { cursor with lexed := after } =
      (.ok value, { last with isTrial := cursor.isTrial }) := by
    simp [withIn, outcome_inContext, read]
  simp [returnValue, next, quiet, more, valued, expectStatementEnd, eatStatementEnd, stop,
    ofChars_closing, settled, inside]

theorem outcome_statement_return (seen : cursor.lexed.token = .word "return")
    (undecorated : outcome (recur .decorators) { context with beforeColon := false } cursor =
      (.ok (.form .decorators []), cursor))
    (read : outcome (returnValue recur) { context with beforeColon := false } cursor =
      (.ok value, last)) :
    outcome (statement recur true) context cursor =
      (.ok value, { last with isTrial := cursor.isTrial }) := by
  have untyped : outcome (typedStatement? recur "return") { context with beforeColon := false }
      cursor = (.ok none, cursor) := by
    simp [typedStatement?]
  simp [statement, withoutColon, outcome_inContext, decorated, undecorated, seen, statementContent,
    demand, untyped, keywordStatement?, read]

end Return

@[simp]
theorem dialect_ofBody (context : Context) (isAsync isGenerator isArrow : Bool) :
    (context.ofBody isAsync isGenerator isArrow).dialect = context.dialect :=
  rfl

section Body

variable {context : Context} {cursor last : Cursor} {recur : Read} {node : Node} {first : Lexed}
  (seen : cursor.lexed.token = .punct "\x7b")
  (next : Lexed.ofChars context.dialect.types cursor.lexed.rest = first)
  (quiet : first.noted = none) (solid : first.token ∉ [.eof, .punct "\x7d"])
  (long : 0 < first.start.length) (stop : last.lexed.token = .punct "\x7d")
  (settled : (Lexed.ofChars context.dialect.types last.lexed.rest).noted = none)
include seen next quiet solid long stop settled

/-- Braces around one statement. -/
theorem outcome_bracedStatements
    (read : outcome (recur (.statement true)) context { cursor with lexed := first } =
      (.ok node, last)) :
    outcome (bracedStatements recur) context cursor =
      (.ok [node],
        { last with lexed := Lexed.ofChars context.dialect.types last.lexed.rest }) := by
  obtain ⟨steps, enough⟩ := Nat.exists_eq_add_of_lt long
  simp only [List.mem_cons, List.not_mem_nil, or_false, not_or] at solid
  simp [bracedStatements, untilBrace, expectMark, seen, next, quiet, many, enough, repeatWithin,
    solid, read, stop, settled]

/-- The body of a function that consists of one statement. -/
theorem outcome_functionBody (plain : context.isAmbient = false)
    (read : outcome (recur (.statement true)) (context.ofBody false false false)
      { cursor with lexed := first, arrowStart := none } = (.ok node, last)) :
    outcome (functionBody recur false false true) context cursor =
      (.ok (.form .body [node]),
        { last with
          lexed := Lexed.ofChars context.dialect.types last.lexed.rest
          isTrial := cursor.isTrial
          arrowStart := cursor.arrowStart }) := by
  have body := @outcome_bracedStatements (context.ofBody false false false)
    { cursor with arrowStart := none } last recur node first seen next quiet solid long stop settled
    read
  have block : outcome (functionBlock recur true) (context.ofBody false false false)
      { cursor with arrowStart := none } =
        (.ok (.form .body [node]),
          { last with lexed := Lexed.ofChars context.dialect.types last.lexed.rest }) := by
    simp [functionBlock, body]
  simp [functionBody, inBody, plain, seen, outcome_inContext, block]

end Body

section Getter

variable {dialect : Dialect} {cursor last : Cursor} {recur : Read} {node value : Node}
  {tail : List Char}

/-- A static getter with the name of styles and this body. -/
def stylesMember (body : Node) : Node :=
  .member { kind := .getter, isStatic := true, before := [], after := [], mark := "" }
    (.form (.key "styles") []) [.group [], .form .decorators []] body [.absent, .absent]

def bodyBrace (tail : List Char) : Lexed :=
  ⟨.punct "\x7b", false, none, '\x7b' :: tail, tail, ' ' :: '\x7b' :: tail⟩

def bodyParens (tail : List Char) : Lexed :=
  ⟨.punct "(", false, none, '(' :: ')' :: ' ' :: '\x7b' :: tail, ')' :: ' ' :: '\x7b' :: tail,
    '(' :: ')' :: ' ' :: '\x7b' :: tail⟩

variable (parameterless : ∀ (context : Context) (cursor : Cursor),
    cursor.lexed.token = .punct ")" →
      outcome (recur .parameters) context cursor = (.ok (.group []), cursor))
  (body : outcome (functionBody recur false false true) (ofMembers dialect)
    { cursor with lexed := bodyBrace tail } = (.ok (.form .body [node]), last))
include parameterless body

theorem outcome_functionWith_getter (seen : cursor.lexed.token = .punct "(")
    (rest : cursor.lexed.rest = ')' :: ' ' :: '\x7b' :: tail) :
    outcome (functionWith recur false false (getterParameters recur)) (ofMembers dialect) cursor =
      (.ok (.form (.function false false)
          [.group [], .form .decorators [], .form .body [node], .absent, .absent]),
        { last with isTrial := cursor.isTrial }) := by
  have close : Lexed.ofChars dialect.types (')' :: ' ' :: '\x7b' :: tail) =
    ⟨.punct ")", false, none, ')' :: ' ' :: '\x7b' :: tail, ' ' :: '\x7b' :: tail,
      ')' :: ' ' :: '\x7b' :: tail⟩ := rfl
  have brace : Lexed.ofChars dialect.types (' ' :: '\x7b' :: tail) = bodyBrace tail := rfl
  rw [bodyBrace, ofMembers] at body
  rw [bodyBrace] at brace
  simp [functionWith, outcome_inContext, ofMembers, typeParameters?, expectMark, seen, rest, close,
    getterParameters, parametersOf, parameterless, Node.group, brace, resultAnnotation, body,
    checkDefaults, Node.isAbsent]

def getterRest (tail : List Char) : List Char :=
  ' ' :: 'g' :: 'e' :: 't' :: ' ' :: 's' :: 't' :: 'y' :: 'l' :: 'e' :: 's' :: '(' :: ')' :: ' ' ::
    '\x7b' :: tail

omit parameterless body in
theorem outcome_method_getter {context : Context} {words : MemberWords} {key : Node}
    {parameters : Parse (List Node)} (visible : key.isPrivateKey = false)
    (concrete : words.isAbstract = false)
    (read : outcome (inMethod (functionWith recur false false parameters)) context cursor =
      (.ok (.form (.function false false) [.group [], .form .decorators [], node, .absent, .absent]),
        last)) :
    outcome (method recur words .getter key parameters) context cursor =
      (.ok (.member (words.methodHead .getter) key [.group [], .form .decorators words.decorators]
        node [.absent, .absent]), last) := by
  unfold method
  rw [outcome_bind]
  dsimp only
  rw [read]
  simp [visible, concrete]

/-- A getter is read behind its word and its key. -/
theorem outcome_accessorMember_getter
    (seen : cursor.lexed.token = .word "styles")
    (rest : cursor.lexed.rest = '(' :: ')' :: ' ' :: '\x7b' :: tail) :
    outcome (accessorMember recur { decorators := [], access := [], isStatic := true } true)
        (ofMembers dialect) cursor =
      (.ok (stylesMember (.form .body [node])), { last with isTrial := cursor.isTrial }) := by
  have opening : Lexed.ofChars dialect.types ('(' :: ')' :: ' ' :: '\x7b' :: tail) =
    bodyParens tail := rfl
  have read := @outcome_functionWith_getter dialect { cursor with lexed := bodyParens tail } last
    recur node tail parameterless body rfl rfl
  have same : { ofMembers dialect with allowSuper := true, inField := false } = ofMembers dialect :=
    rfl
  have called : outcome (inMethod (functionWith recur false false (getterParameters recur)))
      (ofMembers dialect) { cursor with lexed := bodyParens tail } =
        (.ok (.form (.function false false)
            [.group [], .form .decorators [], .form .body [node], .absent, .absent]),
          { last with isTrial := cursor.isTrial }) := by
    rw [inMethod, outcome_inContext, same, read]
  have typed : (ofMembers dialect).dialect = dialect := rfl
  have key : outcome (memberKey recur) (ofMembers dialect) cursor =
      (.ok (.form (.key "styles") []), { cursor with lexed := bodyParens tail }) := by
    simp only [bodyParens] at opening ⊢
    simp [memberKey, propertyName, demand, seen, rest, typed, opening]
  have whole := @outcome_method_getter { cursor with lexed := bodyParens tail }
    { last with isTrial := cursor.isTrial } recur (.form .body [node]) (ofMembers dialect)
    { decorators := [], access := [], isStatic := true } (.form (.key "styles") []) _ rfl rfl called
  simp [accessorMember, key, isConstructorKey, whole]
  rfl

/-- Behind the words that are no names stands the getter. -/
theorem outcome_memberRest_getter (seen : cursor.lexed.token = .word "get")
    (rest : cursor.lexed.rest = ' ' :: 's' :: 't' :: 'y' :: 'l' :: 'e' :: 's' :: '(' :: ')' :: ' ' ::
      '\x7b' :: tail) :
    outcome (memberRest recur { decorators := [], access := [], isStatic := true })
        (ofMembers dialect) cursor =
      (.ok (stylesMember (.form .body [node])), { last with isTrial := cursor.isTrial }) := by
  let lexed : Lexed :=
    ⟨.word "styles", false, none, 's' :: 't' :: 'y' :: 'l' :: 'e' :: 's' :: '(' :: ')' :: ' ' ::
        '\x7b' :: tail, '(' :: ')' :: ' ' :: '\x7b' :: tail,
      ' ' :: 's' :: 't' :: 'y' :: 'l' :: 'e' :: 's' :: '(' :: ')' :: ' ' :: '\x7b' :: tail⟩
  have next : Lexed.ofChars dialect.types (' ' :: 's' :: 't' :: 'y' :: 'l' :: 'e' :: 's' :: '(' ::
    ')' :: ' ' :: '\x7b' :: tail) = lexed := rfl
  have read := @outcome_accessorMember_getter dialect { cursor with lexed } last recur node tail
    parameterless body rfl rfl
  have typed : (ofMembers dialect).dialect = dialect := rfl
  have keyed : outcome (keyedMember recur { decorators := [], access := [], isStatic := true })
      (ofMembers dialect) cursor =
        (.ok (stylesMember (.form .body [node])), { last with isTrial := cursor.isTrial }) := by
    simp only [lexed] at next read
    simp [keyedMember, memberKey, propertyName, demand, seen, rest, typed, next, eatMarkIf, atMethod,
      atField, atMarks, read]
  simp [memberRest, looseModifiers, extend, extendWithin, modifier?, demand, seen, indexSignature?,
    keyed]

theorem outcome_classMember_getter
    (undecorated : outcome (recur .decorators) (ofMembers dialect) cursor =
      (.ok (.form .decorators []), cursor))
    (seen : cursor.lexed.token = .word "static") (rest : cursor.lexed.rest = getterRest tail) :
    outcome (classMember recur) (ofMembers dialect) cursor =
      (.ok (stylesMember (.form .body [node])), { last with isTrial := cursor.isTrial }) := by
  let lexed : Lexed :=
    ⟨.word "get", false, none, (getterRest tail).tail, (getterRest tail).drop 4, getterRest tail⟩
  have next : Lexed.ofChars dialect.types (getterRest tail) = lexed := rfl
  have read := @outcome_memberRest_getter dialect { cursor with lexed } last recur node tail
    parameterless body rfl rfl
  have typed : (ofMembers dialect).dialect = dialect := rfl
  simp only [lexed] at next read
  simp [classMember, decorated, undecorated, eatWordIf, accessModifier, modifier?, demand, seen,
    rest, typed, next, wordMember?, atMethod, atField, atMarks, read]

end Getter

section Lines

variable {context : Context} {cursor last : Cursor} {dialect : Dialect} {text : List Char}
  {value : Node}

theorem outcome_parameters (fuel : Nat) (seen : cursor.lexed.token = .punct ")") :
    outcome (reader (fuel + 1) .parameters) context cursor = (.ok (.group []), cursor) := by
  have list : outcome (parameterList (reader fuel) false) context cursor = (.ok [], cursor) := by
    simp [parameterList, extend, extendWithin, seen]
  have read : outcome (parameters (reader fuel)) context cursor = (.ok (.group []), cursor) := by
    simp [parameters, list]
  exact read

/-- A value in front of a semicolon is a whole expression. -/
theorem outcome_expression {fuel : Nat}
    (read : outcome (reader fuel .assignment) context cursor = (.ok value, last))
    (stop : last.lexed.token = .punct ";") :
    outcome (reader (fuel + 1) .expression) context cursor = (.ok value, last) := by
  have whole : outcome (expression (reader fuel)) context cursor = (.ok value, last) := by
    simp [expression, read, stop]
  exact whole

def returnText (text behind : List Char) : List Char :=
  marginLine 2 ("return".toList ++ ' ' :: (text ++ ';' :: marginLine 1 ('\x7d' :: behind)))

def getterText (text : List Char) : List Char :=
  ' ' :: ' ' :: ' ' :: ' ' :: 's' :: 't' :: 'a' :: 't' :: 'i' :: 'c' :: getterRest (returnText text [])

/-- A static getter with the name of styles, which returns them. -/
def stylesGetter (value : Node) : Node := stylesMember (.form .body [.form .returnValue [value]])

theorem begins_brace (isTyped : Bool) (tail : List Char) :
    Begins isTyped ('\x7d' :: tail) (.punct "\x7d") tail := by
  rintro fuel (_ | _) <;> rfl

/-- What holds between the braces of a getter. -/
def ofGetter (dialect : Dialect) : Context :=
  { dialect, inFunction := true, inFullFunction := true, inClass := true, allowSuper := true,
    hasParent := true }

/-- The body of a styles getter is read with the value that it returns. -/
theorem outcome_body_getter (isValue : IsValue dialect text value) {behind : List Char}
    (settled : (Lexed.ofChars dialect.types ('\n' :: behind)).noted = none) {fuel : Nat}
    (deep : depthFor text.length ≤ fuel) (start : Option Nat) :
    outcome (functionBody (reader (fuel + 2)) false false true) (ofMembers dialect)
        { lexed := bodyBrace (returnText text ('\n' :: behind)), arrowStart := start } =
      (.ok (.form .body [.form .returnValue [value]]),
        { lexed := Lexed.ofChars dialect.types ('\n' :: behind), arrowStart := start }) := by
  let tail := marginLine 1 ('\x7d' :: '\n' :: behind)
  have brace : Lexed.ofChars dialect.types tail = _ :=
    (begins_brace dialect.types ('\n' :: behind)).ofChars_margin 1
  have word : Begins dialect.types ("return".toList ++ ' ' :: (text ++ ';' :: tail))
      (.word (String.ofList "return".toList)) (' ' :: (text ++ ';' :: tail)) :=
    Lexed.within_word dialect.types (by decide) Lexer.endsWord_blank _
  let line := Lexed.ofChars dialect.types (returnText text ('\n' :: behind))
  have line_eq : line = _ := word.ofChars_margin 2
  have ends : Ends (';' :: tail) := .semicolon _
  have reads : Reads (ofGetter dialect) text value := isValue _ rfl rfl
  obtain ⟨token, rest, begins, opens⟩ := reads.begins _ ends
  obtain ⟨finish, read⟩ := @Reads.reads _ _ _ reads _ ends
    ⟨token, false, none, text ++ ';' :: tail, rest, ' ' :: (text ++ ';' :: tail)⟩ begins fuel deep none
  have returned := @outcome_returnValue (ofGetter dialect) { lexed := line }
    { lexed := Lexed.ofChars dialect.types (';' :: tail), arrowStart := finish } (reader (fuel + 1))
    value _ rfl (by rw [line_eq]; exact begins.ofChars_blank) rfl opens rfl
    (outcome_expression read rfl) tail rfl (by rw [ofGetter, brace])
  have stated := @outcome_statement_return (ofGetter dialect) { lexed := line } _ (reader (fuel + 1))
    _ (by rw [line_eq]; rfl) (by simp [reader, step, decorators, line_eq]) returned
  have stop : (Lexed.ofChars dialect.types tail).token = .punct "\x7d" := by rw [brace]
  have after : (Lexed.ofChars dialect.types tail).rest = '\n' :: behind := by rw [brace]
  have body := @outcome_functionBody (ofMembers dialect)
    { lexed := bodyBrace (returnText text ('\n' :: behind)), arrowStart := start }
    { lexed := Lexed.ofChars dialect.types tail, arrowStart := finish } (reader (fuel + 2)) _ line rfl
    rfl (by rw [line_eq]) (by rw [line_eq]; simp) (by rw [line_eq]; simp) stop
    (by rw [ofMembers, after]; exact settled) rfl stated
  rw [after] at body
  exact body

def staticWord (tail : List Char) : Lexed :=
  ⟨.word "static", true, none, 's' :: 't' :: 'a' :: 't' :: 'i' :: 'c' :: getterRest tail,
    getterRest tail, '\n' :: ' ' :: ' ' :: ' ' :: ' ' ::
      's' :: 't' :: 'a' :: 't' :: 'i' :: 'c' :: getterRest tail⟩

/-- The lines of a styles getter are read as that getter. -/
theorem belongs_getter (isValue : IsValue dialect text value) :
    Belongs dialect (getterText text) (stylesGetter value) := by
  have line_eq (behind : List Char) :
      Lexed.ofChars dialect.types ('\n' :: (getterText text ++ '\n' :: behind)) =
        staticWord (returnText text ('\n' :: behind)) := by
    have shape : getterText text ++ '\n' :: behind =
        ' ' :: ' ' :: ' ' :: ' ' :: 's' :: 't' :: 'a' :: 't' :: 'i' :: 'c' ::
          getterRest (returnText text ('\n' :: behind)) := by
      simp [getterText, getterRest, returnText, marginLine]
    rw [shape]
    rfl
  constructor
  · intro behind
    rw [line_eq]
    simp only [staticWord, getterRest, returnText, marginLine, List.length_cons, List.length_append]
    omega
  · intro behind
    rw [line_eq, staticWord]
  · intro behind
    rw [line_eq, staticWord]
    simp
  · intro behind settled depth deep start
    obtain ⟨fuel, rfl⟩ := exists_depth 2 (by decide) deep
    have enough : depthFor text.length ≤ fuel := by
      simp only [depthFor, getterText, getterRest, List.length_cons] at deep
      simp only [returnText, marginLine, List.length_append, List.length_cons] at deep
      rw [depthFor]
      omega
    let cursor : Cursor :=
      { lexed := staticWord (returnText text ('\n' :: behind)), arrowStart := start }
    have undecorated : outcome (reader (fuel + 2) .decorators) (ofMembers dialect) cursor =
        (.ok (.form .decorators []), cursor) := by
      simp [reader, step, decorators, cursor, staticWord]
    refine ⟨start, ?_⟩
    rw [line_eq]
    exact @outcome_classMember_getter dialect cursor
      { lexed := Lexed.ofChars dialect.types ('\n' :: behind), arrowStart := start }
      (reader (fuel + 2)) (.form .returnValue [value]) (returnText text ('\n' :: behind))
      (fun _ _ => outcome_parameters (fuel + 1)) (outcome_body_getter isValue settled enough start)
      undecorated rfl rfl

end Lines

end Grammar

end StyleInline.Script
