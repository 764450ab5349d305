import StyleInline.Emit
import StyleInline.Script.Grammar

/-!
# Reading a constant

What comes of a reader is computed from what comes of the readers it is built from.  The text of a
constant is followed through the grammar in this way: its name is read, then a string and the
semicolon behind it, or a piece of text that is no token, which ends the reading.
-/

namespace StyleInline.Script

namespace Grammar

variable {α β : Type}

/-- What comes of a reader at a place: a value or the error that ends the reading, and where the
reading stands then. -/
def outcome (reader : Parse α) (context : Context) (cursor : Cursor) :
    Except ParseError α × Cursor :=
  (reader.run context).run.run cursor

section Outcome

variable (context : Context) (cursor : Cursor)

@[simp]
theorem outcome_pure (value : α) : outcome (pure value) context cursor = (.ok value, cursor) := rfl

@[simp]
theorem outcome_bind (first : Parse α) (next : α → Parse β) :
    outcome (first >>= next) context cursor =
      match outcome first context cursor with
      | (.ok value, after) => outcome (next value) context after
      | (.error error, after) => (.error error, after) := by
  unfold outcome
  rw [ReaderT.run_bind, ExceptT.run_bind, StateT.run_bind]
  rcases (first.run context).run.run cursor with ⟨result, after⟩
  cases result <;> rfl

@[simp]
theorem outcome_map (change : α → β) (reader : Parse α) :
    outcome (change <$> reader) context cursor =
      match outcome reader context cursor with
      | (.ok value, after) => (.ok (change value), after)
      | (.error error, after) => (.error error, after) := by
  rw [map_eq_pure_bind, outcome_bind]
  rfl

@[simp]
theorem outcome_ite (condition : Prop) [Decidable condition] (first second : Parse α) :
    outcome (if condition then first else second) context cursor =
      if condition then outcome first context cursor else outcome second context cursor := by
  split <;> rfl

@[simp]
theorem outcome_get : outcome (get : Parse Cursor) context cursor = (.ok cursor, cursor) := rfl

@[simp]
theorem outcome_modify (change : Cursor → Cursor) :
    outcome (modify change : Parse Unit) context cursor = (.ok (), change cursor) := rfl

@[simp]
theorem outcome_read : outcome (read : Parse Context) context cursor = (.ok context, cursor) := rfl

@[simp]
theorem outcome_withReader (change : Context → Context) (reader : Parse α) :
    outcome (withReader change reader) context cursor =
      outcome reader (change context) cursor := rfl

@[simp]
theorem outcome_throw (error : ParseError) :
    outcome (throw error : Parse α) context cursor = (.error error, cursor) := rfl

@[simp]
theorem outcome_catch (reader : Parse α) (handler : ParseError → Parse α) :
    outcome (MonadExcept.tryCatch reader handler) context cursor =
      match outcome reader context cursor with
      | (.ok value, after) => (.ok value, after)
      | (.error error, after) => outcome (handler error) context after := by
  unfold outcome
  -- The handler goes on where the failure was, so nothing of the cursor is taken back.
  change StateT.run (ExceptT.tryCatch (reader context) fun error => handler error context) cursor =
    _
  rcases ran : (reader.run context).run.run cursor with ⟨result, after⟩
  simp only [ExceptT.tryCatch, ExceptT.mk]
  refine (StateT.run_bind (reader context) _ cursor).trans ?_
  change StateT.run (reader context) cursor = _ at ran
  rw [ran]
  cases result <;> rfl

/-- A value that is given back from within a handler. -/
@[simp]
theorem outcome_return (value : α) :
    outcome (EarlyReturnT.return value : EarlyReturnT α Parse β) context cursor =
      (.ok (.error value), cursor) := rfl

theorem outcome_inContext (change : Context → Context) (reader : Parse α) :
    outcome (inContext change reader) context cursor =
      match outcome reader (change context) cursor with
      | (result, after) => (result, { after with isTrial := cursor.isTrial }) := by
  rcases ran : outcome reader (change context) cursor with ⟨result, after⟩
  cases result <;> simp [inContext, ran]

end Outcome

section Sight

variable (context : Context) (cursor : Cursor)

@[simp]
theorem outcome_sight : outcome sight context cursor = (.ok cursor.lexed.token, cursor) := by
  simp [sight]

@[simp]
theorem outcome_newlineBefore :
    outcome newlineBefore context cursor = (.ok cursor.lexed.newline, cursor) := by
  simp [newlineBefore]

@[simp]
theorem outcome_typed : outcome typed context cursor = (.ok context.dialect.types, cursor) := by
  simp [typed]

@[simp]
theorem outcome_charsLeft :
    outcome charsLeft context cursor = (.ok cursor.lexed.start.length, cursor) := by
  simp [charsLeft]

@[simp]
theorem outcome_beyond :
    outcome beyond context cursor =
      (.ok (Lexed.ofChars context.dialect.types cursor.lexed.rest), cursor) := by
  simp [beyond]

@[simp]
theorem outcome_atMark (mark : String) :
    outcome (atMark mark) context cursor = (.ok (cursor.lexed.token == .punct mark), cursor) := by
  simp [atMark]

@[simp]
theorem outcome_atWord (word : String) :
    outcome (atWord word) context cursor = (.ok (cursor.lexed.token == .word word), cursor) := by
  simp [atWord]

@[simp]
theorem outcome_atEnd :
    outcome atEnd context cursor = (.ok (cursor.lexed.token == .eof), cursor) := by
  simp [atEnd]

@[simp]
theorem outcome_beyondMark (mark : String) :
    outcome (beyondMark mark) context cursor =
      (.ok ((Lexed.ofChars context.dialect.types cursor.lexed.rest).token == .punct mark),
        cursor) := by
  simp [beyondMark]

@[simp]
theorem outcome_beyondWord (word : String) :
    outcome (beyondWord word) context cursor =
      (.ok ((Lexed.ofChars context.dialect.types cursor.lexed.rest).token == .word word),
        cursor) := by
  simp [beyondWord]

@[simp]
theorem outcome_look {lexed : Lexed} (quiet : lexed.noted = none) :
    outcome (look lexed) context cursor = (.ok (), { cursor with lexed }) := by
  simp [look, quiet]

/-- Taking a token into sight ends no reading. -/
theorem exists_outcome_look (lexed : Lexed) :
    ∃ after, outcome (look lexed) context cursor = (.ok (), after) := by
  cases noted : lexed.noted <;> simp [look, noted, note]

@[simp]
theorem outcome_advance :
    outcome advance context cursor =
      outcome (look (Lexed.ofChars context.dialect.types cursor.lexed.rest)) context cursor := by
  simp [advance, resume]

@[simp]
theorem outcome_eatMark (mark : String) :
    outcome (eatMark mark) context cursor =
      if cursor.lexed.token == .punct mark then outcome (do advance; return true) context cursor
      else (.ok false, cursor) := by
  simp [eatMark]

@[simp]
theorem outcome_eatWord (word : String) :
    outcome (eatWord word) context cursor =
      if cursor.lexed.token == .word word then outcome (do advance; return true) context cursor
      else (.ok false, cursor) := by
  simp [eatWord]

end Sight

/-! ## A value in front of what ends it -/

/-- The marks in front of which a value ends. -/
def closers : List String := [";", ",", "]", "\x7b"]

/-- Words that mean something else in front of a value than the value itself. -/
def valueWords : List String :=
  ["super", "import", "new", "delete", "void", "typeof", "await", "yield"]

/-- A token with which a value starts: a string, an opening bracket or a word. -/
def startsValue : Token → Bool
  | .text _ => true
  | .punct mark => mark == "["
  | .word word => !valueWords.contains word
  | _ => false

/-- The expression stands on its own: it is no operation, and no word that is no value alone. -/
def isWhole (node : Node) : Bool :=
  !isOperation node && !isBareWord "super" node && !isBareWord "import" node

theorem parts_of_isWhole {node : Node} (whole : isWhole node = true) :
    isOperation node = false ∧ isBareWord "super" node = false ∧
      isBareWord "import" node = false := by
  simpa [isWhole, and_assoc] using whole

theorem isArrow_of_isWhole {node : Node} (whole : isWhole node = true) : isArrow node = false := by
  obtain ⟨plain, -, -⟩ := parts_of_isWhole whole
  unfold isOperation at plain
  split at plain
  all_goals first | cases plain | exact plain

section Value

variable {context : Context} {cursor : Cursor} {mark : String} (closing : mark ∈ closers)
include closing

section Behind

variable (ends : cursor.lexed.token = .punct mark) (recur : Read)
include ends

theorem outcome_atTypeArguments_end :
    outcome atTypeArguments context cursor = (.ok false, cursor) := by
  simp only [closers, List.mem_cons, List.not_mem_nil, or_false] at closing
  rcases closing with rfl | rfl | rfl | rfl <;> simp [atTypeArguments, atMarks, ends]

theorem outcome_calledTypes_end :
    outcome (calledTypes recur) context cursor = (.ok .absent, cursor) := by
  simp [calledTypes, outcome_atTypeArguments_end closing ends]

theorem outcome_instantiated_end (node : Node) :
    outcome (instantiated recur node) context cursor = (.ok node, cursor) := by
  simp [instantiated, instantiation?, outcome_atTypeArguments_end closing ends]

variable {node : Node} (whole : isWhole node = true)
include whole

theorem outcome_subscript?_end (canCall allowsIndex isOpen : Bool) :
    outcome (subscript? recur canCall allowsIndex { node, isOpen }) context cursor =
      (.ok none, cursor) := by
  obtain ⟨-, notSuper, notImport⟩ := parts_of_isWhole whole
  simp only [closers, List.mem_cons, List.not_mem_nil, or_false] at closing
  rcases closing with rfl | rfl | rfl | rfl <;>
    simp [subscript?, notSuper, notImport, lastSubscript?, ends]

theorem outcome_subscripts_end (canCall allowsIndex : Bool) :
    outcome (subscripts recur canCall allowsIndex node) context cursor = (.ok node, cursor) := by
  simp [subscripts, extend, extendWithin,
    outcome_subscript?_end closing ends recur whole canCall allowsIndex]

theorem outcome_operators_end (least : Nat) :
    outcome (operators recur least node) context cursor = (.ok node, cursor) := by
  have unmixed : mixesOperators node = false := by
    obtain ⟨plain, -, -⟩ := parts_of_isWhole whole
    unfold mixesOperators
    split
    next => cases plain
    next => rfl
  simp only [closers, List.mem_cons, List.not_mem_nil, or_false] at closing
  rcases closing with rfl | rfl | rfl | rfl <;>
    simp [operators, extend, extendWithin, unmixed, castOperator?, binaryOperator?, precedence?,
      ends]

omit whole in
theorem outcome_assigned_end (node : Node) :
    outcome (assigned recur node) context cursor = (.ok node, cursor) := by
  simp only [closers, List.mem_cons, List.not_mem_nil, or_false] at closing
  rcases closing with rfl | rfl | rfl | rfl <;> simp [assigned, assignmentMarks, ends]

end Behind

theorem outcome_updateOperator_end (ends : cursor.lexed.token = .punct mark) :
    outcome updateOperator? context cursor = (.ok none, cursor) := by
  simp only [closers, List.mem_cons, List.not_mem_nil, or_false] at closing
  rcases closing with rfl | rfl | rfl | rfl <;> simp [updateOperator?, ends]

section Start

variable (starts : startsValue cursor.lexed.token = true)
include starts

omit closing in
theorem outcome_updateOperator_start :
    outcome updateOperator? context cursor = (.ok none, cursor) := by
  cases seen : cursor.lexed.token with
  | punct first =>
      simp only [seen, startsValue, beq_iff_eq] at starts
      simp [updateOperator?, seen, starts]
  | _ => simp [updateOperator?, seen]

omit closing in
theorem outcome_demand_start : outcome demand context cursor = (.ok cursor.lexed.token, cursor) := by
  cases seen : cursor.lexed.token with
  | eof | fault => simp [seen, startsValue] at starts
  | _ => simp [demand, seen]

omit closing in
theorem outcome_unaryOperator_start :
    outcome unaryOperator? context cursor = (.ok none, cursor) := by
  cases seen : cursor.lexed.token with
  | punct first =>
      simp only [seen, startsValue, beq_iff_eq] at starts
      simp [unaryOperator?, seen, starts]
  | word word =>
      have plain : word ∉ valueWords := by simpa [seen, startsValue] using starts
      have none : ["delete", "void", "typeof"].find? (· == word) = none := by
        rw [List.find?_eq_none]
        rintro other inside same
        rw [beq_iff_eq.mp same] at inside
        exact plain ((by decide : ["delete", "void", "typeof"] ⊆ valueWords) inside)
      simp [unaryOperator?, seen, none]
  | _ => simp [unaryOperator?, seen]

end Start

section Whole

variable {value : Node} {last : Cursor} (starts : startsValue cursor.lexed.token = true)
  (whole : isWhole value = true) (ends : last.lexed.token = .punct mark)
include starts whole ends

theorem outcome_member_whole {recur : Read}
    (read : outcome (primary recur) context cursor = (.ok value, last)) (fuel : Nat) :
    outcome (member recur (fuel + 1)) context cursor = (.ok value, last) := by
  have rest := @outcome_subscripts_end context last mark closing ends recur value whole false true
  have plain : ∀ word ∈ ["super", "import", "new"], cursor.lexed.token ≠ .word word := by
    intro word inside seen
    rw [seen] at starts
    have known : word ∈ valueWords := (by decide : ["super", "import", "new"] ⊆ valueWords) inside
    simp [startsValue, known] at starts
  simp only [List.forall_mem_cons, List.not_mem_nil, false_implies, implies_true, and_true] at plain
  simp [member, plain, read, isArrow_of_isWhole whole,
    outcome_instantiated_end closing ends, rest]

theorem outcome_leftHandSide_whole {recur : Read}
    (read : ∀ fuel, outcome (member recur (fuel + 1)) context cursor = (.ok value, last)) :
    outcome (leftHandSide recur) context cursor = (.ok value, last) := by
  have unopened : mark ≠ "(" := by
    rintro rfl
    exact absurd closing (by decide)
  have noArrow := isArrow_of_isWhole whole
  cases seen : cursor.lexed.token with
  | text literal =>
      simp [leftHandSide, demand, seen, read, noArrow, ends, unopened,
        outcome_calledTypes_end closing ends]
  | punct first =>
      simp only [seen, startsValue, beq_iff_eq] at starts
      subst starts
      simp [leftHandSide, demand, seen, read, noArrow, ends, unopened,
        outcome_calledTypes_end closing ends]
  | word word =>
      have plain : word ∉ valueWords := by simpa [seen, startsValue] using starts
      simp only [valueWords, List.mem_cons, List.not_mem_nil, not_or] at plain
      simp [leftHandSide, demand, seen, read, noArrow, ends, unopened, plain,
        outcome_calledTypes_end closing ends]
  | _ => simp [seen, startsValue] at starts

theorem outcome_unary_whole {recur : Read}
    (read : ∀ fuel, outcome (member recur (fuel + 1)) context cursor = (.ok value, last)) :
    outcome (unary recur) context cursor = (.ok value, last) := by
  have left := outcome_leftHandSide_whole closing starts whole ends read
  have noArrow := isArrow_of_isWhole whole
  have noCast : cursor.lexed.token ≠ .punct "<" := by
    intro seen
    rw [seen] at starts
    exact absurd starts (by decide)
  have noAwait : cursor.lexed.token ≠ .word "await" := by
    intro seen
    rw [seen] at starts
    exact absurd starts (by decide)
  simp [unary, eatMarkIf, noCast, noAwait, outcome_updateOperator_start starts,
    outcome_unaryOperator_start starts, left, noArrow, outcome_updateOperator_end closing ends]

theorem outcome_conditional_whole {fuel : Nat}
    (read : ∀ count, outcome (member (reader fuel) (count + 1)) context cursor =
      (.ok value, last)) :
    outcome (conditional (reader (fuel + 1))) context cursor = (.ok value, last) := by
  have operand : outcome (reader (fuel + 1) .unary) context cursor = (.ok value, last) :=
    outcome_unary_whole closing starts whole ends read
  have unasked : mark ≠ "?" := by
    rintro rfl
    exact absurd closing (by decide)
  have operators : outcome (reader (fuel + 1) (.operators 0 value)) context last =
      (.ok value, last) :=
    outcome_operators_end closing ends (reader fuel) whole 0
  simp [conditional, binary, firstOperand, operand, isArrow_of_isWhole whole, operators, ends,
    unasked]

/-- A value is read in front of a mark that ends it. -/
theorem outcome_assignment_whole {fuel : Nat} (outside : context.inGenerator = false)
    (read : ∀ start, ∃ finish, ∀ count,
      outcome (member (reader fuel) (count + 1)) context { cursor with arrowStart := start } =
        (.ok value, { last with arrowStart := finish })) :
    ∃ finish, outcome (assignment (reader (fuel + 1))) context cursor =
      (.ok value, { last with arrowStart := finish }) := by
  have noAngle : cursor.lexed.token ≠ .punct "<" := by
    intro seen
    rw [seen] at starts
    exact absurd starts (by decide)
  let start := if startsArrow cursor.lexed.token then some cursor.lexed.start.length else none
  obtain ⟨finish, read⟩ := read start
  have left := @outcome_conditional_whole context { cursor with arrowStart := start } mark closing
    value { last with arrowStart := finish } starts whole ends fuel read
  have assigns := @outcome_assigned_end context { last with arrowStart := finish } mark closing
    ends (reader (fuel + 1)) value
  obtain ⟨plain, -, -⟩ := parts_of_isWhole whole
  refine ⟨finish, ?_⟩
  cases arrow : startsArrow cursor.lexed.token <;>
    simp only [start, arrow, Bool.false_eq_true, ↓reduceIte] at left <;>
    simp [assignment, plainAssignment, genericArrow?, outside, noAngle, outcome_demand_start starts,
      arrow, left, plain, assigns]

end Whole

end Value

section Text

variable {context : Context} {cursor : Cursor} {literal : TextLiteral}

/-- A string in front of a mark that ends it is read as a value. -/
theorem outcome_assignment {after : Lexed} (seen : cursor.lexed.token = .text literal)
    (next : Lexed.ofChars context.dialect.types cursor.lexed.rest = after) {mark : String}
    (closing : mark ∈ closers) (ends : after.token = .punct mark) (quiet : after.noted = none)
    (outside : context.inGenerator = false) (fuel : Nat) :
    ∃ finish, outcome (assignment (reader (fuel + 1))) context cursor =
      (.ok (.form (.text literal) []),
        { cursor with lexed := after, arrowStart := finish }) := by
  have starts : startsValue cursor.lexed.token = true := by
    rw [seen]
    rfl
  refine @outcome_assignment_whole context cursor mark closing _ { cursor with lexed := after }
    starts rfl ends fuel outside fun start => ⟨start, fun count => ?_⟩
  refine @outcome_member_whole context { cursor with arrowStart := start } mark closing _
    { cursor with lexed := after, arrowStart := start } starts rfl ends (reader fuel) ?_ count
  simp [primary, seen, next, quiet]

/-- A piece of text that is no token ends the reading. -/
theorem outcome_assignment_fault {error : ParseError} (seen : cursor.lexed.token = .fault error)
    (outside : context.inGenerator = false) (recur : Read) :
    ∃ after, outcome (assignment recur) context cursor = (.error error, after) := by
  obtain ⟨after, moved⟩ := exists_outcome_look context cursor
    (Lexed.ofChars context.dialect.types cursor.lexed.rest)
  refine ⟨after, ?_⟩
  simp [assignment, plainAssignment, genericArrow?, demand, outside, seen, moved]

end Text

/-! ## The declaration -/

section Constant

theorem ofChars_name (isTyped : Bool) (tail : List Char) :
    Lexed.ofChars isTyped (' ' :: 's' :: ' ' :: tail) =
      ⟨.word "s", false, none, 's' :: ' ' :: tail, ' ' :: tail, ' ' :: 's' :: ' ' :: tail⟩ :=
  rfl

theorem ofChars_equals (isTyped : Bool) (tail : List Char) :
    Lexed.ofChars isTyped (' ' :: '=' :: ' ' :: tail) =
      ⟨.punct "=", false, none, '=' :: ' ' :: tail, ' ' :: tail, ' ' :: '=' :: ' ' :: tail⟩ :=
  rfl

theorem ofChars_semicolon (isTyped : Bool) :
    Lexed.ofChars isTyped [';', '\n'] =
      ⟨.punct ";", false, none, [';', '\n'], ['\n'], [';', '\n']⟩ :=
  rfl

theorem ofChars_end (isTyped : Bool) :
    Lexed.ofChars isTyped ['\n'] = ⟨.eof, true, none, [], [], ['\n']⟩ :=
  rfl

def constantFront (tail : List Char) : List Char :=
  'c' :: 'o' :: 'n' :: 's' :: 't' :: ' ' :: 's' :: ' ' :: '=' :: ' ' :: tail

theorem first_constant (isTyped : Bool) (tail : List Char) :
    Lexed.first isTyped (constantFront tail) =
      ⟨.word "const", true, none, constantFront tail, ' ' :: 's' :: ' ' :: '=' :: ' ' :: tail, []⟩ :=
  rfl

/-- What starts with the word of a constant is a variable declaration. -/
theorem outcome_item (dialect : Dialect) (tail : List Char) (fuel : Nat) :
    let cursor : Cursor := { lexed := Lexed.first dialect.types (constantFront tail) }
    outcome (item (reader (fuel + 1))) { dialect } cursor =
      match outcome (variableDeclaration (reader (fuel + 1)) .const false) { dialect } cursor with
      | (result, last) => (result, { last with isTrial := false }) := by
  rw [first_constant]
  intro cursor
  have undecorated : outcome (reader (fuel + 1) .decorators) { dialect } cursor =
      (.ok (.form .decorators []), cursor) := by
    simp [reader, step, decorators, cursor]
  rcases declared : outcome (variableDeclaration (reader (fuel + 1)) .const false) { dialect } cursor
    with ⟨result, last⟩
  simp only [cursor] at undecorated declared ⊢
  cases result <;>
    simp [item, withoutColon, outcome_inContext, decorated, undecorated, statementContent, demand,
      typedStatement?, ofChars_name, isWord, keywordStatement?, declared]

variable {dialect : Dialect} {tail : List Char} {after : Lexed}
  (next : Lexed.ofChars dialect.types (' ' :: tail) = after) (quiet : after.noted = none)
  {recur : Read} {last : Cursor}
include next quiet

/-- Behind the name and the equals sign stands the value. -/
theorem outcome_declarator (recur : Read) :
    outcome (declarator recur .const false) { dialect }
        { lexed := Lexed.ofChars dialect.types (' ' :: 's' :: ' ' :: '=' :: ' ' :: tail) } =
      outcome (do
          return .form (.declarator false) [.ident .bind { name := "s" }, ← recur .assignment])
        { dialect } { lexed := after } := by
  simp [declarator, bindingPattern, demand, ofChars_name, ofChars_equals, bindingName,
    identifierName, keywords, isStrictBinding, typeAnnotation, eatMarkIf, next, quiet, annotate,
    Node.absent, Node.isAbsent]

theorem outcome_variableDeclaration {value : Node}
    (read : outcome (recur .assignment) { dialect } { lexed := after } = (.ok value, last))
    (stop : last.lexed = Lexed.ofChars dialect.types [';', '\n']) :
    outcome (variableDeclaration recur .const false) { dialect }
        { lexed := Lexed.first dialect.types (constantFront tail) } =
      (.ok (Emit.constant { name := "s" } value),
        { last with lexed := Lexed.ofChars dialect.types ['\n'], isTrial := false }) := by
  have one := outcome_declarator next quiet recur
  rw [ofChars_name] at one
  simp [first_constant, variableDeclaration, declarators, extend, extendWithin, outcome_inContext,
    one, read, stop, ofChars_name, ofChars_semicolon, ofChars_end, eatStatementEnd, Emit.constant]

theorem outcome_variableDeclaration_fault {error : ParseError}
    (read : outcome (recur .assignment) { dialect } { lexed := after } = (.error error, last)) :
    ∃ finish, outcome (variableDeclaration recur .const false) { dialect }
        { lexed := Lexed.first dialect.types (constantFront tail) } = (.error error, finish) := by
  have one := outcome_declarator next quiet recur
  rw [ofChars_name] at one
  simp [first_constant, variableDeclaration, declarators, extend, extendWithin, outcome_inContext,
    one, read, ofChars_name]

theorem outcome_items (fuel : Nat) {value : Node}
    (read : outcome (assignment (reader fuel)) { dialect } { lexed := after } = (.ok value, last))
    (stop : last.lexed = Lexed.ofChars dialect.types [';', '\n']) :
    outcome (items (reader (fuel + 2))) { dialect }
        { lexed := Lexed.first dialect.types (constantFront tail) } =
      (.ok [Emit.constant { name := "s" } value],
        { last with lexed := Lexed.ofChars dialect.types ['\n'], isTrial := false }) := by
  have one := outcome_item dialect tail fuel
  dsimp only at one
  rw [outcome_variableDeclaration next quiet read stop] at one
  have item : outcome (reader (fuel + 2) .item) { dialect }
    { lexed := Lexed.first dialect.types (constantFront tail) } = _ := one
  rw [first_constant] at item ⊢
  simp [items, many, repeatWithin, item, ofChars_end]
  simp [constantFront, repeatWithin]

theorem outcome_items_fault (fuel : Nat) {error : ParseError}
    (read : outcome (assignment (reader fuel)) { dialect } { lexed := after } =
      (.error error, last)) :
    ∃ finish, outcome (items (reader (fuel + 2))) { dialect }
        { lexed := Lexed.first dialect.types (constantFront tail) } = (.error error, finish) := by
  obtain ⟨finish, declared⟩ : ∃ finish, outcome
      (variableDeclaration (reader (fuel + 1)) .const false) { dialect }
      { lexed := Lexed.first dialect.types (constantFront tail) } = (.error error, finish) :=
    outcome_variableDeclaration_fault next quiet read
  have one := outcome_item dialect tail fuel
  dsimp only at one
  rw [declared] at one
  have item : outcome (reader (fuel + 2) .item) { dialect }
    { lexed := Lexed.first dialect.types (constantFront tail) } = _ := one
  rw [first_constant] at item ⊢
  simp [items, many, repeatWithin, item]

end Constant

end Grammar

namespace Module

open Grammar

def depth (tail : List Char) : Nat := depthFor (constantFront tail).length

theorem depth_eq (tail : List Char) : ∃ fuel, depth tail = fuel + 3 :=
  ⟨16 * (constantFront tail).length + 61, rfl⟩

/-- Behind the line of its interpreter a module is read item by item. -/
theorem parse_of_items (dialect : Dialect) {text chars : List Char} {interpreter : Option String}
    (headed : interpreterLine text = (interpreter, chars))
    {result : Except ParseError (List Node)} {cursor : Cursor}
    (read : outcome (Grammar.items (reader (depthFor chars.length))) { dialect }
      { lexed := Lexed.first dialect.types chars } = (result, cursor)) :
    parse dialect (String.ofList text) =
      result.bind fun items => cursor.noted.elim (.ok { interpreter, items }) .error := by
  have ran : ((Grammar.items (reader (depthFor chars.length))) { dialect }).run.run
      { lexed := Lexed.first dialect.types chars } = (result, cursor) := read
  simp only [parse, String.toList_ofList, headed, ran]
  cases result with
  | error error => rfl
  | ok items => cases cursor.noted <;> rfl

/-- The module of a constant is read item by item. -/
theorem parse_eq (dialect : Dialect) (tail : List Char) {result : Except ParseError (List Node)}
    {cursor : Cursor} (read : outcome (Grammar.items (reader (depth tail))) { dialect }
      { lexed := Lexed.first dialect.types (constantFront tail) } = (result, cursor)) :
    parse dialect (String.ofList (constantFront tail)) =
      result.bind fun items => cursor.noted.elim (.ok { interpreter := none, items }) .error :=
  parse_of_items dialect rfl read

variable {dialect : Dialect} {tail : List Char} {after : Lexed}
  (next : Lexed.ofChars dialect.types (' ' :: tail) = after) (quiet : after.noted = none)
include next quiet

/-- A string in the place of the value is read as the value of the constant. -/
theorem parse_constant {literal : TextLiteral} (seen : after.token = .text literal)
    (rest : after.rest = [';', '\n']) :
    parse dialect (String.ofList (constantFront tail)) =
      .ok ⟨none, [Emit.constant { name := "s" } (.form (.text literal) [])]⟩ := by
  obtain ⟨fuel, deep⟩ := depth_eq tail
  obtain ⟨finish, read⟩ := @outcome_assignment { dialect } { lexed := after } literal _ seen
    (congrArg (Lexed.ofChars dialect.types) rest) ";" (by decide) rfl rfl rfl fuel
  have items := outcome_items next quiet (fuel + 1) read rfl
  rw [← deep] at items
  exact parse_eq dialect tail items

/-- A piece of text that is no token in the place of the value is an error. -/
theorem parse_constant_fault {error : ParseError} (seen : after.token = .fault error) :
    parse dialect (String.ofList (constantFront tail)) = .error error := by
  obtain ⟨fuel, deep⟩ := depth_eq tail
  obtain ⟨last, read⟩ : ∃ last, outcome (assignment (reader (fuel + 1))) { dialect }
      { lexed := after } = (.error error, last) :=
    outcome_assignment_fault seen rfl (reader (fuel + 1))
  obtain ⟨finish, items⟩ := outcome_items_fault next quiet (fuel + 1) read
  rw [← deep] at items
  exact parse_eq dialect tail items

end Module

end StyleInline.Script
