import StyleInline.Proofs.Values

/-!
# Modules line by line

A text that is read as an item wherever it stands at the start of a line is read as that item in
every module.  A module that consists of such lines is read line by line.  The line of a constant is
one of them, with any value that its text is read as.
-/

namespace StyleInline.Script

namespace Lexer

theorem length_skipGap (newline : Bool) (gap : Gap) (chars : List Char) :
    (skipGap newline gap chars).rest.length ≤ chars.length := by
  fun_induction skipGap newline gap chars <;> simp only [List.length_cons, Nat.le_refl] <;> omega

/-- A mark that turns its line into a comment is part of that line. -/
theorem length_lineMark? {newline : Bool} {chars : List Char} {error : ParseError}
    (marked : lineMark? newline chars = some error) :
    (chars.dropWhile (!isLineEnd ·)).length < chars.length := by
  cases chars with
  | nil => cases newline <;> cases marked
  | cons c rest =>
      have inside : isLineEnd c = false := by
        cases ended : isLineEnd c with
        | false => rfl
        | true =>
            simp only [isLineEnd, Bool.or_eq_true, beq_iff_eq] at ended
            rcases ended with ((rfl | rfl) | rfl) | rfl <;> simp [lineMark?] at marked
      rw [List.dropWhile_cons, inside]
      exact Nat.lt_succ_of_le (List.dropWhile_suffix _).length_le

end Lexer

namespace Lexed

/-- More fuel than a text has characters changes nothing. -/
theorem within_more (isTyped : Bool) {chars : List Char} {fuel : Nat}
    (enough : chars.length < fuel) (more : Nat) (newline : Bool) (noted : Option ParseError) :
    within isTyped (fuel + more) newline noted chars = within isTyped fuel newline noted chars := by
  induction fuel generalizing chars newline noted with
  | zero => exact absurd enough (Nat.not_lt_zero _)
  | succ fuel ih =>
      rw [Nat.succ_add, within, within]
      split
      next => rfl
      next =>
        split
        next marked =>
          refine ih ?_ _ _
          have shorter := Lexer.length_lineMark? marked
          have kept := Lexer.length_skipGap newline .spaces chars
          omega
        next => rfl

def onLine (isTyped : Bool) (before chars : List Char) : Lexed :=
  { first isTyped chars with before }

theorem ofChars_newline (isTyped : Bool) (chars : List Char) :
    ofChars isTyped ('\n' :: chars) = onLine isTyped ('\n' :: chars) chars := by
  have gap : within isTyped (('\n' :: chars).length + 1) false none ('\n' :: chars) =
      within isTyped (chars.length + 1 + 1) true none chars := rfl
  rw [ofChars, gap, within_more isTyped (Nat.lt_succ_self _)]
  rfl

theorem first_newline (isTyped : Bool) (chars : List Char) :
    first isTyped ('\n' :: chars) = first isTyped chars := by
  have gap : within isTyped (('\n' :: chars).length + 1) true none ('\n' :: chars) =
      within isTyped (chars.length + 1 + 1) true none chars := rfl
  rw [first, gap, within_more isTyped (Nat.lt_succ_self _)]
  rfl

end Lexed

namespace Grammar

/-- A text that goes on nothing in front of it: its first token is intact and starts with it. -/
structure Opens (dialect : Dialect) (chars : List Char) : Prop where
  whole : (Lexed.first dialect.types chars).start = chars
  quiet : (Lexed.first dialect.types chars).noted = none
  fresh : (Lexed.first dialect.types chars).token ≠ .word "else"
  plain : interpreterLine chars = (none, chars)

/-- Nothing is noted of a line break in front of such a text. -/
theorem Opens.settled {dialect : Dialect} {chars : List Char} (opens : Opens dialect chars) :
    (Lexed.ofChars dialect.types ('\n' :: chars)).noted = none := by
  rw [Lexed.ofChars_newline]
  exact opens.quiet

/-- At the start of a line, whatever is read before and behind it, the text is read as an item. -/
structure Stands (dialect : Dialect) (text : List Char) (item : Node) : Prop where
  opens : ∀ behind, Opens dialect (text ++ '\n' :: behind)
  solid : ∀ behind, (Lexed.first dialect.types (text ++ '\n' :: behind)).token ≠ .eof
  reads : ∀ behind, Opens dialect behind → ∀ depth, depthFor text.length ≤ depth →
    ∀ before start, ∃ finish,
      outcome (reader depth .item) { dialect }
          { lexed := Lexed.onLine dialect.types before (text ++ '\n' :: behind)
            arrowStart := start } =
        (.ok item,
          { lexed := Lexed.onLine dialect.types ('\n' :: behind) behind, arrowStart := finish })

/-- A word at the start of a line. -/
theorem onLine_word (isTyped : Bool) {letters : List Char} (word : Lexer.isWord letters = true)
    {c : Char} (ends : Lexer.endsWord c = true) (before tail : List Char) :
    Lexed.onLine isTyped before (letters ++ c :: tail) =
      ⟨.word (String.ofList letters), true, none, letters ++ c :: tail, c :: tail, before⟩ := by
  rw [Lexed.onLine, Lexed.first, Lexed.within_word isTyped word ends]

/-- A line that starts with a word opens an item. -/
theorem opens_word (dialect : Dialect) {letters : List Char} (word : Lexer.isWord letters = true)
    (other : letters ≠ "else".toList) {c : Char} (ends : Lexer.endsWord c = true)
    (tail : List Char) : Opens dialect (letters ++ c :: tail) := by
  have seen := onLine_word dialect.types word ends
    (Lexed.first dialect.types (letters ++ c :: tail)).before tail
  have here : Lexed.first dialect.types (letters ++ c :: tail) = _ := seen
  refine ⟨by rw [here], by rw [here], ?_, ?_⟩
  · rw [here]
    intro same
    exact other (String.ofList_inj.mp (Token.word.inj same))
  · cases letters with
    | nil => cases word
    | cons first rest =>
        simp only [Lexer.isWord, Bool.and_eq_true] at word
        have mark : first ≠ '#' := Lexer.ne_of_isIdentifierStart word.1.1.1 (by decide)
        rw [List.cons_append, interpreterLine]
        exact fun _ same => absurd (List.cons.inj same).1 mark

/-- What starts with a word stands on a line of its own if it is read with that word in sight. -/
theorem stands_of_word {dialect : Dialect} {letters tail : List Char} {item : Node}
    (word : Lexer.isWord letters = true) (other : letters ≠ "else".toList) {c : Char}
    (ends : Lexer.endsWord c = true)
    (reads : ∀ behind, Opens dialect behind → ∀ depth,
      depthFor (letters ++ c :: tail).length ≤ depth → ∀ before start, ∃ finish,
        outcome (reader depth .item) { dialect }
            { lexed := ⟨.word (String.ofList letters), true, none,
                letters ++ c :: (tail ++ '\n' :: behind), c :: (tail ++ '\n' :: behind), before⟩
              arrowStart := start } =
          (.ok item,
            { lexed := Lexed.onLine dialect.types ('\n' :: behind) behind
              arrowStart := finish })) :
    Stands dialect (letters ++ c :: tail) item := by
  have shape (behind : List Char) :
      letters ++ c :: tail ++ '\n' :: behind = letters ++ c :: (tail ++ '\n' :: behind) := by
    rw [List.append_assoc, List.cons_append]
  refine ⟨fun behind => ?_, fun behind => ?_, fun behind opens depth deep before start => ?_⟩
  · rw [shape]
    exact opens_word dialect word other ends _
  · rw [shape]
    have seen := onLine_word dialect.types word ends
      (Lexed.first dialect.types (letters ++ c :: (tail ++ '\n' :: behind))).before
      (tail ++ '\n' :: behind)
    have here : Lexed.first dialect.types (letters ++ c :: (tail ++ '\n' :: behind)) = _ := seen
    rw [here]
    exact Token.noConfusion
  · obtain ⟨finish, read⟩ := reads behind opens depth deep before start
    refine ⟨finish, ?_⟩
    rw [shape, onLine_word dialect.types word ends]
    exact read

/-- Texts on lines of their own. -/
def page (lines : List (List Char × Node)) : List Char :=
  lines.flatMap fun line => line.1 ++ ['\n']

theorem page_cons (line : List Char × Node) (lines : List (List Char × Node)) :
    page (line :: lines) = line.1 ++ '\n' :: page lines := by
  rw [page, page, List.flatMap_cons, List.append_assoc]
  rfl

theorem length_le_page (lines : List (List Char × Node)) : lines.length ≤ (page lines).length := by
  induction lines with
  | nil => exact Nat.le_refl _
  | cons line lines ih =>
      rw [page_cons, List.length_append, List.length_cons, List.length_cons]
      omega

theorem length_le_page_of_mem {line : List Char × Node} {lines : List (List Char × Node)}
    (member : line ∈ lines) : line.1.length ≤ (page lines).length := by
  induction member with
  | head =>
      rw [page_cons, List.length_append]
      omega
  | tail _ _ ih =>
      rw [page_cons, List.length_append, List.length_cons]
      omega

section Page

variable {dialect : Dialect} {lines : List (List Char × Node)}
  (stands : ∀ line ∈ lines, Stands dialect line.1 line.2)
include stands

theorem opens_page : Opens dialect (page lines) := by
  cases lines with
  | nil => exact ⟨rfl, rfl, nofun, rfl⟩
  | cons line lines =>
      rw [page_cons]
      exact (stands line List.mem_cons_self).opens _

/-- One item of a module, unless the text ends. -/
def itemStep (depth : Nat) : Parse (Option Node) := do
  if ← atEnd then return none
  return some (← reader depth .item)

/-- Line by line, the items are read one after the other, up to the end of the text. -/
theorem outcome_page {depth : Nat} (deep : ∀ line ∈ lines, depthFor line.1.length ≤ depth)
    {fuel : Nat} (enough : lines.length < fuel) (reversed : List Node) (before : List Char)
    (start : Option Nat) :
    ∃ last, outcome (repeatWithin (itemStep depth) fuel reversed) { dialect }
        { lexed := Lexed.onLine dialect.types before (page lines), arrowStart := start } =
          (.ok (reversed.reverse ++ lines.map Prod.snd), last) ∧ last.noted = none := by
  induction lines generalizing fuel reversed before start with
  | nil =>
      obtain ⟨fuel, rfl⟩ := Nat.exists_eq_add_of_lt enough
      have ended : (Lexed.onLine dialect.types before (page [])).token = .eof := rfl
      refine ⟨{ lexed := Lexed.onLine dialect.types before (page []), arrowStart := start }, ?_,
        rfl⟩
      simp [repeatWithin, itemStep, ended]
  | cons line lines ih =>
      obtain ⟨fuel, rfl⟩ := Nat.exists_eq_add_of_lt enough
      have here := stands line List.mem_cons_self
      have others : ∀ line ∈ lines, Stands dialect line.1 line.2 :=
        fun other inside => stands other (List.mem_cons_of_mem _ inside)
      obtain ⟨finish, read⟩ := here.reads (page lines) (opens_page others) depth
        (deep line List.mem_cons_self) before start
      have solid :
          (Lexed.onLine dialect.types before (line.1 ++ '\n' :: page lines)).token ≠ .eof :=
        here.solid _
      have fewer : lines.length < lines.length + 1 + fuel := by omega
      obtain ⟨last, rest, quiet⟩ := ih others
        (fun other inside => deep other (List.mem_cons_of_mem _ inside)) fewer
        (line.2 :: reversed) ('\n' :: page lines) finish
      have stepped : outcome (itemStep depth) { dialect }
          { lexed := Lexed.onLine dialect.types before (line.1 ++ '\n' :: page lines)
            arrowStart := start } = (.ok (some line.2),
          { lexed := Lexed.onLine dialect.types ('\n' :: page lines) (page lines)
            arrowStart := finish }) := by
        simp [itemStep, solid, read]
      refine ⟨last, ?_, quiet⟩
      rw [page_cons, repeatWithin, outcome_bind, stepped]
      simpa using rest

/-- A text of lines is read as their items. -/
theorem outcome_items_page {depth : Nat} (deep : depthFor (page lines).length ≤ depth) :
    ∃ last, outcome (items (reader depth)) { dialect }
        { lexed := Lexed.first dialect.types (page lines) } = (.ok (lines.map Prod.snd), last) ∧
      last.noted = none := by
  obtain ⟨whole, quiet, -, -⟩ := opens_page stands
  have deepest : ∀ line ∈ lines, depthFor line.1.length ≤ depth := by
    intro line member
    have bound := length_le_page_of_mem member
    simp only [depthFor] at deep ⊢
    omega
  obtain ⟨last, read, silent⟩ := outcome_page stands deepest
    (Nat.lt_succ_of_le (length_le_page lines)) [] (Lexed.first dialect.types (page lines)).before
    none
  refine ⟨last, ?_, silent⟩
  simp only [items, many, outcome_bind, outcome_get, quiet, outcome_charsLeft, whole]
  exact read

end Page

/-- Texts on lines of their own, behind the line of an interpreter, if there is one. -/
def headedPage : Option String → List (List Char × Node) → List Char
  | none, lines => page lines
  | some interpreter, lines => '#' :: '!' :: (interpreter.toList ++ '\n' :: page lines)

def IsLine (interpreter : Option String) : Prop :=
  ∀ line ∈ interpreter, ∀ c ∈ line.toList, Lexer.isLineEnd c = false

/-- The line of an interpreter ends where it is said to. -/
theorem isLine_interpreterLine (chars : List Char) : IsLine (interpreterLine chars).1 := by
  unfold interpreterLine
  split
  next rest =>
    rintro line ⟨⟩ c inside
    rw [String.toList_ofList] at inside
    simpa using List.all_eq_true.mp (List.all_takeWhile ..) c inside
  next => nofun

theorem interpreterLine_append {interpreter : String} (whole : IsLine (some interpreter))
    (chars : List Char) :
    interpreterLine ('#' :: '!' :: (interpreter.toList ++ '\n' :: chars)) =
      (some interpreter, '\n' :: chars) := by
  have letters : ∀ c ∈ interpreter.toList, (!Lexer.isLineEnd c) = true := by
    intro c inside
    rw [whole interpreter rfl c inside]
    rfl
  have line : (interpreter.toList ++ '\n' :: chars).takeWhile (!Lexer.isLineEnd ·) =
      interpreter.toList := by
    rw [List.takeWhile_append_of_pos letters]
    exact List.append_nil _
  simp only [interpreterLine, line, List.drop_left, String.ofList_toList]

end Grammar

namespace Module

open Grammar

/-- A module that consists of lines is read line by line. -/
theorem parse_page {dialect : Dialect} {lines : List (List Char × Node)}
    {interpreter : Option String} (whole : IsLine interpreter)
    (stands : ∀ line ∈ lines, Stands dialect line.1 line.2) :
    parse dialect (String.ofList (headedPage interpreter lines)) =
      .ok ⟨interpreter, lines.map Prod.snd⟩ := by
  cases interpreter with
  | none =>
      obtain ⟨last, read, silent⟩ := outcome_items_page stands (Nat.le_refl _)
      rw [headedPage, parse_of_items dialect (opens_page stands).plain read, silent]
      rfl
  | some interpreter =>
      have deep : depthFor (page lines).length ≤ depthFor ('\n' :: page lines).length := by
        simp only [depthFor, List.length_cons]
        omega
      obtain ⟨last, read, silent⟩ := outcome_items_page stands deep
      rw [← Lexed.first_newline] at read
      rw [headedPage, parse_of_items dialect (interpreterLine_append whole _) read, silent]
      rfl

/-- The interpreter of a module stands on one line. -/
theorem isLine_of_parse {dialect : Dialect} {text : String} {module : Module}
    (parsed : parse dialect text = .ok module) : IsLine module.interpreter := by
  have line := isLine_interpreterLine text.toList
  unfold parse at parsed
  generalize interpreterLine text.toList = headed at *
  dsimp only at parsed
  split at parsed
  next result cursor _ =>
    cases result with
    | error error => cases parsed
    | ok items =>
        cases noted : cursor.noted with
        | some error => simp [noted, bind, Except.bind] at parsed
        | none =>
            simp only [noted, bind, Except.bind, pure, Except.pure, Except.ok.injEq] at parsed
            rwa [← parsed]

end Module

namespace Grammar

theorem ofChars_closing (isTyped : Bool) (tail : List Char) :
    Lexed.ofChars isTyped (';' :: tail) =
      ⟨.punct ";", false, none, ';' :: tail, tail, ';' :: tail⟩ :=
  rfl

section Constant

variable {dialect : Dialect} {cursor last : Cursor} {name : String} {tail : List Char}
  {after : Lexed} {recur : Read} {value : Node}
  (named : isBindable name = true)
  (next : Lexed.ofChars dialect.types (' ' :: tail) = after) (quiet : after.noted = none)
  (read : outcome (recur .assignment) { dialect } { cursor with lexed := after } =
    (.ok value, last))
include named next quiet read

/-- Behind the name and the equals sign stands the value. -/
theorem outcome_declarator_named
    (here : cursor.lexed =
      Lexed.ofChars dialect.types (' ' :: (name.toList ++ ' ' :: '=' :: ' ' :: tail))) :
    outcome (declarator recur .const false) { dialect } cursor =
      (.ok (.form (.declarator false) [.ident .bind { name }, value]), last) := by
  rw [ofChars_bindable named _ (by decide)] at here
  have bound := @outcome_bindingName name named { dialect } cursor _ (by rw [here])
    (by rw [here]) rfl true
  simp [declarator, bindingPattern, demand, here, bound, ofChars_equals, next, quiet, read,
    typeAnnotation, eatMarkIf, annotate, Node.absent, Node.isAbsent]

theorem outcome_variableDeclaration_named
    (here : cursor.lexed.rest = ' ' :: (name.toList ++ ' ' :: '=' :: ' ' :: tail))
    {behind : List Char} (stop : last.lexed = Lexed.ofChars dialect.types (';' :: behind))
    (settled : (Lexed.ofChars dialect.types behind).noted = none) :
    outcome (variableDeclaration recur .const false) { dialect } cursor =
      (.ok (Emit.constant { name } value),
        { last with
          lexed := Lexed.ofChars dialect.types behind
          isTrial := cursor.isTrial }) := by
  have one := @outcome_declarator_named dialect
    { cursor with
      lexed := Lexed.ofChars dialect.types (' ' :: (name.toList ++ ' ' :: '=' :: ' ' :: tail)) }
    last name tail after recur value named next quiet read rfl
  rw [ofChars_bindable named _ (by decide)] at one
  simp [variableDeclaration, declarators, extend, extendWithin, outcome_inContext, one, here, stop,
    ofChars_bindable named _ Lexer.endsWord_blank, ofChars_closing,
    eatStatementEnd, Emit.constant, settled]

end Constant

section Keyword

variable {recur : Read} {context : Context} {cursor last : Cursor} {node : Node}

theorem outcome_keyword_const
    (read : outcome (variableDeclaration recur .const false) context cursor = (.ok node, last)) :
    outcome (keywordStatement? recur true [] "const") context cursor = (.ok (some node), last) := by
  simp [keywordStatement?, read]

def openClass (recur : Read) (isNamed : Bool) : Parse Node :=
  recur (.classRest
    { isDeclaration := true, isDeclared := false, isAbstract := false, name := none } [] isNamed)

theorem outcome_keyword_class
    (read : outcome (openClass recur true) context cursor = (.ok node, last)) :
    outcome (keywordStatement? recur true [] "class") context cursor = (.ok (some node), last) := by
  rw [openClass] at read
  simp [keywordStatement?, classDeclaration, read]

/-- A keyword in front of a name starts the item that it says. -/
theorem outcome_item_keyword {dialect : Dialect} {word name : String} {fuel : Nat}
    (known : word ∈ ["const", "class"]) (named : isBindable name = true)
    (seen : cursor.lexed.token = .word word) {tail : List Char}
    (rest : cursor.lexed.rest = ' ' :: (name.toList ++ ' ' :: tail))
    (declared : outcome (keywordStatement? (reader (fuel + 1)) true [] word) { dialect } cursor =
      (.ok (some node), last)) :
    outcome (reader (fuel + 2) .item) { dialect } cursor =
      (.ok node, { last with isTrial := cursor.isTrial }) := by
  have undecorated : outcome (reader (fuel + 1) .decorators) { dialect } cursor =
      (.ok (.form .decorators []), cursor) := by
    simp [reader, step, decorators, seen]
  have untyped : outcome (typedStatement? (reader (fuel + 1)) word) { dialect } cursor =
      (.ok none, cursor) := by
    simp only [List.mem_cons, List.not_mem_nil, or_false] at known
    rcases known with rfl | rfl <;>
      simp [typedStatement?, rest, ofChars_bindable named _ Lexer.endsWord_blank,
        isWord, plain_of_isBindable named]
  have read : outcome (item (reader (fuel + 1))) { dialect } cursor =
      (.ok node, { last with isTrial := cursor.isTrial }) := by
    simp only [List.mem_cons, List.not_mem_nil, or_false] at known
    rcases known with rfl | rfl <;>
      simp [item, withoutColon, outcome_inContext, decorated, undecorated, statementContent,
        demand, untyped, seen, declared]
  exact read

end Keyword

/-- No text is so short that a few constructs could not stand inside each other. -/
theorem exists_depth (count : Nat) (few : count ≤ 64) {length depth : Nat}
    (deep : depthFor length ≤ depth) : ∃ fuel, depth = fuel + count := by
  refine ⟨depth - count, ?_⟩
  rw [depthFor] at deep
  omega

section Lines

variable {dialect : Dialect} {name : String} {text : List Char} {value : Node}

def constantText (name : String) (text : List Char) : List Char :=
  "const".toList ++ ' ' :: (name.toList ++ ' ' :: '=' :: ' ' :: (text ++ [';']))

/-- The line of a constant is read as that constant. -/
theorem stands_constant (named : isBindable name = true) (reads : Reads { dialect } text value) :
    Stands dialect (constantText name text) (Emit.constant { name } value) := by
  refine stands_of_word (by decide) (by decide) (by decide)
    fun behind opens depth deep before start => ?_
  obtain ⟨fuel, rfl⟩ := exists_depth 2 (by decide) deep
  have ends : Ends (';' :: '\n' :: behind) := .semicolon _
  let body := name.toList ++ ' ' :: '=' :: ' ' :: (text ++ ';' :: '\n' :: behind)
  have tail : name.toList ++ ' ' :: '=' :: ' ' :: (text ++ [';']) ++ '\n' :: behind = body := by
    simp [body]
  rw [tail]
  let cursor : Cursor :=
    { lexed := ⟨.word (String.ofList "const".toList), true, none, "const".toList ++ ' ' :: body,
        ' ' :: body, before⟩
      arrowStart := start }
  have enough : depthFor text.length ≤ fuel + 1 := by
    simp only [depthFor, List.length_append, List.length_cons] at deep ⊢
    omega
  obtain ⟨token, rest, begins, -⟩ := reads.begins _ ends
  obtain ⟨finish, read⟩ := @Reads.reads _ _ _ reads _ ends
    ⟨token, false, none, text ++ ';' :: '\n' :: behind, rest,
      ' ' :: (text ++ ';' :: '\n' :: behind)⟩ begins (fuel + 1) enough start
  have declared := @outcome_variableDeclaration_named dialect cursor _ name _ _ (reader (fuel + 1))
    _ named begins.ofChars_blank rfl read rfl _ rfl opens.settled
  have all := @outcome_item_keyword cursor _ _ dialect "const" name fuel (by decide) named
    rfl _ rfl (outcome_keyword_const declared)
  rw [Lexed.ofChars_newline] at all
  exact ⟨finish, all⟩

end Lines

end Grammar

end StyleInline.Script
