import StyleInline.Script.Token

/-!
# Reading with one token in sight

A reader looks at one token of the text at a time.  Errors of two kinds come out of it:
an error that ends the reading, and errors that are noted while it goes on, of which only
the first counts.  A reader that ends with an error has moved all the same, since what
stands in sight by then decides whether the reading can be saved.

The constructs of the language refer to each other.  Each of them is a function of the
reader for all of them, `Read`, and the knot is tied once, for the whole grammar.
-/

namespace StyleInline.Script

structure Dialect where
  types : Bool
  elements : Bool
  decorators : Bool
  deriving DecidableEq, Repr, Inhabited

namespace Grammar

structure Context where
  dialect : Dialect
  inFunction : Bool := false
  /-- The body of a function that is no arrow function. -/
  inFullFunction : Bool := false
  inParameters : Bool := false
  inClass : Bool := false
  /-- The value of a field, or a static block. -/
  inField : Bool := false
  inAsync : Bool := false
  inGenerator : Bool := false
  allowIn : Bool := true
  allowSuper : Bool := false
  hasParent : Bool := false
  canBreak : Bool := false
  canContinue : Bool := false
  /-- Only the existence of values is declared. -/
  isAmbient : Bool := false
  noConditionalType : Bool := false
  inConditional : Bool := false
  /-- A colon ends the expression that is read. -/
  beforeColon : Bool := false
  inLoopHead : Bool := false
  inWaitingLoopHead : Bool := false
  labels : List String := []

structure Cursor where
  lexed : Lexed
  noted : Option ParseError := none
  /-- Errors are not noted, since the reading is only a trial. -/
  isTrial : Bool := false
  /-- The number of characters left where an arrow function may start. -/
  arrowStart : Option Nat := none

/-- A reader. -/
abbrev Parse (α : Type) := ReaderT Context (ExceptT ParseError (StateM Cursor)) α

inductive Goal where
  /-- A statement; `isListed` tells one of a list from one that another statement controls. -/
  | statement (isListed : Bool)
  | item
  | expression
  | assignment
  | unary
  /-- The operators of more than a precedence behind an operand. -/
  | operators (least : Nat) (left : Node)
  | pattern
  | decorators
  | parameters
  | type
  | plainType
  | typeMembers
  | classRest (head : ClassHead) (decorators : List Node) (isNamed : Bool)
  | function (isAsync isGenerator : Bool)
  | functionExpression (isAsync : Bool)
  /-- An element up to its closing angle, which stays in sight. -/
  | element
  deriving Inhabited

/-- The reader of every construct. -/
abbrev Read := Goal → Parse Node

def note (error : ParseError) : Parse Unit :=
  modify fun cursor =>
    if cursor.isTrial then cursor else { cursor with noted := Lexer.noting cursor.noted error }

def sight : Parse Token := do return (← get).lexed.token

def newlineBefore : Parse Bool := do return (← get).lexed.newline

/-- Takes a token into sight; what is wrong with it is noted. -/
def look (lexed : Lexed) : Parse Unit := do
  modify fun cursor => { cursor with lexed }
  match lexed.noted with
  | some error => note error
  | none => pure ()

def typed : Parse Bool := do return (← read).dialect.types

def resume (chars : List Char) : Parse Unit := do look (Lexed.ofChars (← typed) chars)

def advance : Parse Unit := do resume (← get).lexed.rest

def beyond : Parse Lexed := do return Lexed.ofChars (← typed) (← get).lexed.rest

def charsLeft : Parse Nat := do return (← get).lexed.start.length

/-- Ends the reading with an error; a piece of text in sight that is no token is noted first. -/
def refuse {α : Type} (error : ParseError) : Parse α := do
  match ← sight with
  | .fault lexical =>
    note lexical
    advance
    throw error
  | _ => throw error

/-- Ends the reading because a token in sight can start nothing that is allowed. -/
def refuseToken {α : Type} (allowed : String) : Parse α := do
  refuse (.unexpected (← sight).shown allowed)

/-- The token in sight; the end of the text, or a piece that is no token, is an error. -/
def demand : Parse Token := do
  match ← sight with
  | .eof => throw .unexpectedEnd
  | .fault error =>
    advance
    throw error
  | token => return token

def atMark (mark : String) : Parse Bool := do return (← sight) == .punct mark

def atMarks (marks : List String) : Parse Bool := do
  match ← sight with
  | .punct mark => return marks.contains mark
  | _ => return false

def atWord (word : String) : Parse Bool := do return (← sight) == .word word

def atEnd : Parse Bool := do return (← sight) == .eof

def eatMark (mark : String) : Parse Bool := do
  if ← atMark mark then advance; return true else return false

def eatWord (word : String) : Parse Bool := do
  if ← atWord word then advance; return true else return false

/-- Leaves a mark behind if it may stand here and is in sight. -/
def eatMarkIf (isAllowed : Bool) (mark : String) : Parse Bool :=
  if isAllowed then eatMark mark else return false

def eatWordIf (isAllowed : Bool) (word : String) : Parse Bool :=
  if isAllowed then eatWord word else return false

def expectMark (mark : String) : Parse Unit := do
  if !(← eatMark mark) then refuse (.expected mark (← sight).shown)

def expectWord (word : String) : Parse Unit := do
  if !(← eatWord word) then refuse (.expected word (← sight).shown)

/-- How a token that may be missing is quoted in a few error messages. -/
def shownOption : Parse String := do
  if ← atEnd then return "None" else return "Some(" ++ (← sight).shown ++ ")"

def beyondMark (mark : String) : Parse Bool := do return (← beyond).token == .punct mark

def beyondMarks (marks : List String) : Parse Bool := do
  match (← beyond).token with
  | .punct mark => return marks.contains mark
  | _ => return false

def beyondWord (word : String) : Parse Bool := do return (← beyond).token == .word word

def isWord : Token → Bool
  | .word _ => true
  | _ => false

def isIdentifier : Token → Bool
  | .word name => !isReserved name
  | _ => false

def atName : Parse Bool := do return isWord (← sight)

def atIdentifier : Parse Bool := do return isIdentifier (← sight)

def atWords (first second : String) : Parse Bool := do
  if !(← atWord first) then return false
  let next ← beyond
  return next.token == .word second && !next.newline

/-- A statement may end here: at a semicolon, a closing brace, a line break or the end. -/
def atStatementEnd : Parse Bool := do
  match ← sight with
  | .eof => return true
  | .punct mark => return mark == ";" || mark == "\x7d" || (← newlineBefore)
  | _ => newlineBefore

def eatStatementEnd : Parse Bool := do
  if ← eatMark ";" then return true else atStatementEnd

def expectStatementEnd : Parse Unit := do
  if !(← eatStatementEnd) then refuse (.expected ";" (← sight).shown)

/-- Runs a step until it yields nothing, at most `fuel` times. -/
def repeatWithin {α : Type} (step : Parse (Option α)) : Nat → List α → Parse (List α)
  | 0, reversed => return reversed.reverse
  | fuel + 1, reversed => do
    match ← step with
    | none => return reversed.reverse
    | some value => repeatWithin step fuel (value :: reversed)

/-- Runs a step until it yields nothing; every step leaves a token behind. -/
def many {α : Type} (step : Parse (Option α)) : Parse (List α) := do
  repeatWithin step ((← charsLeft) + 1) []

def extendWithin {α : Type} (step : α → Parse (Option α)) : Nat → α → Parse α
  | 0, value => return value
  | fuel + 1, value => do
    match ← step value with
    | none => return value
    | some next => extendWithin step fuel next

def extend {α : Type} (step : α → Parse (Option α)) (value : α) : Parse α := do
  extendWithin step ((← charsLeft) + 1) value

def inContext {α : Type} (change : Context → Context) (reader : Parse α) : Parse α := do
  let isTrial := (← get).isTrial
  try
    let value ← withReader change reader
    modify fun cursor => { cursor with isTrial }
    return value
  catch error =>
    modify fun cursor => { cursor with isTrial }
    throw error

def withIn {α : Type} (reader : Parse α) : Parse α :=
  inContext (fun context => { context with allowIn := true }) reader

def withoutColon {α : Type} (reader : Parse α) : Parse α :=
  inContext (fun context => { context with beforeColon := false }) reader

/-- The cursor at the end of a trial that leads nowhere. -/
def Cursor.afterTrial (start finish : Cursor) : Cursor := { start with noted := finish.noted }

/--
Reads on trial, in the language with types: what is wrong on the way is not noted, and without a
result the reader stays where it is.
-/
def attempt? {α : Type} (reader : Parse (Option α)) : Parse (Option α) := do
  if !(← typed) then return none
  let start ← get
  set { start with isTrial := true }
  try
    match ← reader with
    | some value =>
      modify fun cursor => { cursor with isTrial := false }
      return some value
    | none =>
      modify start.afterTrial
      return none
  catch _ =>
    modify start.afterTrial
    return none

def succeeds {α : Type} (reader : Parse α) : Parse Bool := do
  try
    let _ ← reader
    return true
  catch _ => return false

/-- Looks ahead with a reader, and stays where it is. -/
def ahead {α : Type} (reader : Parse α) : Parse α := do
  let start ← get
  set { start with isTrial := true }
  let value ← reader
  modify start.afterTrial
  return value

def isStrictBinding (name : String) : Bool := name == "eval" || name == "arguments"

def identifierName (allowYield : Bool) : Parse String := do
  match ← demand with
  | .word name =>
    advance
    if ["enum", "let", "yield", "static", "implements", "interface", "package", "private",
        "protected", "public"].contains name then
      note (.strictIdentifier name)
    if name == "await" then refuse .awaitIdentifier
    if name == "yield" then
      if allowYield then return name else refuse .nameExpected
    if name == "this" && (← typed) then return name
    if keywords.contains name then refuse .nameExpected
    if name == "arguments" && (← read).inField then note .argumentsInField
    return name
  | _ => refuse .nameExpected

def bindingName (refusesLet : Bool) : Parse String := do
  if refusesLet && (← atWord "let") then
    refuseToken "let is reserved in const, let, class declaration"
  let name ← identifierName true
  if isStrictBinding name then note .strictBinding
  if (← read).inGenerator && name == "yield" then note .nameExpected
  return name

def bindingName? (refusesLet : Bool) : Parse (Option String) := do
  if (← atIdentifier) || ((← typed) && (← atWord "this")) then
    return some (← bindingName refusesLet)
  else return none

def anyName : Parse String := do
  match ← demand with
  | .word name => advance; return name
  | _ => refuse .nameExpected

def privateName : Parse String := do
  let lexed := (← get).lexed
  advance
  if (← get).lexed.start.length != lexed.rest.length then refuse .hashGap
  anyName

def stringLiteral (allowed : String) : Parse TextLiteral := do
  match ← sight with
  | .text literal => advance; return literal
  | _ => refuseToken allowed

/-- An item if a mark is in sight, which is left behind first. -/
def behindMark? (mark : String) (item : Parse Node) : Parse Node := do
  if ← eatMark mark then item else return .absent

/-- How many characters behind a backslash in a template belong to its escape, so that none of them
ends the text. -/
def escapeReach : List Char → Nat
  | 'u' :: '{' :: rest => 2 + Lexer.bracedReach rest
  | _ => 1

/--
The text of a template up to a substitution or to its end, and what is left from there on.  The
characters met so far are `reversed`, and the next `held` ones belong to an escape.
-/
def templateText : Nat → List Char → List Char → String × List Char
  | held + 1, reversed, c :: rest => templateText held (c :: reversed) rest
  | 0, reversed, '$' :: '{' :: rest => (String.ofList reversed.reverse, '$' :: '{' :: rest)
  | 0, reversed, '\x60' :: rest => (String.ofList reversed.reverse, '\x60' :: rest)
  | 0, reversed, c :: rest =>
    templateText (if c = '\\' then escapeReach rest else 0) (c :: reversed) rest
  | _, reversed, [] => (String.ofList reversed.reverse, [])

/-- What the last escape that spells nothing in the text of a template is refused for; `fuel`
bounds the text. -/
def templateFault : Nat → Option ParseError → List Char → Option ParseError
  | 0, found, _ => found
  | _, found, [] => found
  | fuel + 1, found, '\\' :: rest =>
    match Lexer.escapeSequence rest with
    | (.error error, after) => templateFault fuel (some error) after
    | (.ok _, after) =>
      if Lexer.startsOctal rest then templateFault fuel (some .legacyOctal) (rest.drop 1)
      else templateFault fuel found after
  | fuel + 1, found, _ :: rest => templateFault fuel found rest

def templatePartsWithin (isTagged : Bool) (substitution : Parse Node) : Nat → List Char →
    Parse (List String × List Node)
  | 0, _ => throw .unterminatedTemplate
  | fuel + 1, chars => do
    let (text, rest) := templateText 0 [] chars
    if rest.isEmpty then
      resume []
      throw .unterminatedTemplate
    if !isTagged then
      if let some error := templateFault text.length none text.toList then
        resume rest
        throw error
    match rest with
    | '$' :: _ :: rest =>
      resume rest
      let node ← withIn substitution
      if !(← atMark "\x7d") then refuse (.expected "\x7d" (← sight).shown)
      let (texts, nodes) ←
        templatePartsWithin isTagged substitution fuel (← get).lexed.rest
      return (text :: texts, node :: nodes)
    | _ =>
      resume (rest.drop 1)
      return ([text], [])

/-- The texts of the template whose mark is in sight, and the substitutions between them; a tagged
template may hold escapes that spell nothing. -/
def templateParts (isTagged : Bool) (substitution : Parse Node) :
    Parse (List String × List Node) := do
  let rest := (← get).lexed.rest
  templatePartsWithin isTagged substitution (rest.length + 1) rest

def typeAnnotation (recur : Read) : Parse Node := do
  if ← eatMarkIf (← typed) ":" then return .typing (← recur .type) else return .absent

end Grammar

end StyleInline.Script
