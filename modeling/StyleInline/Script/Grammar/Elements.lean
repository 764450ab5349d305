import StyleInline.Script.Grammar.Expressions

/-!
# Elements

The readers of elements and fragments.  Between the marks of an element the text is read
character by character, since words there may hold hyphens and strings hold no escapes.
-/

namespace StyleInline.Script.Grammar

def elementWord : Parse String := do
  match ← demand with
  | .word _ =>
    let chars := (← get).lexed.start
    let isWordChar (c : Char) : Bool := Text.isIdentifierPart c || c == '-'
    let rest := chars.dropWhile isWordChar
    resume rest
    return Lexer.consumed chars rest
  | _ => refuseToken "jsx identifier"

def namespacedWord : Parse (String × Option String) := do
  let first ← elementWord
  if ← eatMark ":" then return (first, some (← elementWord)) else return (first, none)

def elementName : Parse (Node × String) := do
  let (first, second?) ← namespacedWord
  let start : Node × String :=
    match second? with
    | some second =>
      let text := first ++ ":" ++ second
      (.form (.key text) [], text)
    | none => (.ident .element { name := first }, first)
  extend (fun (left, text) => do
    if ← eatMark "." then
      let name ← elementWord
      return some (.form (.dot name false) [left], text ++ "." ++ name)
    else return none) start

def elementString (quote : Char) (chars : List Char) : Parse Node := do
  let isInside (c : Char) : Bool := c != quote
  match chars.dropWhile isInside with
  | [] => throw .unterminatedString
  | _ :: rest =>
    resume rest
    let value := String.ofList (chars.takeWhile isInside)
    let mark := quote.toString
    return .form (.text ⟨value, some (mark ++ value ++ mark)⟩) []

/-- What stands in braces inside an element, behind the opening one: an expression, or nothing.
Dots in front of the expression mean nothing. -/
def container (recur : Read) : Parse Node := do
  if ← atMark "\x7d" then return .form .container [.absent]
  let _ ← eatMark "..."
  return .form .container [← recur .expression]

def behindAngle : Parse (List Char) := do
  if ← atCloseAngle then return (← get).lexed.start.drop 1
  let shown :=
    match ← sight with
    | .word name => "jsx name (" ++ name ++ ")"
    | token => token.shown
  refuse (.unexpected shown "> (jsx closing tag)")

def attributeValue (recur : Read) : Parse Node := do
  let gap := Lexer.skipGap false .spaces (← get).lexed.rest
  match gap.rest with
  | '"' :: rest => elementString '"' rest
  | '\'' :: rest => elementString '\'' rest
  | _ =>
    advance
    let _ ← demand
    if ← eatMark "\x7b" then
      let node ← container recur
      expectMark "\x7d"
      match node with
      | .form .container [inner] => if inner.isAbsent then refuse .emptyAttribute
      | _ => pure ()
      return node
    if ← atMark "<" then
      let node ← recur .element
      resume (← behindAngle)
      return node
    refuse .attributeValue

def attribute? (recur : Read) : Parse (Option Node) := do
  if (← atEnd) || (← atMark "/") || (← atCloseAngle) then return none
  if ← eatMark "\x7b" then
    expectMark "..."
    let value ← recur .assignment
    expectMark "\x7d"
    return some (.form .spreadAttribute [value])
  let (first, second?) ← namespacedWord
  let name := first ++ (second?.map (":" ++ ·)).getD ""
  let value ← if ← atMark "=" then attributeValue recur else pure .absent
  return some (.form (.attribute name) [value])

/-- The text between two elements, `reversed` being what was met so far. -/
def elementText (reversed : List Char) : List Char → String × List Char
  | [] => (String.ofList reversed.reverse, [])
  | '<' :: rest => (String.ofList reversed.reverse, '<' :: rest)
  | '{' :: rest => (String.ofList reversed.reverse, '{' :: rest)
  | c :: rest => elementText (c :: reversed) rest

/-- Notes the first mark in the text of an element that should have been written otherwise. -/
def checkText (text : String) : Parse Unit := do
  match text.toList.find? fun c => c == '>' || c == '\x7d' with
  | some '>' => note (.elementText ">" "&gt;")
  | some _ => note (.elementText "\x7d" "&rbrace;")
  | none => pure ()

/-- An element inside another one.  What stands behind it is text, also where it cannot be read. -/
def childElement (recur : Read) : Parse Node := do
  try recur .element
  catch error =>
    modify fun cursor =>
      let token :=
        if cursor.lexed.token == .eof then .fault .unterminatedElement else .text ⟨"", none⟩
      { cursor with lexed := { cursor.lexed with token } }
    throw error

/-- The children of an element, from a place of the text through the slash of its closing mark. -/
def children (recur : Read) : Nat → List Char → Parse (List Node)
  | 0, _ => throw .budget
  | fuel + 1, chars => do
    let (text, rest) := elementText [] chars
    let leading := if text.isEmpty then [] else [literally text]
    checkText text
    match rest with
    | [] => throw .unterminatedElement
    | '<' :: inside =>
      let next := Lexed.ofChars (← typed) inside
      if next.token == .punct "/" then
        resume next.rest
        return leading
      resume rest
      let element ← childElement recur
      let more ← children recur fuel (← behindAngle)
      return leading ++ element :: more
    | _ :: inside =>
      resume inside
      let child ←
        if ← eatMark "..." then do pure (.form .spreadAttribute [← recur .expression])
        else container recur
      if !(← atMark "\x7d") then refuse (.expected "\x7d" (← sight).shown)
      let more ← children recur fuel (← get).lexed.rest
      return leading ++ child :: more

def refuseClosing (error : ParseError) : Parse Node := do
  resume (← behindAngle)
  refuse error

def fragmentEnd (nodes : List Node) : Parse Node := do
  if ← atCloseAngle then return .form .fragment nodes
  let _ ← elementName
  refuseClosing .closingFragment

/-- An element or a fragment, whose opening angle is in sight; its closing angle stays in sight. -/
def element (recur : Read) : Parse Node := do
  expectMark "<"
  if ← atCloseAngle then
    let rest ← behindAngle
    return ← fragmentEnd (← children recur (rest.length + 1) rest)
  let (name, text) ← elementName
  let types ←
    if (← typed) && (← atMark "<") then do
      pure (.ofOption (← attempt? do return some (← typeArguments recur)))
    else pure .absent
  let attributes ← many (attribute? recur)
  if ← eatMark "/" then
    let _ ← behindAngle
    return .form (.element true) [name, .group attributes, types, .group [], .absent]
  let rest ← behindAngle
  let nodes ← children recur (rest.length + 1) rest
  if ← atCloseAngle then return ← refuseClosing (.closingTag text)
  let (closing, closingText) ← elementName
  if closingText != text then return ← refuseClosing (.closingTag text)
  let _ ← behindAngle
  return .form (.element false) [name, .group attributes, types, .group nodes, closing]

end StyleInline.Script.Grammar
