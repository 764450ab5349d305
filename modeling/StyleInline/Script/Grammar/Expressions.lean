import StyleInline.Script.Grammar.Arrows

/-!
# Expressions

The readers of expressions from the words and literals up to the operators in front of an
operand.  The reader remembers where an arrow function may start, because a list in
parentheses in any other place is no list of parameters.
-/

namespace StyleInline.Script.Grammar

def asyncNameArrow (recur : Read) : Parse Node := do
  let context ← read
  if context.inLoopHead && (← atWord "of") && !(← beyondMark "=>") then
    if !context.inWaitingLoopHead then note .loopAsync
    return .ident .use { name := "async" }
  let name ← bindingName false
  if (← typed) && name == "as" && !(← atMark "=>") then
    let subject := Node.ident .use { name := "async" }
    return .form (.cast "as") [subject, .typing (← recur .type)]
  expectMark "=>"
  arrowWith recur true [.ident .bind { name }] .absent .absent

def nameOrArrow (recur : Read) (canBeArrow : Bool) : Parse Node := do
  let name ← identifierName (!(← read).inGenerator)
  if !canBeArrow || (← newlineBefore) then return .ident .use { name }
  if name == "async" && ((← atIdentifier) || ((← typed) && (← atWord "this"))) then
    return ← asyncNameArrow recur
  if !(← eatMark "=>") then return .ident .use { name }
  if isStrictBinding name then note .strictBinding
  arrowWith recur false [.ident .bind { name }] .absent .absent

def asyncStart? (recur : Read) (canBeArrow : Bool) : Parse (Option Node) := do
  let next ← beyond
  if next.token == .word "function" && !next.newline then
    advance
    return some (← recur (.functionExpression true))
  if next.token == .punct "<" then
    let arrow? ← attempt? do
      advance
      return some (← genericAsyncArrow recur)
    if let some arrow := arrow? then return some arrow
  if canBeArrow && next.token == .punct "(" && !next.newline then
    advance
    return some (← parenthesized recur canBeArrow true)
  return none

def classExpression (recur : Read) (decorators : List Node) : Parse Node :=
  let head : ClassHead :=
    { isDeclaration := false, isDeclared := false, isAbstract := false, name := none }
  recur (.classRest head decorators false)

def wordStart (recur : Read) (canBeArrow : Bool) (word : String) : Parse Node := do
  if ["this", "null", "true", "false"].contains word then
    advance
    return literally word
  if word == "function" then return ← recur (.functionExpression false)
  if word == "class" then return ← classExpression recur []
  if word == "async" then
    if let some node ← asyncStart? recur canBeArrow then return node
  if word == "let" || (← typed) || !isReserved word then nameOrArrow recur canBeArrow
  else refuse .expressionExpected

def primary (recur : Read) : Parse Node := do
  let canBeArrow := (← get).arrowStart == some (← charsLeft)
  match ← sight with
  | .word word => wordStart recur canBeArrow word
  | .number raw => advance; return .form (.number raw) []
  | .bigint raw => advance; return literally raw
  | .text literal => advance; return .form (.text literal) []
  | .punct "(" => parenthesized recur canBeArrow false
  | .punct "[" => arrayLiteral recur
  | .punct "\x7b" => objectLiteral recur
  | .punct "/" | .punct "/=" => patternLiteral
  | .punct "`" => templateLiteral recur false
  | .punct "#" =>
    advance
    return .form (.privateKey (← anyName)) []
  | .punct "@" =>
    decorated recur fun decorators => do
      if ← atWord "class" then classExpression recur decorators else refuse .expressionExpected
  | _ => refuse .expressionExpected

def newTarget : Parse Node := do
  if !(← eatWord "target") then refuseToken "target"
  let context ← read
  if !context.inFullFunction && !context.inParameters && !context.inClass then note .newTarget
  return literally "new.target"

/-- An expression with its members, or a constructor call; `fuel` bounds how many of those calls
are nested. -/
def member (recur : Read) : Nat → Parse Node
  | 0 => throw .budget
  | fuel + 1 => do
    for word in ["super", "import"] do
      if ← eatWord word then return ← subscripts recur false true (literally word)
    if !(← eatWord "new") then
      let start ← primary recur
      if isArrow start then return start
      return ← subscripts recur false true (← instantiated recur start)
    if ← eatMark "." then return ← subscripts recur false true (← newTarget)
    let callee ← member recur fuel
    if isArrow callee then return callee
    if callee.isOptionalChain then refuse .optionalConstructor
    let types ← calledTypes recur
    if !(← atMark "(") then return .form .construct [callee, .absent, types]
    let arguments ← arguments recur false
    subscripts recur false true (.form .construct [callee, .group arguments, types])

def elementExpression (recur : Read) : Parse Node := do
  let node ← recur .element
  if (← atEnd) then throw .unexpectedEnd
  closeAngle
  return node

/-- An expression with its members and calls, which may stand on the left of an assignment. -/
def leftHandSide (recur : Read) : Parse Node := do
  if (← read).dialect.elements then
    let _ ← demand
    if (← atMark "<") && !(← beyondMark "!") then return ← elementExpression recur
  for word in ["super", "import"] do
    if ← eatWord word then return ← subscripts recur true true (literally word)
  let callee ← member recur ((← charsLeft) + 1)
  if isArrow callee then return callee
  let types ← calledTypes recur
  if !(← atMark "(") then return callee
  subscripts recur true true (← call recur false callee types)

def awaiting (recur : Read) : Parse Node := do
  advance
  if ← atMark "*" then refuse .awaitedStar
  let context ← read
  let endsHere := (← atMarks [")", "]", ","]) || (← atStatementEnd)
  if endsHere && !context.inAsync then
    note .awaitIdentifier
    return .ident .use { name := "await" }
  if context.inFunction && !context.inAsync then note .awaitInFunction
  if context.inParameters && !context.inFunction then note .awaitInParameter
  return .form .await [← recur .unary]

def unaryOperator? : Parse (Option String) := do
  match ← sight with
  | .word word => return ["delete", "void", "typeof"].find? (· == word)
  | .punct mark => return ["+", "-", "!", "~"].find? (· == mark)
  | _ => return none

def isMember : Node → Bool
  | .form .paren [inner] => isMember inner
  | .form (.dot _ _) _ | .form (.index _) _ => true
  | _ => false

def checkDeleted (operand : Node) : Parse Unit := do
  match operand with
  | .ident _ _ => note .deletedIdentifier
  | _ => pure ()
  if (← typed) && !isMember operand then note .deletedValue

/-- An operand behind an operator; one that cannot be read is left out, and that is noted. -/
def unaryOperand (recur : Read) : Parse Node := do
  try recur .unary
  catch error =>
    note error
    return .absent

def angleCast (recur : Read) : Parse Node := do
  if ← eatWord "const" then
    closeAngle
    return .form (.cast "as") [← recur .unary, .typing (literally "const")]
  let type ← recur .type
  closeAngle
  return .form .angleCast [← recur .unary, .typing type]

def updateOperator? : Parse (Option String) := do
  match ← sight with
  | .punct mark => return ["++", "--"].find? (· == mark)
  | _ => return none

/-- An expression with the operators in front of it and the ones that change it behind it. -/
def unary (recur : Read) : Parse Node := do
  let dialect := (← read).dialect
  if ← eatMarkIf (dialect.types && !dialect.elements) "<" then return ← angleCast recur
  if let some operator ← updateOperator? then
    advance
    let operand ← recur .unary
    checkTarget false operand
    return .form (.update operator true) [operand]
  if let some operator ← unaryOperator? then
    advance
    let operand ← unaryOperand recur
    if operator == "delete" then checkDeleted operand
    return .form (.unary operator) [operand]
  if ← atWord "await" then return ← awaiting recur
  let operand ← leftHandSide recur
  if isArrow operand || (← newlineBefore) then return operand
  match ← updateOperator? with
  | none => return operand
  | some operator =>
    checkTarget false operand
    advance
    return .form (.update operator false) [operand]

/-- One decorator, behind its mark: an expression in parentheses, or a name with members and
calls. -/
def decorator (recur : Read) : Parse Node := do
  let callee ←
    if ← eatMark "(" then do
      let inner ← recur .expression
      expectMark ")"
      pure inner
    else subscripts recur true false (.ident .use { name := ← identifierName false })
  let types ← typeArguments? recur
  if types.isAbsent && !(← atMark "(") then return callee
  call recur false callee types

def decorators (recur : Read) : Parse Node := do
  if !(← read).dialect.decorators || !(← atMark "@") then return .form .decorators []
  let found ← many do
    if ← eatMark "@" then return some (← decorator recur) else return none
  let context ← read
  if (← atWord "export") && !context.dialect.types && !context.inClass && !context.inFunction then
    refuse .decoratorBeforeExport
  return .form .decorators found

end StyleInline.Script.Grammar
