import StyleInline.Script.Grammar.Declarations

/-!
# Statements

The readers of statements.  A statement is told by the word it starts with; one that starts
with no such word is an expression, until what stands behind that expression shows that it was
a label or the name of a declaration.
-/

namespace StyleInline.Script.Grammar

def block (recur : Read) : Parse Node := do return .form .block (← bracedStatements recur)

/-- A statement that another one controls. -/
def controlled (recur : Read) : Parse Node := recur (.statement false)

def headExpression (recur : Read) : Parse Node := do
  expectMark "("
  let node ← withIn (recur .expression)
  expectMark ")"
  return node

def loopBody (recur : Read) : Parse Node :=
  inContext (fun context => { context with canBreak := true, canContinue := true })
    (controlled recur)

def ifElse (recur : Read) : Parse Node := do
  advance
  let test ← headExpression recur
  let positive ← controlled recur
  let negative ← if ← eatWord "else" then controlled recur else pure .absent
  return .form .ifElse [test, positive, negative]

def eachHead (recur : Read) (isWaiting : Bool) (left : Node) : Parse Node := do
  if ← eatWord "of" then return .form (.forOf isWaiting) [left, ← withIn (recur .assignment)]
  expectWord "in"
  match left with
  | .form (.variableDeclaration (.using _) _) _ => note .usingInLoop
  | _ => pure ()
  return .form .forIn [left, ← withIn (recur .expression)]

def stepsHead (recur : Read) (start : Node) : Parse Node := do
  let test ← if ← atMark ";" then pure .absent else withIn (recur .expression)
  expectMark ";"
  let step ← if ← atMark ")" then pure .absent else withIn (recur .expression)
  return .form .forLoop [start, test, step]

def variableHead (recur : Read) (isWaiting : Bool) (kind : VariableKind) : Parse Node := do
  advance
  let start ← loopVariables recur kind
  if (← atWord "of") || (← atWord "in") then
    checkLoopVariables start
    return ← eachHead recur isWaiting start
  expectMark ";"
  stepsHead recur start

def usingHead? (recur : Read) (isWaiting : Bool) (start : Node) : Parse (Option Node) := do
  let isAwaiting? :=
    match start with
    | .ident _ id => if id.name == "using" then some false else none
    | .form .await [.ident _ id] => if id.name == "using" then some true else none
    | _ => none
  match isAwaiting? with
  | none => return none
  | some isAwaiting =>
    let isFollowed := (← beyondWord "of") || (← beyondWord "in")
    if !(← typed) || (← atWord "of") || !isFollowed then return none
    let target := Node.ident .bind { name := ← bindingName false }
    let declaration := Node.form (.variableDeclaration (.using isAwaiting) false)
      [.form (.declarator false) [target, .absent]]
    return some (← eachHead recur isWaiting declaration)

def expressionHead (recur : Read) (isWaiting : Bool) : Parse Node := do
  let start ← inContext (fun context => { context with allowIn := false }) (recur .expression)
  if let some head ← usingHead? recur isWaiting start then return head
  if (← atWord "of") || (← atWord "in") then
    let target ← assignmentTarget start
    match target with
    | .form (.arrayPattern _) _ | .form (.objectPattern _) _ =>
      if (← typed) && (← atWord "in") then note .loopPattern
    | _ => pure ()
    return ← eachHead recur isWaiting target
  expectMark ";"
  stepsHead recur start

/-- The head of a `for` loop, as the loop without its body. -/
def forHead (recur : Read) (isWaiting : Bool) : Parse Node := do
  if let some kind ← variableKind? then return ← variableHead recur isWaiting kind
  if ← eatMark ";" then return ← stepsHead recur .absent
  expressionHead recur isWaiting

def forStatement (recur : Read) : Parse Node := do
  advance
  let isWaiting ← eatWord "await"
  expectMark "("
  let inside (context : Context) : Context :=
    { context with inLoopHead := true, inWaitingLoopHead := isWaiting }
  let head ← inContext inside (forHead recur isWaiting)
  expectMark ")"
  let body ← loopBody recur
  match head with
  | .form (.forOf isWaiting) parts => return .form (.forOf isWaiting) (parts ++ [body])
  | .form shape parts =>
    if isWaiting then refuse .loopAwait
    return .form shape (parts ++ [body])
  | head => return head

def whileLoop (recur : Read) : Parse Node := do
  advance
  let test ← headExpression recur
  return .form .whileLoop [test, ← loopBody recur]

def doWhile (recur : Read) : Parse Node := do
  advance
  let body ← loopBody recur
  expectWord "while"
  let test ← headExpression recur
  let _ ← eatStatementEnd
  return .form .doWhile [test, body]

def atCase : Parse Bool := do return (← atWord "case") || (← atWord "default")

def switchCase (recur : Read) (hasDefault : Bool) : Parse Node := do
  let isCase ← atWord "case"
  advance
  let test ←
    if isCase then withIn (recur .expression)
    else if hasDefault then refuse .secondDefault
    else pure .absent
  expectMark ":"
  let statements ← many do
    if (← atEnd) || (← atMark "\x7d") || (← atCase) then return none
    return some (← recur (.statement true))
  return .form .caseOf [test, .group statements]

def isDefaultCase : Node → Bool
  | .form .caseOf [test, _] => test.isAbsent
  | _ => false

def switchOn (recur : Read) : Parse Node := do
  advance
  let subject ← headExpression recur
  expectMark "\x7b"
  let cases ← inContext (fun context => { context with canBreak := true }) <|
    extend (fun cases => do
      if !(← atCase) then return none
      return some ((← switchCase recur (cases.any isDefaultCase)) :: cases)) []
  expectMark "\x7d"
  return .form .switchOn [subject, .form .cases cases.reverse]

def handlerParameter (recur : Read) : Parse Node := do
  if !(← eatMark "(") then return .absent
  let target ← recur .pattern
  let type ← typeAnnotation recur
  expectMark ")"
  return annotate false type target

def handler? (recur : Read) : Parse Node := do
  if !(← eatWord "catch") then return .absent
  let parameter ← handlerParameter recur
  return .form .catchClause [parameter, ← block recur]

def finalizer? (recur : Read) : Parse Node := do
  if ← eatWord "finally" then block recur else return .absent

def tryCatch (recur : Read) : Parse Node := do
  advance
  let body ← block recur
  let handler ← handler? recur
  let finalizer ← finalizer? recur
  if handler.isAbsent && finalizer.isAbsent then note .semicolonExpected
  return .form .tryCatch [body, handler, finalizer]

/-- The end of a `try` without its beginning. -/
def strayHandler (recur : Read) : Parse Node := do
  note .semicolonExpected
  let _ ← succeeds (handler? recur)
  let _ ← succeeds (finalizer? recur)
  return .form .expression [.absent]

def throwValue (recur : Read) : Parse Node := do
  advance
  if ← newlineBefore then refuse .lineBreakAfterThrow
  let value ← withIn (recur .expression)
  expectStatementEnd
  return .form .throwValue [value]

def returnValue (recur : Read) : Parse Node := do
  advance
  let value ← if ← atStatementEnd then pure .absent else withIn (recur .expression)
  expectStatementEnd
  if !(← read).inFunction then note .returnPlace
  return .form .returnValue [value]

def jumpLabel? : Parse (Option String) := do
  if ← eatStatementEnd then return none
  let name ← identifierName true
  expectStatementEnd
  return some name

def jump (isBreak : Bool) : Parse Node := do
  advance
  let label? ← jumpLabel?
  let context ← read
  let isKnown := label?.all context.labels.contains
  if isBreak then
    if !isKnown then note .unknownBreakLabel else if !context.canBreak then note .breakPlace
  else if !context.canContinue then note .continuePlace
  else if !isKnown then note .unknownContinueLabel
  let label := Node.ofOption (label?.map fun name => .ident .plain { name })
  return .form (if isBreak then .breakTo else .continueTo) [label]

/-- A `with`, which no module may hold. -/
def withStatement (recur : Read) : Parse Node := do
  if ← typed then note .typedWith
  note .withStatement
  advance
  let _ ← headExpression recur
  inContext (fun context => { context with inFunction := true }) (controlled recur)

def wordStatement (word : String) : Parse Node := do
  advance
  expectStatementEnd
  return .form (.word word) []

def awaitedUsing? (recur : Read) : Parse (Option Node) := do
  if !(← atWord "await") || !(← beyondWord "using") then return none
  let start ← get
  advance
  if let some node ← using? recur true then return some node
  set start
  return none

def checkLabeled : Node → Parse Unit
  | .form (.functionDeclaration _) [_, .form (.function isAsync isGenerator) _] => do
    note .labeledFunction
    if isAsync || isGenerator then note .labeledGenerator
  | _ => pure ()

def labeled (recur : Read) (name : String) : Parse Node := do
  let isRepeated := (← read).labels.contains name
  let inside (context : Context) : Context :=
    { context with canBreak := true, labels := name :: context.labels }
  let body ← inContext inside do
    if ← atWord "function" then
      let declaration ← functionDeclaration recur false false true
      checkLabeled declaration
      return declaration
    controlled recur
  if isRepeated then note (.repeatedLabel name)
  return .form .labeled [.ident .plain { name }, body]

/-- The end of a statement that is an expression; an operator is read on from there. -/
def expressionEnd (recur : Read) (node : Node) : Parse Node := do
  if ← eatStatementEnd then return .form .expression [node]
  let _ ← demand
  if !(← atOperator) then refuse .statementEndExpected
  note .semicolonExpected
  return .form .expression [← recur (.operators 0 node)]

def nameStatement (recur : Read) (decorators : List Node) (id : Ident) : Parse Node := do
  let node := Node.ident .use id
  if id.name == "interface" && (← newlineBefore) then
    note (.strictIdentifier id.name)
    let _ ← eatStatementEnd
    return .form .expression [node]
  if let some declaration ← namedDeclaration? recur decorators id.name then return declaration
  if ["enum", "interface"].contains id.name then note (.strictIdentifier id.name)
  if (← typed) && ["public", "static", "abstract"].contains id.name then
    if ← eatWord "interface" then
      note .interfaceName
      return ← interfaceRest recur false
  expressionEnd recur node

def expressionStatement (recur : Read) (decorators : List Node) : Parse Node := do
  match ← withIn (recur .expression) with
  | .ident .use id =>
    if ← eatMark ":" then labeled recur id.name else nameStatement recur decorators id
  | node => expressionEnd recur node

/-- A statement that starts with a word which can start nothing else, if one is in sight. -/
def keywordStatement? (recur : Read) (isListed : Bool) (decorators : List Node) (word : String) :
    Parse (Option Node) := do
  match word with
  | "break" => return some (← jump true)
  | "continue" => return some (← jump false)
  | "debugger" => return some (← wordStatement word)
  | "do" => return some (← doWhile recur)
  | "for" => return some (← forStatement recur)
  | "function" =>
    if !isListed then note .declarationPlace
    return some (← functionDeclaration recur false false true)
  | "class" =>
    if !isListed then note .declarationPlace
    return some (← classDeclaration recur decorators false false true)
  | "if" => return some (← ifElse recur)
  | "return" => return some (← returnValue recur)
  | "switch" => return some (← switchOn recur)
  | "throw" => return some (← throwValue recur)
  | "catch" | "finally" => return some (← strayHandler recur)
  | "try" => return some (← tryCatch recur)
  | "with" => return some (← withStatement recur)
  | "while" => return some (← whileLoop recur)
  | "var" => return some (← variableDeclaration recur .var false)
  | "const" =>
    if !isListed then return none
    return some (← variableDeclaration recur .const false)
  | "let" =>
    if !isListed || !followsLet (← beyond).token then return none
    return some (← variableDeclaration recur .let_ false)
  | _ => return none

/-- A declaration of types that starts with a word and a name on one line, if one is in sight. -/
def typedStatement? (recur : Read) (word : String) : Parse (Option Node) := do
  if !(← typed) then return none
  if word == "const" && (← beyondWord "enum") then
    advance
    advance
    return some (← enumRest recur false true)
  let next ← beyond
  if !isWord next.token || next.newline then return none
  match word with
  | "interface" => advance; return some (← interfaceRest recur false)
  | "type" => advance; return some (← typeAliasRest recur false)
  | "enum" => advance; return some (← enumRest recur false false)
  | _ => return none

def statementContent (recur : Read) (isListed : Bool) (decorators : List Node) : Parse Node := do
  match ← demand with
  | .punct "\x7b" => block recur
  | .punct ";" => advance; return .form .empty []
  | .word word =>
    if let some node ← typedStatement? recur word then return node
    if let some node ← keywordStatement? recur isListed decorators word then return node
    if isListed then
      if let some node ← awaitedUsing? recur then return node
      if let some node ← using? recur false then return node
    if ← atAsyncFunction then return ← asyncFunction recur true
    expressionStatement recur decorators
  | _ => expressionStatement recur decorators

/-- An expression that starts with the word `import`, as a statement. -/
def importStatement (recur : Read) : Parse Node := do
  let node ← recur .expression
  let _ ← eatStatementEnd
  return .form .expression [node]

/-- A statement or a declaration. -/
def statement (recur : Read) (isListed : Bool) : Parse Node := withoutColon do
  decorated recur fun decorators => do
    if ← atWord "import" then
      if ← beyondMarks ["(", "."] then return ← importStatement recur
      refuse .importPlace
    if ← atWord "export" then refuse .importPlace
    statementContent recur isListed decorators

end StyleInline.Script.Grammar
