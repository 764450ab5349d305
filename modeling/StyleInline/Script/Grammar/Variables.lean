import StyleInline.Script.Grammar.Classes

/-!
# Variables

The readers of variable declarations, where they are statements and where they start a loop.
-/

namespace StyleInline.Script.Grammar

/-- The token may follow the word `let` that starts a declaration. -/
def followsLet : Token → Bool
  | .word word => !keywords.contains word
  | .punct mark => mark == "[" || mark == "\x7b"
  | _ => false

def variableKind? : Parse (Option VariableKind) := do
  match ← sight with
  | .word "var" => return some .var
  | .word "const" => return some .const
  | .word "let" => return if followsLet (← beyond).token then some .let_ else none
  | _ => return none

def checkMissing (kind : VariableKind) (target : Node) : Parse Unit := do
  if (← read).isAmbient then return
  if kind == .const then note .constWithoutValue
  else
    match target with
    | .ident _ _ | .form (.annotated _) _ => pure ()
    | _ => refuse .patternWithoutValue

def declarator (recur : Read) (kind : VariableKind) (inLoop : Bool) : Parse Node := do
  let target ← bindingPattern recur (kind == .let_ || kind == .const)
  let isDefinite ←
    match target with
    | .ident _ _ => if ← typed then eatMark "!" else pure false
    | _ => pure false
  let target := annotate false (← typeAnnotation recur) target
  if inLoop && ((← atWord "in") || (← atWord "of")) then
    return .form (.declarator isDefinite) [target, .absent]
  if ← eatMark "=" then
    return .form (.declarator isDefinite) [target, ← recur .assignment]
  checkMissing kind target
  return .form (.declarator isDefinite) [target, .absent]

/-- Declared variables; a comma that nothing follows is noted. -/
def declarators (recur : Read) (kind : VariableKind) (inLoop : Bool) : Parse (List Node) := do
  let inside (context : Context) : Context :=
    { context with allowIn := context.allowIn || kind != .var || !inLoop }
  let (reversed, _) ← extend (fun (found, isDone) => do
    if isDone then return none
    if (← atMark ";") || (← atEnd) then
      note .trailingComma
      return none
    let node ← inContext inside (declarator recur kind inLoop)
    return some (node :: found, !(← eatMark ","))) ([], false)
  return reversed.reverse

/-- Skips what stands in front of the end of a statement. -/
def skipStatement (recur : Read) : Parse Unit := do
  let _ ← succeeds (recur .expression)
  let _ ← many do
    if ← eatStatementEnd then return none
    advance
    match ← sight with
    | .fault _ => return none
    | _ => return some ()

/-- Variables with the semicolon behind them; where it is missing the rest is skipped up to the
next one. -/
def variableDeclaration (recur : Read) (kind : VariableKind) (isDeclared : Bool) : Parse Node := do
  advance
  let nodes ← declarators recur kind false
  if !(← eatStatementEnd) then
    note .semicolonExpected
    skipStatement recur
  return .form (.variableDeclaration kind isDeclared) nodes

def usingRest (recur : Read) (isAwaiting : Bool) : Parse Node := do
  let first ← declarator recur .var false
  let more ← many do
    if ← eatMark "," then return some (← declarator recur .var false) else return none
  if !(← typed) then note .usingDisabled
  for node in first :: more do
    match node with
    | .form _ [target, value] =>
      match target with
      | .ident _ _ | .form (.annotated _) _ => pure ()
      | _ => note .usingPattern
      if value.isAbsent then note .usingWithoutValue
    | _ => pure ()
  return .form (.variableDeclaration (.using isAwaiting) false) (first :: more)

def using? (recur : Read) (isAwaiting : Bool) : Parse (Option Node) := do
  let next ← beyond
  if !(← atWord "using") || next.newline || !isIdentifier next.token then return none
  advance
  return some (← usingRest recur isAwaiting)

def loopVariables (recur : Read) (kind : VariableKind) : Parse Node := do
  let isEmpty ←
    if (← typed) && ((← atWord "of") || (← atWord "in")) then
      ahead <| succeeds do
        advance
        let _ ← recur .assignment
        expectMark ")"
    else pure false
  if isEmpty then
    note .noVariable
    return .form (.variableDeclaration kind false) []
  return .form (.variableDeclaration kind false) (← declarators recur kind true)

def hasType : Node → Bool
  | .form (.annotated _) [_, type] | .form (.arrayPattern _) [_, type]
  | .form (.objectPattern _) [_, type] => !type.isAbsent
  | _ => false

/-- Checks the variables of a loop over several values: one without a value and a type. -/
def checkLoopVariables : Node → Parse Unit
  | .form _ [.form _ [target, value]] => do
    if !value.isAbsent then note .loopValue
    if hasType target then note .loopType
  | .form _ (_ :: _ :: _) => note .severalVariables
  | _ => pure ()

end StyleInline.Script.Grammar
