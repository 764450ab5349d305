import StyleInline.Script.Grammar.Subscripts

/-!
# Operators

The readers of expressions that are built from operands: binary operators, conditions and
assignments.
-/

namespace StyleInline.Script.Grammar

/-- An arrow function takes nothing behind itself. -/
def isArrow : Node → Bool
  | .form (.arrow _) _ => true
  | _ => false

def precedence? (allowIn : Bool) : Token → Option Nat
  | .punct mark =>
    match mark with
    | "??" | "||" => some 1
    | "&&" => some 2
    | "|" => some 3
    | "^" => some 4
    | "&" => some 5
    | "==" | "!=" | "===" | "!==" => some 6
    | "<" | ">" | "<=" | ">=" => some 7
    | "<<" | ">>" | ">>>" => some 8
    | "+" | "-" => some 9
    | "*" | "/" | "%" => some 10
    | "**" => some 11
    | _ => none
  | .word word =>
    if word == "instanceof" || (word == "in" && allowIn) then some 7 else none
  | _ => none

/-- The operation needs parentheses beside `??`. -/
def isLogical : Node → Bool
  | .form (.binary operator) _ => operator == "||" || operator == "&&"
  | _ => false

/-- The operation needs parentheses beside `||` and `&&`. -/
def isCoalescing : Node → Bool
  | .form (.binary operator) _ => operator == "??"
  | _ => false

def mixesOperators : Node → Bool
  | .form (.binary operator) (left :: _) =>
    (operator == "||" || operator == "&&") && isCoalescing left
  | _ => false

/-- The operand may not be raised to a power without parentheses. -/
def isUnary : Node → Bool
  | .form (.unary _) _ | .form .await _ => true
  | _ => false

def castOperator? (recur : Read) (least : Nat) (left : Node) : Parse (Option Node) := do
  if !(← typed) || (← newlineBefore) then return none
  if least < 7 && (← atWord "as") then
    advance
    if ← eatWord "const" then return some (.form (.cast "as") [left, .typing (literally "const")])
    return some (.form (.cast "as") [left, .typing (← recur .type)])
  if ← eatWord "satisfies" then
    return some (.form (.cast "satisfies") [left, .typing (← recur .type)])
  return none

/-- An operator between two operands and the second one, if the operator binds more strongly than
`least`. -/
def binaryOperator? (recur : Read) (least : Nat) (left : Node) : Parse (Option Node) := do
  let token ← sight
  match precedence? (← read).allowIn token with
  | none => return none
  | some strength =>
    if strength ≤ least then return none
    let operator := token.shown
    advance
    if operator == "**" && isUnary left then refuse .unaryInPower
    let behind := if operator == "**" then strength - 1 else strength
    let operand ← recur .unary
    let right ← recur (.operators behind operand)
    if operator == "??" && (isLogical left || isLogical right) then note .mixedCoalescing
    return some (.form (.binary operator) [left, right])

def operators (recur : Read) (least : Nat) (left : Node) : Parse Node := do
  extend (fun left => do
    if mixesOperators left then note .mixedCoalescing
    if let some node ← castOperator? recur least left then return some node
    binaryOperator? recur least left) left

/-- An operand; where an operator stands in its place it is left out, and that is noted. -/
def firstOperand (recur : Read) : Parse Node := do
  try recur .unary
  catch error =>
    let token ← demand
    let isKnown := (precedence? (← read).allowIn token).isSome
    if !isKnown then throw error
    note error
    return .absent

def binary (recur : Read) : Parse Node := do
  let first ← firstOperand recur
  if isArrow first then return first
  recur (.operators 0 first)

def results (recur : Read) : Parse (Node × Node) := do
  let positive ← inContext
    (fun context => { context with inConditional := true, beforeColon := true, allowIn := true })
    (recur .assignment)
  expectMark ":"
  let negative ← inContext
    (fun context => { context with inConditional := true, beforeColon := false })
    (recur .assignment)
  return (positive, negative)

def conditional (recur : Read) : Parse Node := do
  let test ← binary recur
  if isArrow test || !(← atMark "?") then return test
  advance
  let (positive, negative) ← results recur
  return .form .conditional [test, positive, negative]

def yielding (recur : Read) : Parse Node := do
  advance
  let context ← read
  if context.inParameters && !context.inFunction then refuse .yieldInParameter
  let token ← sight
  let startsElement := context.dialect.elements && token == .punct "<"
  let isAlone :=
    !startsExpression token && !startsElement && !(["*", "/", "/="].contains token.shown)
  if (← atStatementEnd) || isAlone then return .form (.yields false) [.absent]
  let isDelegate ← eatMark "*"
  return .form (.yields isDelegate) [← recur .assignment]

def assignmentMarks : List String :=
  ["=", "+=", "-=", "*=", "/=", "%=", "**=", "<<=", ">>=", ">>>=", "&=", "|=", "^=", "&&=",
   "||=", "??="]

/-- The target of an operator that reads the value it changes. -/
def changedTarget (left : Node) : Parse Node := do
  if !isSimpleTarget left then note (if ← typed then .invalidTarget else .notAssignable)
  if (← typed) && isStrictTarget left then note .strictTarget
  return asBinding left

def assigned (recur : Read) (left : Node) : Parse Node := do
  match ← sight with
  | .punct mark =>
    if !assignmentMarks.contains mark then return left
    let target ← if mark == "=" then assignmentTarget left else changedTarget left
    if !isTarget target then refuse .notATarget
    advance
    return .form (.assign mark) [target, ← recur .assignment]
  | _ => return left

/-- An operation to which no value can be assigned. -/
def isOperation : Node → Bool
  | .form .conditional _ | .form (.binary _) _ | .form (.unary _) _ | .form (.update _ _) _ => true
  | node => isArrow node

def startsArrow : Token → Bool
  | .word word => word == "yield" || !(keywords ++ ["let", "await"]).contains word
  | .punct mark => mark == "("
  | _ => false

/-- An expression without commas outside of brackets, which has no type parameters in front. -/
def plainAssignment (recur : Read) : Parse Node := do
  if (← read).inGenerator && (← atWord "yield") then return ← yielding recur
  let token ← demand
  let arrowStart ← if startsArrow token then pure (some (← charsLeft)) else pure none
  modify fun cursor => { cursor with arrowStart }
  let left ← conditional recur
  if isOperation left then return left
  assigned recur left

def genericArrow? (recur : Read) : Parse (Option Node) := do
  if !(← typed) || !(← atMark "<") || !isWord (← beyond).token then return none
  attempt? do
    let typeParameters ← typeParameters recur false true
    match ← plainAssignment recur with
    | .form (.arrow isAsync) [parameters, body, _, result] =>
      return some (.form (.arrow isAsync) [parameters, body, typeParameters, result])
    | _ => return none

/-- Refuses an opening angle with which neither an element nor an arrow function starts. -/
def refuseAngle : Parse Node := do
  advance
  let _ ← demand
  refuseToken "jsx identifier"

/-- An expression without commas outside of brackets. -/
def assignment (recur : Read) : Parse Node := do
  let startsElement := (← read).dialect.elements && (← atMark "<")
  if startsElement then
    if let some node ← attempt? (do return some (← plainAssignment recur)) then return node
  if let some node ← genericArrow? recur then return node
  if startsElement && (← typed) then refuseAngle else plainAssignment recur

def expression (recur : Read) : Parse Node := do
  let first ← recur .assignment
  if !(← atMark ",") then return first
  let more ← many do
    if ← eatMark "," then return some (← recur .assignment) else return none
  return .form .sequence (first :: more)

end StyleInline.Script.Grammar
