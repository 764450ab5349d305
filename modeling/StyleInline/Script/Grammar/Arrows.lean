import StyleInline.Script.Grammar.Operators
import StyleInline.Script.Scope

/-!
# Parentheses and arrow functions

What stands in parentheses may be an expression or the parameters of an arrow function, and
only what follows tells which.  It is read as a list of items that can become either.
-/

namespace StyleInline.Script.Grammar

structure Item where
  node : Node
  /-- It can only be a parameter. -/
  isPattern : Bool := false

structure Items where
  items : List Item := []
  isTrailed : Bool := false

def isSpread : Node → Bool
  | .form .spread _ => true
  | _ => false

def withoutDots : Node → Node
  | .form .spread [inner] => inner
  | node => node

def isRest : Node → Bool
  | .form .restPattern _ => true
  | _ => false

def lastParameter (isTrailed : Bool) (item : Item) : Parse Node := do
  if item.isPattern then
    if isTrailed && isRest item.node then note .commaAfterRest
    return item.node
  if !isSpread item.node then return ← toPattern .binding item.node
  let target := withoutDots item.node
  if isAssignment target then note .defaultedRest
  if isTrailed then note .commaAfterRest
  return .form .restPattern [← toPattern .binding target, .absent]

def toParameters (isTrailed : Bool) : List Item → Parse (List Node)
  | [] => return []
  | [item] => return [← lastParameter isTrailed item]
  | item :: rest => do
    if isSpread item.node || isRest item.node then
      note .restParameterNotLast
      toParameters isTrailed rest
    else
      let parameter ← if item.isPattern then pure item.node else toPattern .binding item.node
      return parameter :: (← toParameters isTrailed rest)

def Items.parameters (items : Items) : Parse (List Node) := do
  let parameters ← toParameters items.isTrailed items.items
  if (Binder.namesOfAll parameters).any isStrictBinding then note .strictBinding
  return parameters

/-- An item before it is known what stands behind it. -/
def itemArgument (recur : Read) : Parse Node := do
  let token ← sight
  let next := (← beyond).token
  if (← typed) && token == .punct "..." && isIdentifier next then
    advance
    return .form .spread [← binary recur]
  if (← typed) && isIdentifier token then return ← assigned recur (← binary recur)
  argument recur

/-- What a question mark behind an item makes of it, and whether it makes it optional. -/
def questionedItem (recur : Read) (argument : Node) : Parse (Node × Bool) := do
  if !(← typed) || !(← atMark "?") then return (argument, false)
  if ← beyondMarks [",", ":", ")", "="] then
    advance
    if isSpread argument then note .optionalRest
    match withoutDots argument with
    | .ident _ _ => return (argument, true)
    | _ => refuse .optionalPattern
  if isSpread argument then return (argument, false)
  advance
  let (positive, negative) ← results recur
  return (.form .conditional [argument, positive, negative], false)

def patternItem (recur : Read) (argument : Node) (isOptional : Bool) : Parse Node := do
  let target ← toPattern .binding (withoutDots argument)
  let target := annotate isOptional .absent target
  let target := if isSpread argument then .form .restPattern [target, .absent] else target
  let type ← if target.isAbsent then pure .absent else typeAnnotation recur
  if isDefaulted target && !type.isAbsent then note .typeBehindDefault
  let target :=
    match target with
    | .form (.annotated _) [name, _] => annotate isOptional type name
    | target => annotate false type target
  if ← eatMark "=" then return .form .defaulted [target, ← recur .assignment]
  return target

def parenItem (recur : Read) : Parse Item := do
  let start ← charsLeft
  modify fun cursor => { cursor with arrowStart := some start }
  let hasModifier ← eatFieldModifier
  let (argument, isOptional) ← questionedItem recur (← itemArgument recur)
  let found ←
    if isOptional || ((← typed) && (← atMark ":")) then
      pure { node := ← patternItem recur argument isOptional, isPattern := true }
    else pure { node := argument }
  if hasModifier then note .parameterField
  return found

def Items.startsWithName (items : Items) : Bool :=
  match items.items.head?.map Item.node with
  | some (.ident _ _) | some (.form .spread [.ident _ _])
  | some (.form (.annotated _) [.ident _ _, _]) => true
  | _ => false

def parenItems (recur : Read) : Parse Items := withIn <| withoutColon do
  expectMark "("
  let items ← extend (fun found => do
    if (← atMark ")") || (← atEnd) then return none
    let items : Items := { items := found.items ++ [← parenItem recur] }
    let items ←
      if (← eatMark "=>") && items.startsWithName then do
        let arrow ← arrowWith recur false (← items.parameters) .absent .absent
        pure { items with items := items.items ++ [{ node := arrow }] }
      else pure items
    if ← atMark ")" then return some items
    expectMark ","
    return some { items with isTrailed := ← atMark ")" }) ({} : Items)
  expectMark ")"
  return items

/-- An arrow function that says what it returns, behind its items and within a condition. -/
def conditionalArrow? (recur : Read) (isAsync : Bool) (items : Items) : Parse (Option Node) := do
  if !(← read).inConditional || !(← atMark ":") then return none
  attempt? do
    let result ← resultType recur ":"
    expectMark "=>"
    let arrow ← arrowWith recur isAsync (← items.parameters) .absent (.typing result)
    if (← read).beforeColon && !(← atMark ":") then return none
    return some arrow

def arrowResult (recur : Read) : Parse Node := do
  if (← read).beforeColon || !(← atMark ":") then return .absent
  let result? ← attempt? do
    let result ← resultType recur ":"
    return if ← atMark "=>" then some result else none
  return .ofOption (result?.map .typing)

def arrowRest (recur : Read) (canBeArrow isAsync : Bool) (items : Items) (result : Node) :
    Parse Node := do
  if ← newlineBefore then refuse .lineBreakBeforeArrow
  if !canBeArrow then refuse .arrowPlace
  expectMark "=>"
  let arrow ← arrowWith recur isAsync (← items.parameters) .absent result
  let endsWithBlock :=
    match arrow with
    | .form _ [_, .form .body _, _, _] => true
    | _ => false
  if !endsWithBlock || !(← atOperator) then return arrow
  note .semicolonExpected
  let node ← recur (.operators 0 arrow)
  if !(← atStatementEnd) then note .semicolonExpected
  return node

/-- A default in an object that is no pattern. -/
def holdsDefault : Node → Bool
  | .form (.object _) properties =>
    properties.any fun
      | .form .patternDefault _ => true
      | _ => false
  | _ => false

/-- The items as expressions in parentheses. -/
def parenthesizedItems (isAsync : Bool) (items : Items) : Parse Node := do
  let nodes := items.items.map Item.node
  if nodes.any holdsDefault then note .defaultOutsidePattern
  if items.items.any Item.isPattern then refuse .notAnExpression
  if isAsync then
    return .form (.call false) [.ident .use { name := "async" }, .group nodes, .absent]
  if nodes.any isSpread then refuse .spreadInParentheses
  match nodes with
  | [] => refuse .emptyParentheses
  | [node] => return .form .paren [node]
  | nodes => return .form .paren [.form .sequence nodes]

def parenthesized (recur : Read) (canBeArrow isAsync : Bool) : Parse Node := do
  let items ← parenItems recur
  if let some arrow ← conditionalArrow? recur isAsync items then return arrow
  let result ← arrowResult recur
  if items.items.any Item.isPattern || !result.isAbsent || (← atMark "=>") then
    arrowRest recur canBeArrow isAsync items result
  else parenthesizedItems isAsync items

/-- An asynchronous arrow function with type parameters, behind its word. -/
def genericAsyncArrow (recur : Read) : Parse Node := do
  let typeParameters ← typeParameters recur false false
  expectMark "("
  let parameters ← parametersOf recur
  expectMark ")"
  let result ← resultAnnotation recur
  expectMark "=>"
  inContext (fun context => { context with inAsync := true, inGenerator := false })
    (arrowWith recur true parameters typeParameters result)

end StyleInline.Script.Grammar
