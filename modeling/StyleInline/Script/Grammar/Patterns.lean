import StyleInline.Script.Grammar.Types

/-!
# Patterns

The readers of property names and of declared patterns, and the passage from an expression to
the pattern that it turns out to be.
-/

namespace StyleInline.Script.Grammar

/-- The items of a list while it is read, last first. -/
structure OpenList where
  reversed : List Node := []
  isTrailed : Bool := false

def OpenList.push (list : OpenList) (node : Node) (isTrailed : Bool) : OpenList :=
  { reversed := node :: list.reversed, isTrailed }

def OpenList.hasRest (list : OpenList) : Bool :=
  list.reversed.any fun
    | .form .restPattern _ => true
    | .form (.parameter _) [_, .form .restPattern _] => true
    | _ => false

/-- An item of a list with the comma behind it, unless the list ends there. -/
def pushItem (list : OpenList) (closing : String) (node : Node) : Parse OpenList := do
  if ← atMark closing then return list.push node false
  expectMark ","
  return list.push node (← atMark closing)

/-- The elements between brackets, with the holes between them, and whether a comma stands behind
the last one; the reader of an element knows the elements in front of it. -/
def elementList (element : OpenList → Parse Node) : Parse (List Node × Bool) := do
  let found ← extend (fun list => do
    if (← atMark "]") || (← atEnd) then return none
    if ← eatMark "," then return some (list.push (.form .hole []) false)
    pushItem list "]" (← element list)) {}
  expectMark "]"
  return (found.reversed.reverse, found.isTrailed)

def propertyList (property : Parse Node) : Parse (List Node × Bool) := do
  let found ← withoutColon <| extend (fun list => do
    if ← eatMark "\x7d" then return none
    pushItem list "\x7d" (← property)) {}
  return (found.reversed.reverse, found.isTrailed)

def computedKey (recur : Read) : Parse Node := do
  let first ← withIn (recur .assignment)
  if (← typed) && (← atMark ",") then
    let more ← many do
      if ← eatMark "," then return some (← withIn (recur .assignment)) else return none
    note .listedKey
    expectMark "]"
    return .form .computed [.form .sequence (first :: more)]
  expectMark "]"
  return .form .computed [first]

def propertyName (recur : Read) : Parse Node := do
  match ← demand with
  | .word name => advance; return .form (.key name) []
  | .text literal => advance; return .form (.text literal) []
  | .number raw => advance; return .form (.number raw) []
  | .bigint raw => advance; return .form (.literal raw) []
  | .punct "[" => advance; computedKey recur
  | _ => refuseToken "identifier, string literal, numeric literal or [ for the computed key"

def bindingElement (recur : Read) : Parse Node := do
  let target ← recur .pattern
  if !(← eatMark "=") then return target
  let value ← withIn (recur .assignment)
  if (← read).isAmbient then note .signatureDefault
  return .form .defaulted [target, value]

def arrayPatternElement (recur : Read) (list : OpenList) : Parse Node := do
  if list.hasRest then note .restNotLast
  if !(← eatMark "...") then return ← bindingElement recur
  let rest := Node.form .restPattern [← recur .pattern, .absent]
  if (← atMark ",") && (← beyondMark "]") then note .commaAfterRest
  return rest

/-- The question mark behind a pattern, which only a declaration of values may have. -/
def eatPatternMark : Parse Bool := do
  if (← read).isAmbient then eatMark "?" else return false

def isHole : Node → Bool
  | .form .hole _ => true
  | _ => false

/-- An array pattern, whose opening bracket is in sight; holes at its end are left out. -/
def arrayPattern (recur : Read) : Parse Node := do
  advance
  let (elements, _) ← elementList (arrayPatternElement recur)
  let elements := (elements.reverse.dropWhile isHole).reverse
  return .form (.arrayPattern (← eatPatternMark)) [.group elements, .absent]

def objectPatternProperty (recur : Read) : Parse Node := do
  if ← eatMark "..." then return .form .restPattern [← recur .pattern, .absent]
  let key ← propertyName recur
  if ← eatMark ":" then return .form .pairPattern [key, ← bindingElement recur]
  match key with
  | .form (.key name) _ =>
    let value ← behindMark? "=" (withIn (recur .assignment))
    return .form .fieldPattern [.ident .bind { name }, value]
  | _ => refuseToken "an identifier"

/-- Checks the properties of an object pattern: one that takes the rest is a name, and the last. -/
def checkProperties (isTrailed : Bool) : List Node → Parse Unit
  | [] => return
  | [.form .restPattern [target, _]] => do
    match target with
    | .ident _ _ => if isTrailed then note .commaAfterRest
    | _ => refuse .unnamedRest
  | .form .restPattern _ :: rest => do
    note .restNotLast
    checkProperties isTrailed rest
  | _ :: rest => checkProperties isTrailed rest

def objectPattern (recur : Read) : Parse Node := do
  advance
  let (properties, isTrailed) ← propertyList (objectPatternProperty recur)
  checkProperties isTrailed properties
  return .form (.objectPattern (← eatPatternMark)) [.group properties, .absent]

/-- A pattern; a variable that belongs to a block may not be named `let`. -/
def bindingPattern (recur : Read) (refusesLet : Bool) : Parse Node := do
  match ← demand with
  | .word _ => return .ident .bind { name := ← bindingName refusesLet }
  | .punct "[" => arrayPattern recur
  | .punct "\x7b" => objectPattern recur
  | _ => refuseToken "yield, an identifier, [ or \x7b"

/-- A pattern. -/
def pattern (recur : Read) : Parse Node := bindingPattern recur false

def annotate (isOptional : Bool) (type : Node) : Node → Node
  | .ident role id =>
    if !isOptional && type.isAbsent then .ident role id
    else .form (.annotated isOptional) [.ident role id, type]
  | .form (.arrayPattern isMarked) [elements, _] =>
    .form (.arrayPattern (isMarked || isOptional)) [elements, type]
  | .form (.objectPattern isMarked) [properties, _] =>
    .form (.objectPattern (isMarked || isOptional)) [properties, type]
  | .form .restPattern [target, _] => .form .restPattern [target, type]
  | other => other

inductive Turn where
  | assignment
  | assignmentPart
  | binding
  | bindingPart
  deriving DecidableEq

def Turn.part : Turn → Turn
  | .assignment | .assignmentPart => .assignmentPart
  | .binding | .bindingPart => .bindingPart

def isLiteral : Node → Bool
  | .form (.number _) _ | .form (.text _) _ => true
  | .form (.literal raw) _ =>
    !(["this", "super", "import", "import.meta", "new.target"].contains raw)
  | _ => false

/-- A value can be assigned to the expression without taking it apart. -/
def isSimpleTarget : Node → Bool
  | .ident _ id => !isStrictBinding id.name
  | .form .paren [inner] => isSimpleTarget inner
  | .form (.dot name isOptional) [object] =>
    !Node.isOptionalChain (.form (.dot name isOptional) [object]) && isMemberTarget object
  | .form (.index isOptional) [object, index] =>
    !Node.isOptionalChain (.form (.index isOptional) [object, index]) && isMemberTarget object
  | .form .nonNull [inner] => isSimpleTarget inner
  | .form (.cast _) [inner, type] => !isConst type && isSimpleTarget inner
  | .form .angleCast [inner, type] => !isConst type && isSimpleTarget inner
  | .form .instantiation [inner, _] => isSimpleTarget inner
  | _ => false
where
  isMemberTarget (object : Node) : Bool := !object.isOptionalChain
  isConst : Node → Bool
    | .form .typing [.form (.literal word) _] => word == "const"
    | _ => false

def isStrictTarget : Node → Bool
  | .ident _ id => isStrictBinding id.name
  | _ => false

/-- An expression that is refused as a target, other than those that are refused elsewhere. -/
def deniesTarget (deniesCalls : Bool) : Node → Bool
  | .form .paren [inner] => deniesTarget deniesCalls inner
  | .form (.call isOptional) parts =>
    deniesCalls || Node.isOptionalChain (.form (.call isOptional) parts)
  | .form (.binary _) _ => false
  | node => !isLiteral node

def checkTarget (deniesCalls : Bool) (target : Node) : Parse Unit := do
  if isStrictTarget target then note .strictTarget
  else if !isSimpleTarget target && deniesTarget deniesCalls target then note .invalidTarget

def isTarget : Node → Bool
  | .ident _ _ | .form (.dot _ _) _ | .form (.index _) _ | .form .paren _ | .form .nonNull _
  | .form .instantiation _ | .form (.arrayPattern _) _ | .form (.objectPattern _) _
  | .form .absent _ => true
  | .form (.call isOptional) parts => Node.isOptionalChain (.form (.call isOptional) parts)
  | .form (.cast _) [_, type] => !isSimpleTarget.isConst type
  | .form .angleCast [_, type] => !isSimpleTarget.isConst type
  | _ => false

/-- An expression that may stand in a pattern only as a target. -/
def isPartTarget : Node → Bool
  | .ident _ _ | .form (.dot _ _) _ | .form (.index _) _ | .form (.call _) _ | .form .construct _
  | .form .functionExpression _ | .classNode _ _ _ _ _ | .form .paren _ | .form (.template _) _ =>
    true
  | .form (.cast word) [_, type] => word == "as" && !isSimpleTarget.isConst type
  | node => isLiteral node

def isAssignment : Node → Bool
  | .form (.assign _) _ => true
  | _ => false

def asBinding : Node → Node
  | .ident _ id => .ident .bind id
  | other => other

/-- An expression that can only be a target, as a part of a pattern; it is kept if it is one, with
or without an error. -/
def partTarget? (turn : Turn) (node : Node) : Parse (Option Node) := do
  match turn with
  | .assignment => return some (asBinding node)
  | .assignmentPart =>
    if node.isOptionalChain then
      note .notAPattern
      return none
    if isPartTarget node then
      if !isSimpleTarget node then note .notAssignable
      return some (asBinding node)
    if !isAssignment node then note .notAPattern
    return none
  | .binding | .bindingPart => return none

mutual

def toPattern (turn : Turn) : Node → Parse Node
  | .form .absent _ => return .absent
  | .form (.array isTrailed) elements => do
    return .form (.arrayPattern false) [.group (← toElements turn.part isTrailed elements), .absent]
  | .form (.object isTrailed) properties => do
    let properties ← toProperties turn.part isTrailed properties
    return .form (.objectPattern false) [.group properties, .absent]
  | .form (.assign operator) [target, value] => do
    if let some node ← partTarget? turn (.form (.assign operator) [target, value]) then return node
    if operator == "=" then
      let target ← toAssignedTarget turn target
      return .form .defaulted [target, value]
    note .notAPattern
    return .absent
  | node => do
    if let some node ← partTarget? turn node then return node
    match node with
    | .ident _ id => return .ident .bind id
    | _ =>
      note .notAPattern
      return .absent

def toAssignedTarget (turn : Turn) : Node → Parse Node
  | .form (.arrayPattern isOptional) parts => return .form (.arrayPattern isOptional) parts
  | .form (.objectPattern isOptional) parts => return .form (.objectPattern isOptional) parts
  | target => do
    if let some target ← partTarget? turn target then return target
    match target with
    | .ident _ id => return .ident .bind id
    | _ =>
      note .notAPattern
      return .absent

/-- The elements of an array as parts of a pattern; holes at the end are left out. -/
def toElements (turn : Turn) (isTrailed : Bool) : List Node → Parse (List Node)
  | [] => return []
  | .form .hole parts :: rest => do
    let rest ← toElements turn isTrailed rest
    return if rest.isEmpty then [] else .form .hole parts :: rest
  | .form .spread [target] :: rest => do
    if !rest.isEmpty then
      note .restNotLast
      toElements turn isTrailed rest
    else
      if isAssignment target then note .defaultedRest
      if isTrailed then note .commaAfterRest
      return [.form .restPattern [← toPattern turn target, .absent]]
  | node :: rest => do
    let element ← toPattern turn node
    return element :: (← toElements turn isTrailed rest)

def toProperties (turn : Turn) (isTrailed : Bool) : List Node → Parse (List Node)
  | [] => return []
  | .ident _ id :: rest => do
    return .form .fieldPattern [.ident .bind id, .absent] :: (← toProperties turn isTrailed rest)
  | .form .patternDefault parts :: rest => do
    return .form .fieldPattern parts :: (← toProperties turn isTrailed rest)
  | .form .pair [key, value] :: rest => do
    let value ← toPattern turn value
    return .form .pairPattern [key, value] :: (← toProperties turn isTrailed rest)
  | .form .spread [target] :: rest => do
    if !rest.isEmpty then note .restNotLast else if isTrailed then note .commaAfterRest
    let element ←
      match turn, target with
      | .bindingPart, .ident _ id | .binding, .ident _ id => pure (.ident .bind id)
      | .bindingPart, _ | .binding, _ => do
        note .unnamedRest
        pure .absent
      | _, target => toPattern turn target
    match element with
    | .form .defaulted _ => note .defaultedRest
    | _ => pure ()
    return .form .restPattern [element, .absent] :: (← toProperties turn isTrailed rest)
  | _ :: _ => refuse .notAPattern

end

def assignmentTarget (node : Node) : Parse Node := do
  match node with
  | .form (.array _) _ | .form (.object _) _ => toPattern .assignment node
  | .form .absent _ => return .absent
  | _ =>
    checkTarget true node
    return asBinding node

end StyleInline.Script.Grammar
