import StyleInline.Script.Grammar.Patterns

/-!
# Functions

The readers of parameters and of the bodies of functions.  A body starts a world of its own:
no label and no loop around the function can be reached from it.
-/

namespace StyleInline.Script.Grammar

def decorated (recur : Read) (reader : List Node → Parse Node) : Parse Node := do
  match ← recur .decorators with
  | .form .decorators decorators => reader decorators
  | _ => reader []

def parameterNode (decorators : List Node) (modifiers : List String) (target : Node) : Node :=
  if decorators.isEmpty && modifiers.isEmpty then target
  else .form (.parameter modifiers) [.form .decorators decorators, target]

def isDefaulted : Node → Bool
  | .form .defaulted _ => true
  | .form (.parameter _) [_, .form .defaulted _] => true
  | _ => false

def parameterDefault (recur : Read) (isOptional : Bool) (target : Node) : Parse Node := do
  if !(← eatMark "=") then return target
  if isOptional then note .optionalDefault
  let value ← recur .assignment
  if (← read).isAmbient then note .signatureDefault
  return .form .defaulted [target, value]

def plainParameter (recur : Read) : Parse Node := do
  let hasModifier ← eatFieldModifier
  let target ← bindingElement recur
  let isOptional ← eatMarkIf (← typed) "?"
  if isOptional && isDefaulted target && !(← read).isAmbient then refuse .optionalPattern
  let type ← typeAnnotation recur
  if isDefaulted target && !type.isAbsent then note .typeBehindDefault
  let target ← parameterDefault recur isOptional (annotate isOptional type target)
  if hasModifier then note .parameterField
  return target

def restParameter (recur : Read) (isConstructor : Bool) : Parse Node := do
  let target ← recur .pattern
  if isConstructor then return .form .restPattern [target, ← typeAnnotation recur]
  let target ←
    if ← eatMark "=" then do
      let value ← recur .assignment
      note .defaultedRest
      pure (Node.form .defaulted [target, value])
    else pure target
  let type ← typeAnnotation recur
  if ← eatMarkIf (← typed) "?" then note .optionalRest
  return .form .restPattern [target, type]

def accessModifier : Parse (List String) := do
  match ← modifier? ["public", "protected", "private", "in", "out"] false with
  | none => return []
  | some word =>
    if word == "in" || word == "out" then
      note (.varianceModifier word)
      return []
    return [word]

/-- One parameter of a constructor, which may also be a field. -/
def constructorParameter (recur : Read) (decorators : List Node) : Parse Node := do
  let access ← accessModifier
  let override ← modifier? ["override"] false
  let readonly ← modifier? ["readonly"] false
  let modifiers := access ++ override.toList ++ readonly.toList
  let target ← plainParameter recur
  if !modifiers.isEmpty then
    match target with
    | .ident _ _ | .form (.annotated _) _ | .form .defaulted _ => pure ()
    | _ => refuse .parameterFieldPattern
  return parameterNode decorators modifiers target

def parameterList (recur : Read) (isConstructor : Bool) : Parse (List Node) := do
  let found ← extend (fun list => do
    if (← atMark ")") || (← atEnd) then return none
    if list.hasRest then note .restParameterNotLast
    let node ← decorated recur fun decorators => do
      if ← eatMark "..." then
        return parameterNode decorators [] (← restParameter recur isConstructor)
      if isConstructor then constructorParameter recur decorators
      else return parameterNode decorators [] (← plainParameter recur)
    let isRest := (OpenList.push {} node false).hasRest
    let list ← pushItem list ")" node
    if isRest && list.isTrailed then note .commaAfterRest
    return some list) {}
  return found.reversed.reverse

def parameters (recur : Read) : Parse Node := do return .group (← parameterList recur false)

def parametersOf (recur : Read) : Parse (List Node) := do
  match ← recur .parameters with
  | .form .group parameters => return parameters
  | _ => return []

def isSimpleParameter : Node → Bool
  | .ident _ _ | .form (.annotated _) _ => true
  | .form (.parameter _) [_, .ident _ _] | .form (.parameter _) [_, .form (.annotated _) _] => true
  | _ => false

/-- The statements up to a closing brace; a brace that is missing at the end is noted. -/
def untilBrace (statement : Parse Node) : Parse (List Node) := do
  let statements ← many do
    if ← atEnd then
      note (.expected "\x7d" "<eof>")
      return none
    if ← atMark "\x7d" then return none
    return some (← statement)
  let _ ← eatMark "\x7d"
  return statements

def bracedStatements (recur : Read) : Parse (List Node) := do
  expectMark "\x7b"
  untilBrace (recur (.statement true))

def isStrictDirective : Node → Bool
  | .form .expression [.form (.text literal) _] =>
    literal.raw == some "\"use strict\"" || literal.raw == some "'use strict'"
  | _ => false

def isDirective : Node → Bool
  | .form .expression [.form (.text _) _] => true
  | _ => false

/-- The body of a function in braces; one whose parameters are no plain names may not be made
strict. -/
def functionBlock (recur : Read) (isSimple : Bool) : Parse Node := do
  let statements ← bracedStatements recur
  if !isSimple && !(← typed) && (statements.takeWhile isDirective).any isStrictDirective then
    note .strictDirective
  return .form .body statements

def Context.ofBody (context : Context) (isAsync isGenerator isArrow : Bool) : Context :=
  { context with
    inAsync := isAsync
    inGenerator := isGenerator
    inFunction := true
    inFullFunction := context.inFullFunction || !isArrow
    beforeColon := false
    canBreak := false
    canContinue := false
    labels := [] }

def inBody {α : Type} (isAsync isGenerator isArrow : Bool) (reader : Parse α) : Parse α := do
  if (← read).isAmbient && (← typed) && (← atMark "\x7b") then note .ambientBody
  let arrowStart := (← get).arrowStart
  modify fun cursor => { cursor with arrowStart := none }
  let value ← inContext (·.ofBody isAsync isGenerator isArrow) reader
  modify fun cursor => { cursor with arrowStart }
  return value

/-- The body of a function, which may be missing in the language with types. -/
def functionBody (recur : Read) (isAsync isGenerator isSimple : Bool) : Parse Node :=
  inBody isAsync isGenerator false do
    if (← typed) && !(← atMark "\x7b") then
      if ← eatStatementEnd then return .absent
    functionBlock recur isSimple

/-- Notes the defaults of a function without a body. -/
def checkDefaults (parameters : List Node) (body : Node) : Parse Unit := do
  if (← typed) && body.isAbsent && parameters.any isDefaulted then note .signatureDefault

def functionWith (recur : Read) (isAsync isGenerator : Bool) (parameters : Parse (List Node)) :
    Parse Node :=
  inContext (fun context => { context with inAsync := isAsync, inGenerator := isGenerator }) do
    let typeParameters ← typeParameters? recur false true
    expectMark "("
    let parameters ←
      inContext (fun context => { context with inParameters := true, inFunction := false })
        parameters
    expectMark ")"
    let result ← resultAnnotation recur
    let body ← functionBody recur isAsync isGenerator (parameters.all isSimpleParameter)
    checkDefaults parameters body
    return .form (.function isAsync isGenerator)
      [.group parameters, .form .decorators [], body, typeParameters, result]

def function (recur : Read) (isAsync isGenerator : Bool) : Parse Node :=
  functionWith recur isAsync isGenerator (parametersOf recur)

/-- Reads a method, from which the members of the parent class can be reached. -/
def inMethod {α : Type} (reader : Parse α) : Parse α :=
  inContext (fun context => { context with allowSuper := true, inField := false }) reader

def outsideClass {α : Type} (reader : Parse α) : Parse α :=
  inContext (fun context =>
    { context with allowSuper := false, inField := false, beforeColon := false }) reader

/-- The parameter stands for the object that a method is called on. -/
def isThis : Node → Bool
  | .ident _ id => id.name == "this"
  | .form (.annotated _) [.ident _ id, _] => id.name == "this"
  | .form (.parameter _) [_, pattern] => isThisPattern pattern
  | _ => false
where
  isThisPattern : Node → Bool
    | .ident _ id => id.name == "this"
    | .form (.annotated _) [.ident _ id, _] => id.name == "this"
    | _ => false

def getterParameters (recur : Read) : Parse (List Node) := do
  let parameters ← parametersOf recur
  if !parameters.all isThis then note .getterParameters
  return parameters

def setterParameters (recur : Read) : Parse (List Node) := do
  let parameters ← parametersOf recur
  if (parameters.filter (!isThis ·)).length != 1 then note .setterParameters
  if (OpenList.push {} (parameters.headD .absent) false).hasRest then note .setterRest
  return parameters

/-- The parameters of a setter: the one for the object itself, if there is one, and the one for the
value. -/
def setterParts (parameters : List Node) : Node × Node :=
  match parameters with
  | self :: parameter :: _ => (self, parameter)
  | [parameter] => (.absent, parameter)
  | [] => (.absent, .absent)

def functionExpression (recur : Read) (isAsync : Bool) : Parse Node := do
  expectWord "function"
  let isGenerator ← eatMark "*"
  let inside (context : Context) : Context :=
    { context with inAsync := isAsync, inGenerator := isGenerator }
  let name? ← inContext inside (bindingName? false)
  let function ← outsideClass (recur (.function isAsync isGenerator))
  match function with
  | .form _ [_, _, body, _, _] => if body.isAbsent then refuseToken "\x7b"
  | _ => pure ()
  return .form .functionExpression
    [.ofOption (name?.map fun name => .ident .bind { name }), function]

def arrowBody (recur : Read) (isAsync isSimple : Bool) : Parse Node :=
  inBody isAsync false true do
    if ← atMark "\x7b" then functionBlock recur isSimple else recur .assignment

def arrowWith (recur : Read) (isAsync : Bool) (parameters : List Node)
    (typeParameters result : Node) : Parse Node := do
  let body ← arrowBody recur isAsync (parameters.all isSimpleParameter)
  return .form (.arrow isAsync) [.group parameters, body, typeParameters, result]

end StyleInline.Script.Grammar
