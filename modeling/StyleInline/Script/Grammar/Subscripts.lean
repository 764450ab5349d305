import StyleInline.Script.Grammar.Literals

/-!
# Members and calls

The readers of everything that may stand behind an expression: members, calls, templates,
assertions and type arguments.
-/

namespace StyleInline.Script.Grammar

/-- The expression is a word that means something only with what stands behind it. -/
def isBareWord (word : String) : Node → Bool
  | .form (.literal raw) _ => raw == word
  | _ => false

def operatorMarks : List String :=
  ["==", "!=", "===", "!==", "<", "<=", ">", ">=", "<<", ">>", ">>>", "+", "-", "*", "/", "%", "|",
   "^", "&", "||", "&&", "**", "??"]

def atOperator : Parse Bool := atMarks operatorMarks

def startsExpression : Token → Bool
  | .word word =>
    !keywords.contains word ||
      ["class", "function", "import", "new", "super", "this", "throw", "typeof", "void", "delete",
       "null", "true", "false"].contains word
  | .number _ | .bigint _ | .text _ => true
  | .punct mark =>
    ["(", "[", "\x7b", "+", "-", "!", "~", "++", "--", "`", "@", "#"].contains mark
  | .fault _ | .eof => false

def arguments (recur : Read) (isImport : Bool) : Parse (List Node) := withoutColon do
  expectMark "("
  let found ← extend (fun list => do
    if (← atMark ")") || (← atEnd) then return none
    if list.reversed.isEmpty then return some (list.push (← argument recur) false)
    expectMark ","
    if ← atMark ")" then
      if isImport && !(← typed) then refuse .importTrailingComma
      return some { list with isTrailed := true }
    return some (list.push (← argument recur) false)) ({} : OpenList)
  expectMark ")"
  return found.reversed.reverse

def call (recur : Read) (isOptional : Bool) (callee types : Node) : Parse Node := do
  let arguments ← arguments recur (isBareWord "import" callee)
  return .form (.call isOptional) [callee, .group arguments, types]

def tagged (recur : Read) (tag types : Node) : Parse Node := do
  let template ← withoutColon (templateLiteral recur true)
  if tag.isOptionalChain then note .taggedOptional
  return .form .tagged [tag, types, template]

/-- Type arguments behind an expression that is not called, if they can be nothing else. -/
def instantiation? (recur : Read) : Parse (Option Node) := do
  if !(← typed) || !(← atTypeArguments) then return none
  attempt? do
    let types ← typeArguments recur
    if ← atMarks ["<", ">", "+", "-", "(", "`"] then return none
    if (← newlineBefore) || (← atOperator) || !startsExpression (← sight) then return some types
    return none

def instantiated (recur : Read) (node : Node) : Parse Node := do
  match ← instantiation? recur with
  | some types => return .form .instantiation [node, types]
  | none => return node

def calledTypes (recur : Read) : Parse Node := do
  if !(← typed) || !(← atTypeArguments) then return .absent
  let types? ← attempt? do
    let types ← typeArguments recur
    return if ← atMark "(" then some types else none
  return .ofOption types?

structure Chain where
  node : Node
  isOpen : Bool := true

/-- Type arguments behind an expression, with the call or the template that they are for. -/
def typedSubscript? (recur : Read) (canCall : Bool) (object : Node) : Parse (Option Chain) :=
  attempt? do
    let types ← typeArguments recur
    if canCall && (← atMark "(") then return some { node := ← call recur false object types }
    if ← atMark "`" then return some { node := ← tagged recur object types }
    if (← atMark "=") || (← atWord "as") || (← atWord "satisfies") then
      return some { node := .form .instantiation [object, types], isOpen := false }
    return none

def checkSuper (isOptional canCall : Bool) : Parse Unit := do
  if !(← read).allowSuper && !(← typed) then refuse .superPlace
  if isOptional then refuse (if canCall then .superPlace else .superCallPlace)

def indexMember (recur : Read) (object : Node) (isOptional canCall : Bool) : Parse Node := do
  advance
  let index ← withIn (recur .expression)
  expectMark "]"
  if isBareWord "super" object then checkSuper isOptional canCall
  if isBareWord "import" object then refuse .importCallee
  return .form (.index isOptional) [object, index]

def importMember (recur : Read) (name : String) : Parse Node := do
  if name == "meta" then return literally "import.meta"
  if name != "source" then refuseToken "meta"
  let arguments ← arguments recur true
  return .form (.call false) [literally "import.source", .group arguments, .absent]

def dotMember (recur : Read) (object : Node) (isOptional canCall : Bool) : Parse Node := do
  let isPrivate ← atMark "#"
  let name ← if isPrivate then privateName else anyName
  if isBareWord "import" object then
    if isPrivate then refuseToken "meta"
    return ← importMember recur name
  let types? ← if ← atMark "<" then instantiation? recur else pure none
  if isBareWord "super" object then
    checkSuper isOptional canCall
    if isPrivate then refuse .superCallPlace
    return .form (.dot name false) [object]
  let member := Node.form (.dot (if isPrivate then "#" ++ name else name) isOptional) [object]
  match types? with
  | some types => return .form .instantiation [member, types]
  | none => return member

def optionalCall (recur : Read) (callee : Node) : Parse Node := do
  let types ← typeArguments? recur
  let node ← call recur true callee types
  if isBareWord "super" callee || isBareWord "import" callee then refuse .superOptional
  return node

/-- The end of an expression, behind which a template may stand. -/
def lastSubscript? (recur : Read) (canCall : Bool) (object : Node) : Parse (Option Chain) := do
  if isBareWord "super" object then refuse (if canCall then .superPlace else .superCallPlace)
  if isBareWord "import" object then refuse .importCallee
  if ← atMark "<" then
    if let some types ← instantiation? recur then
      return some { node := .form .instantiation [object, types], isOpen := false }
  if ← atMark "`" then return some { node := ← tagged recur object .absent }
  return none

def subscript? (recur : Read) (canCall allowsIndex : Bool) (chain : Chain) :
    Parse (Option Chain) := do
  if !chain.isOpen then return none
  let object := chain.node
  let bare? := ["super", "import"].find? (isBareWord · object)
  if ← typed then
    if (← atMark "!") && !(← newlineBefore) then
      advance
      if let some word := bare? then refuse (.nonNullCallee word)
      return some { node := .form .nonNull [object] }
    if bare?.isNone && (← atMark "<") then
      if let some next ← typedSubscript? recur canCall object then return some next
  let isOptional ← eatMark "?."
  if allowsIndex && (← atMark "[") then
    return some { node := ← indexMember recur object isOptional canCall }
  if isOptional && ((← atMark "(") || ((← typed) && (← atMark "<"))) then
    return some { node := ← optionalCall recur object }
  if canCall && (← atMark "(") then
    return some { node := ← call recur false object .absent }
  let isMember ← if isOptional then pure true else eatMark "."
  if isMember then
    return some { node := ← dotMember recur object isOptional canCall }
  lastSubscript? recur canCall object

def subscripts (recur : Read) (canCall allowsIndex : Bool) (object : Node) : Parse Node := do
  return (← extend (subscript? recur canCall allowsIndex) { node := object }).node

end StyleInline.Script.Grammar
