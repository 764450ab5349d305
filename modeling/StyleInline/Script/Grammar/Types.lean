import StyleInline.Script.Grammar.Basic

/-!
# Types

The readers of types, type parameters, type arguments and type members.  Inside a type every
angle is a mark of its own, also where a longer mark starts with it.
-/

namespace StyleInline.Script.Grammar

def atMarkStart (start : Char) : Parse Bool := do
  match ← sight with
  | .punct mark => return mark.toList.head? == some start
  | _ => return false

def atOpenAngle : Parse Bool := atMarkStart '<'

def atCloseAngle : Parse Bool := atMarkStart '>'

/-- Leaves the first character of the token in sight behind. -/
def advanceChar : Parse Unit := do resume ((← get).lexed.start.drop 1)

def closeAngle : Parse Unit := do
  if ← atCloseAngle then advanceChar else refuse (.expected ">" (← sight).shown)

def angleList (item : Parse Node) : Parse (List Node) := do
  let nodes ← many do
    if ← atCloseAngle then return none
    let node ← item
    if !(← eatMark ",") && !(← atCloseAngle) then refuse (.expected "," (← sight).shown)
    return some node
  closeAngle
  return nodes

/-- Reads between brackets, where conditional types may be read. -/
def withConditionalTypes {α : Type} (reader : Parse α) : Parse α :=
  inContext (fun context => { context with noConditionalType := false }) reader

def typeArguments (recur : Read) : Parse Node := do
  advanceChar
  let types ← withConditionalTypes (angleList (recur .type))
  return .typing (.form .typeArguments types)

/-- An opening angle is in sight, alone or as the first of two. -/
def atTypeArguments : Parse Bool := atMarks ["<", "<<"]

def typeArguments? (recur : Read) : Parse Node := do
  if (← typed) && (← atMark "<") then typeArguments recur else return .absent

def followsModifier : Token → Bool
  | .word _ | .text _ | .number _ | .bigint _ => true
  | .punct mark => ["[", "\x7b", "*", "...", "#"].contains mark
  | .fault _ | .eof => false

/-- One of these modifiers, if it is in sight with something behind it on its line. -/
def modifier? (allowed : List String) (stopsAtBlock : Bool) : Parse (Option String) := do
  if !(← typed) then return none
  match ← demand with
  | .word word =>
    if !allowed.contains word then return none
    if stopsAtBlock && word == "static" && (← beyondMark "\x7b") then return none
    attempt? do
      advance
      if !(← newlineBefore) && followsModifier (← sight) then return some word else return none
  | _ => return none

/-- Leaves a modifier behind that only the parameters of a constructor have, and tells whether one
was in sight. -/
def eatFieldModifier : Parse Bool := do
  if !(← typed) then return false
  match ← sight with
  | .eof => throw .unexpectedEnd
  | .word word =>
    let words := ["public", "protected", "private", "readonly"]
    let next := (← beyond).token
    if words.contains word && (isWord next || next == .punct "\x7b" || next == .punct "[") then
      let _ ← modifier? words false
      return true
    else return false
  | _ => return false

structure ParameterModifiers where
  isIn : Bool := false
  isOut : Bool := false
  isConst : Bool := false

def ParameterModifiers.words (modifiers : ParameterModifiers) : List String :=
  (if modifiers.isConst then ["const"] else []) ++ (if modifiers.isIn then ["in"] else []) ++
    (if modifiers.isOut then ["out"] else [])

def parameterModifiers (allowVariance allowConst : Bool) : Parse ParameterModifiers :=
  extend (fun modifiers => do
    let allowed := ["public", "private", "protected", "readonly", "abstract", "const", "override",
      "in", "out"]
    match ← modifier? allowed false with
    | none => return none
    | some "const" =>
      if !allowConst then note (.constModifier "const")
      return some { modifiers with isConst := true }
    | some "in" =>
      if !allowVariance then note (.varianceModifier "in")
      else if modifiers.isIn then note (.repeatedModifier "in")
      else if modifiers.isOut then note (.lateModifier "in" "out")
      return some { modifiers with isIn := true }
    | some "out" =>
      if !allowVariance then note (.varianceModifier "out")
      else if modifiers.isOut then note (.repeatedModifier "out")
      return some { modifiers with isOut := true }
    | some other =>
      note (.typeParameterModifier other)
      return some modifiers) {}

def typeParameter (recur : Read) (allowVariance allowConst : Bool) : Parse Node := do
  let modifiers ← parameterModifiers allowVariance allowConst
  let name ← anyName
  let bound ← if ← eatWord "extends" then recur .type else pure .absent
  let fallback ← behindMark? "=" (recur .type)
  return .form (.typeParameter modifiers.words) [.ident .plain { name }, bound, fallback]

def typeParameters (recur : Read) (allowVariance allowConst : Bool) : Parse Node := do
  advanceChar
  let parameters ←
    withConditionalTypes (angleList (typeParameter recur allowVariance allowConst))
  return .typing (.form .typeParameters parameters)

def typeParameters? (recur : Read) (allowVariance allowConst : Bool) : Parse Node := do
  if (← typed) && (← atMark "<") then typeParameters recur allowVariance allowConst
  else return .absent

/-- A name with qualifiers behind dots, which may be reserved words. -/
def entityName (allowReserved : Bool) : Parse Node := do
  extend (fun left => do
    if !(← eatMark ".") then return none
    if !(← atMark "#") && !(← atName) then
      note .identifierExpected
      return none
    let name ← if allowReserved then anyName else identifierName false
    return some (.form (.qualified name) [left]))
    (.ident .plain { name := ← anyName })

/-- A parameter of a signature without its decorators, if a signature may have it. -/
def signatureParameter? : Node → Option Node
  | .form (.parameter _) [_, pattern] => signaturePattern? pattern
  | pattern => signaturePattern? pattern
where
  signaturePattern? (pattern : Node) : Option Node :=
    match pattern with
    | .form .defaulted _ => none
    | pattern => some pattern

def signatureParameters (recur : Read) : Parse (List Node) := do
  match ← recur .parameters with
  | .form _ parameters =>
    match parameters.mapM signatureParameter? with
    | some parameters =>
      expectMark ")"
      return parameters
    | none =>
      refuseToken ("an identifier, [ for an array pattern, \x7b for an object patter or ... " ++
        "for a rest pattern")
  | _ => return []

/-- A statement about `this`, behind that word. -/
def thisPredicate (recur : Read) (isAsserting : Bool) : Parse Node := do
  let subject := Node.ident .plain { name := "this" }
  let type ← if ← eatWord "is" then recur .type else pure .absent
  return .form (.predicateType isAsserting) [subject, type]

/-- What a function returns, behind a mark: a type, or a statement about one of its parameters. -/
def resultType (recur : Read) (mark : String) : Parse Node := do
  if !(← eatMark mark) then refuse (.expected mark (← shownOption))
  let next ← beyond
  let isAsserting := (← atWord "asserts") && isIdentifier next.token && next.token != .word "is"
  if isAsserting then advance
  let after ← beyond
  let hasType := (← atIdentifier) && after.token == .word "is" && !after.newline
  if !isAsserting && !hasType then return ← recur .type
  let subject := Node.ident .plain { name := ← anyName }
  let type ← if hasType then do advance; recur .type else pure .absent
  return .form (.predicateType isAsserting) [subject, type]

def resultAnnotation (recur : Read) : Parse Node := do
  if (← typed) && (← atMark ":") then return .typing (← resultType recur ":")
  else return .absent

def functionType (recur : Read) (words : String) : Parse Node := do
  let typeParameters ← typeParameters? recur false true
  expectMark "("
  let parameters ← signatureParameters recur
  let result ← resultType recur "=>"
  return .form (.functionType words) [.group parameters, typeParameters, result]

/-- The end of a type member: a comma, a semicolon or a line break. -/
def typeMemberEnd : Parse Unit := do
  if !(← eatMark ",") then expectStatementEnd

def typeMemberKey (recur : Read) : Parse (Node × Bool) := do
  if ← eatMark "[" then
    let key ← recur .assignment
    expectMark "]"
    return (key, true)
  match ← demand with
  | .number raw => advance; return (.form (.number raw) [], false)
  | .text literal => advance; return (.form (.text literal) [], false)
  | .punct "#" =>
    let name ← privateName
    note .privateNameInType
    return (.form (.privateKey name) [], false)
  | _ => return (.ident .use { name := ← anyName }, false)

def indexSignature? (recur : Read) (modifiers : List String) : Parse (Option Node) := do
  if !(← atMark "[") then return none
  let isIndex ← ahead do
    advance
    if !(← atIdentifier) then return false
    advance
    atMarks [":", ","]
  if !isIndex then return none
  advance
  let name ← anyName
  if ← eatMark "," then note .indexParameters else expectMark ":"
  let keyType ← recur .type
  expectMark "]"
  let parameter := Node.form (.annotated false) [.ident .bind { name }, .typing keyType]
  let type ← typeAnnotation recur
  typeMemberEnd
  return some (.form (.indexSignature modifiers) [.group [parameter], type])

def bareSignature (recur : Read) (words : String) : Parse Node := do
  let typeParameters ← typeParameters? recur false true
  expectMark "("
  let parameters ← signatureParameters recur
  let type ← resultAnnotation recur
  typeMemberEnd
  return .form (.callSignature words) [.group parameters, type, typeParameters]

def accessorSignature? (recur : Read) : Parse (Option Node) := attempt? do
  let isGetter ← if ← eatWord "get" then pure true else do expectWord "set"; pure false
  let (key, isComputed) ← typeMemberKey recur
  expectMark "("
  if isGetter then
    expectMark ")"
    let type ← typeAnnotation recur
    typeMemberEnd
    return some (.form (.getterSignature isComputed) [key, type])
  else
    let parameters ← signatureParameters recur
    if parameters.isEmpty then refuse .setterMissing
    typeMemberEnd
    return some (.form (.setterSignature isComputed) [key, .group (parameters.take 1)])

def keyedSignature (recur : Read) (isReadonly : Bool) : Parse Node := do
  let (key, isComputed) ← typeMemberKey recur
  let isOptional ← eatMark "?"
  if (← atMark "(") || (← atOpenAngle) then
    if isReadonly then refuse .readonlyMethod
    let typeParameters ← typeParameters? recur false true
    expectMark "("
    let parameters ← signatureParameters recur
    let type ← resultAnnotation recur
    typeMemberEnd
    return .form (.methodSignature isComputed isOptional)
      [key, .group parameters, type, typeParameters]
  else
    let type ← typeAnnotation recur
    typeMemberEnd
    return .form (.propertySignature isReadonly isComputed isOptional) [key, type]

def typeMember (recur : Read) : Parse Node := do
  if (← atMark "(") || (← atOpenAngle) then return ← bareSignature recur ""
  if (← atWord "new") && (← beyondMarks ["(", "<"]) then
    advance
    return ← bareSignature recur "new"
  let isReadonly := (← modifier? ["readonly"] false).isSome
  if let some signature ← indexSignature? recur (if isReadonly then ["readonly"] else []) then
    return signature
  if !isReadonly then
    if let some signature ← accessorSignature? recur then return signature
  keyedSignature recur isReadonly

def typeMembers (recur : Read) : Parse Node := do
  expectMark "\x7b"
  let members ← withConditionalTypes (many do
    if ← atMark "\x7d" then return none
    return some (← typeMember recur))
  expectMark "\x7d"
  return .group members

def atMappedType : Parse Bool := ahead do
  advance
  if ← atMarks ["+", "-"] then
    advance
    return ← atWord "readonly"
  if ← atWord "readonly" then advance
  if !(← eatMark "[") || !(← atIdentifier) then return false
  advance
  atWord "in"

def sign? : Parse String := do
  if ← eatMark "+" then return "+" else if ← eatMark "-" then return "-" else return ""

/-- What a mapped type adds or removes: a word or a mark behind a sign, or without one. -/
def signed (expect : Parse Unit) (eat : Parse Bool) (shown : String) : Parse String := do
  let sign ← sign?
  if !sign.isEmpty then
    expect
    return sign ++ shown
  if ← eat then return shown else return ""

def mappedType (recur : Read) : Parse Node := do
  expectMark "\x7b"
  let readonlyMark ← signed (expectWord "readonly") (eatWord "readonly") "readonly"
  expectMark "["
  let name ← anyName
  if !(← eatWord "in") then refuse (.unexpected (← shownOption) "in")
  let bound ← recur .type
  let newName ← if ← eatWord "as" then recur .type else pure .absent
  expectMark "]"
  let optionalMark ← signed (expectMark "?") (eatMark "?") "?"
  let type ← behindMark? ":" (recur .type)
  expectStatementEnd
  expectMark "\x7d"
  return .form (.mappedType readonlyMark optionalMark)
    [.form (.typeParameter []) [.ident .plain { name }, bound, .absent], newName, type]

def tupleLabel? : Parse (Option (Node × Bool)) := attempt? do
  let isRest ← eatMark "..."
  let label := Node.ident .plain { name := ← anyName }
  let isOptional ← eatMark "?"
  expectMark ":"
  return some (if isRest then .form .restPattern [label, .absent] else label, isOptional)

def tupleElement (recur : Read) : Parse Node := do
  let label? ← tupleLabel?
  let type ←
    if ← eatMark "..." then do pure (Node.form .restType [← recur .type])
    else do
      let type ← recur .type
      if ← eatMark "?" then pure (Node.form .optionalType [type]) else pure type
  match label? with
  | some (label, isOptional) => return .form (.tupleElement isOptional) [label, type]
  | none => return type

/-- What an element of a tuple asks of a value: nothing, a value, or something optional. -/
inductive Demand where
  | anything
  | value
  | optional
  deriving DecidableEq

def tupleDemand : Node → Demand
  | .form (.tupleElement _) [_, type] => typeDemand type
  | type => typeDemand type
where
  typeDemand : Node → Demand
    | .form .optionalType _ => .optional
    | .form .restType _ => .anything
    | _ => .value

def tupleType (recur : Read) : Parse Node := do
  advance
  let elements ← withConditionalTypes (many do
    if ← atMark "]" then return none
    let element ← tupleElement recur
    if !(← eatMark ",") && !(← atMark "]") then refuse (.expected "," (← sight).shown)
    return some element)
  expectMark "]"
  let demands := elements.map tupleDemand
  if (demands.dropWhile (· != .optional)).contains .value then refuse .requiredBehindOptional
  return .form .tupleType elements

def typeWords : List String :=
  ["any", "unknown", "number", "object", "boolean", "bigint", "string", "symbol", "void",
   "undefined", "null", "never", "intrinsic"]

def importType (recur : Read) : Parse Node := do
  advance
  expectMark "("
  let source ← do
    match ← demand with
    | .text literal => advance; pure literal
    | _ =>
      advance
      note .importTypeText
      pure ⟨"", none⟩
  expectMark ")"
  let qualifier ← behindMark? "." (entityName false)
  let arguments ← if ← atOpenAngle then typeArguments recur else pure .absent
  return .form (.importType source) [qualifier, arguments]

def typeReference (recur : Read) : Parse Node := do
  let hasModifier ← eatFieldModifier
  let name ← entityName true
  let arguments ←
    if !(← newlineBefore) && (← atOpenAngle) then typeArguments recur else pure .absent
  if hasModifier then note .parameterField
  return .form .typeReference [name, arguments]

def typeQuery (recur : Read) : Parse Node := do
  advance
  let name ← if ← atWord "import" then importType recur else entityName true
  let arguments ←
    if !(← newlineBefore) && (← atOpenAngle) then typeArguments recur else pure .absent
  return .form .typeQuery [name, arguments]

def wordType (recur : Read) (word : String) : Parse Node := do
  if ["true", "false"].contains word then
    advance
    return .form (.literal word) []
  if word == "this" then
    advance
    if !(← newlineBefore) && (← atWord "is") then return ← thisPredicate recur false
    return .form (.literal word) []
  if word == "typeof" then return ← typeQuery recur
  if word == "import" then return ← importType recur
  if keywords.contains word && !(["void", "null", "break"].contains word) then
    refuseToken typeStart
  if word == "asserts" && (← beyondWord "this") then
    advance
    advance
    return ← thisPredicate recur true
  if typeWords.contains word && !(← beyondMark ".") then
    advance
    return .form (.literal word) []
  typeReference recur
where
  typeStart : String :=
    "an identifier, void, yield, null, await, break, a string literal, a numeric literal, " ++
      "true, false, `, -, import, this, typeof, \x7b, [, ("

def primaryType (recur : Read) : Parse Node := do
  match ← demand with
  | .word word => wordType recur word
  | .number raw => advance; return .form (.literal raw) []
  | .bigint raw => advance; return .form (.literal raw) []
  | .text literal => advance; return .form (.text literal) []
  | .punct "`" =>
    let (texts, types) ← templateParts false (recur .type)
    return .form (.template texts) types
  | .punct "-" =>
    advance
    match ← demand with
    | .number raw => advance; return .form (.literal ("-" ++ raw)) []
    | .bigint raw => advance; return .form (.literal ("-" ++ raw)) []
    | _ => refuseToken "numeric literal or bigint literal"
  | .punct "(" =>
    advance
    let type ← withConditionalTypes (recur .type)
    expectMark ")"
    return .form .paren [type]
  | .punct "[" => tupleType recur
  | .punct "\x7b" =>
    if ← atMappedType then withConditionalTypes (mappedType recur)
    else
      match ← typeMembers recur with
      | .form .group members => return .form .typeLiteral members
      | _ => return .absent
  | _ => refuseToken wordType.typeStart

def postfixType (recur : Read) : Parse Node := do
  extend (fun type => do
    if (← newlineBefore) || !(← atMark "[") then return none
    advance
    if ← eatMark "]" then return some (.form .arrayType [type])
    let index ← withConditionalTypes (recur .type)
    expectMark "]"
    return some (.form .indexedType [type, index])) (← primaryType recur)

def inferType (recur : Read) : Parse Node := do
  advance
  let name ← anyName
  let bound? ← attempt? do
    expectWord "extends"
    let bound ← recur .plainType
    if (← read).noConditionalType || !(← atMark "?") then return some bound else return none
  return .form .inferType
    [.form (.typeParameter []) [.ident .plain { name }, .ofOption bound?, .absent]]

/-- A type with operators in front of it; `fuel` bounds them. -/
def operatorType (recur : Read) : Nat → Parse Node
  | 0 => throw .budget
  | fuel + 1 => do
    match ← sight with
    | .word word =>
      if ["keyof", "unique", "readonly"].contains word then
        advance
        return .form (.typeOperator word) [← operatorType recur fuel]
      else if word == "infer" then inferType recur
      else postfixType recur
    | _ => postfixType recur

def joinedType (operator : String) (operand : Parse Node) : Parse Node := do
  let _ ← eatMark operator
  let first ← operand
  let more ← many do
    if ← eatMark operator then return some (← operand) else return none
  if more.isEmpty then return first
  return .form (.joinedType operator) (first :: more)

/-- A binding is in sight that can be the first parameter of a function type. -/
def skipsParameter (recur : Read) : Parse Bool := do
  let _ ← eatFieldModifier
  if ← atName then
    advance
    return true
  if (← atMark "\x7b") || (← atMark "[") then succeeds (recur .pattern) else return false

def atFunctionType (recur : Read) : Parse Bool := do
  if ← atOpenAngle then return true
  if !(← atMark "(") then return false
  ahead do
    advance
    if ← atMarks [")", "..."] then return true
    if !(← skipsParameter recur) then return false
    if ← atMarks [":", ",", "?", "="] then return true
    if ← eatMark ")" then atMark "=>" else return false

def plainType (recur : Read) : Parse Node := do
  if ← atFunctionType recur then return ← functionType recur ""
  if ← eatWord "new" then return ← functionType recur "new"
  if (← atWord "abstract") && (← beyondWord "new") then
    advance
    advance
    return ← functionType recur "abstract new"
  joinedType "|" (joinedType "&" (do operatorType recur ((← charsLeft) + 1)))

def type (recur : Read) : Parse Node := do
  let checked ← plainType recur
  if (← newlineBefore) || (← read).noConditionalType || !(← atWord "extends") then
    return checked
  advance
  let bound ← inContext (fun c => { c with noConditionalType := true }) (recur .plainType)
  expectMark "?"
  let positive ← withConditionalTypes (recur .type)
  expectMark ":"
  let negative ← withConditionalTypes (recur .type)
  return .form .conditionalType [checked, bound, positive, negative]

end StyleInline.Script.Grammar
