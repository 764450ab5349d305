import StyleInline.Script.Grammar.Expressions

/-!
# Classes

The readers of classes: of the heritage of a class, and of its members.  A word in front of a
key may be a modifier or the key itself, which what stands behind it decides.
-/

namespace StyleInline.Script.Grammar

structure MemberWords where
  decorators : List Node
  access : List String
  isDeclared : Bool := false
  isStatic : Bool := false
  isAccessor : Bool := false
  isAbstract : Bool := false
  isOverride : Bool := false
  isReadonly : Bool := false
  isOptional : Bool := false

namespace MemberWords

def behindStatic (words : MemberWords) : List String :=
  (if words.isAbstract then ["abstract"] else []) ++
    (if words.isOverride then ["override"] else [])

/-- The words that a method with a private name keeps. -/
def ofPrivateMethod (words : MemberWords) : MemberWords :=
  { decorators := words.decorators, access := [], isStatic := words.isStatic }

def fieldHead (words : MemberWords) (mark : String) : MemberHead :=
  { kind := .field
    isStatic := words.isStatic
    before := (if words.isDeclared then ["declare"] else []) ++ words.access
    after := words.behindStatic ++ (if words.isReadonly then ["readonly"] else [])
    mark }

def methodHead (words : MemberWords) (kind : MemberKind) : MemberHead :=
  { kind
    isStatic := words.isStatic
    before := words.access
    after := words.behindStatic
    mark := if words.isOptional then "?" else "" }

end MemberWords

def atMethod : Parse Bool := do
  return (← atMark "(") || ((← typed) && (← atMark "<"))

/-- A field follows: what stands behind the key of a field is in sight, a line break included if
`allowsBreak`. -/
def atField (allowsBreak : Bool) : Parse Bool := do
  if (← typed) && (← atMarks ["!", ":"]) then return true
  if ← atMarks ["=", "\x7d", ";"] then return true
  if allowsBreak then atStatementEnd else return false

def isConstructorKey : Node → Bool
  | .form (.key name) _ => name == "constructor"
  | .form (.text literal) _ => literal.value == "constructor"
  | _ => false

def memberKey (recur : Read) : Parse Node := do
  if !(← atMark "#") then return ← propertyName recur
  let name ← privateName
  if name == "constructor" then note .constructorPrivateName
  return .form (.privateKey name) []

def field (recur : Read) (words : MemberWords) (key : Node) : Parse Node := do
  if isConstructorKey key then refuse .constructorField
  if key.isPrivateKey then
    if words.isDeclared then note (.privateNameModifier "declare")
    if words.isAbstract then note (.privateNameModifier "abstract")
  let isDefinite ← eatMarkIf ((← typed) && !words.isOptional) "!"
  let type ← typeAnnotation recur
  let value ← inContext (fun context => { context with allowIn := true, inField := true }) do
    let value ← behindMark? "=" (recur .assignment)
    if !(← eatStatementEnd) then note .semicolonExpected
    return value
  let decorators := Node.form .decorators words.decorators
  if words.isAccessor then
    let modifiers :=
      words.access ++ (if words.isStatic then ["static"] else []) ++ words.behindStatic
    return .form (.accessor modifiers) [key, value, type, decorators]
  if key.isPrivateKey then
    if !words.access.isEmpty then note .privateNameAccess
  else if words.isAbstract && !value.isAbsent then note .abstractValue
  let mark :=
    if words.isOptional then "?" else if isDefinite && !type.isAbsent then "!" else ""
  return .member (words.fieldHead mark) key [] value [type, decorators]

/-- A method behind its key, with a reader of its parameters. -/
def method (recur : Read) (words : MemberWords) (kind : MemberKind) (key : Node)
    (parameters : Parse (List Node)) : Parse Node := do
  let (isAsync, isGenerator) :=
    match kind with
    | .method isAsync isGenerator => (isAsync, isGenerator)
    | _ => (false, false)
  match ← inMethod (functionWith recur isAsync isGenerator parameters) with
  | .form _ [parameters, _, body, typeParameters, result] =>
    if key.isPrivateKey then
      if !words.access.isEmpty then note .privateNameAccess
    else if words.isAbstract && !body.isAbsent then note .abstractBody
    let words := if key.isPrivateKey then words.ofPrivateMethod else words
    return .member (words.methodHead kind) key [parameters, .form .decorators words.decorators] body
      [typeParameters, result]
  | function => return function

def plainMethod (recur : Read) (words : MemberWords) (isAsync isGenerator : Bool) (key : Node) :
    Parse Node :=
  method recur words (.method isAsync isGenerator) key (parametersOf recur)

/-- A parameter that is also a field. -/
def isFieldParameter : Node → Bool
  | .form (.parameter modifiers) _ => !modifiers.isEmpty
  | _ => false

def classConstructor (recur : Read) (words : MemberWords) : Parse Node := do
  if ← typed then
    if words.isOverride then note (.constructorModifier "override")
    if words.isAbstract then note .abstractPlace
  if words.isStatic then note (.constructorModifier "static")
  match ← typeParameters? recur false true with
  | .form .typing [.form _ (_ :: _)] => note .constructorTypeParameters
  | _ => pure ()
  expectMark "("
  let parameters ← parameterList recur true
  expectMark ")"
  if !(← typeAnnotation recur).isAbsent then note .constructorType
  let body ← inMethod (functionBody recur false false (parameters.all isSimpleParameter))
  if body.isAbsent && parameters.any isFieldParameter then note .parameterField
  checkDefaults parameters body
  return .form (.classConstructor words.access) [.group parameters, body]

def staticBlock (recur : Read) : Parse Node := do
  let statements ← inContext (fun context => { context with inField := true })
    (bracedStatements recur)
  return .form .staticBlock [.form .body statements]

/-- A word that turned out to be the key of a member, if it did. -/
def wordMember? (recur : Read) (words : MemberWords) (name : String) (allowsBreak : Bool) :
    Parse (Option Node) := do
  let key := Node.form (.key name) []
  let hasMark ← if ← typed then atMark "?" else pure false
  if !hasMark && !(← atMethod) && !(← atField allowsBreak) then return none
  let isOptional ← eatMark "?"
  let words := { words with isOptional }
  if ← atMethod then return some (← plainMethod recur words false false key)
  else return some (← field recur words key)

/-- The modifiers that may be written in any order, each with what is wrong with its place. -/
def looseModifiers (words : MemberWords) : Parse MemberWords :=
  extend (fun words => do
    match ← modifier? ["abstract", "readonly", "override", "static"] true with
    | none => return none
    | some "abstract" =>
      if words.isAbstract then note (.repeatedModifier "abstract")
      else if words.isOverride then note (.lateModifier "abstract" "override")
      else if words.isReadonly then note (.lateModifier "abstract" "readonly")
      return some { words with isAbstract := true }
    | some "override" =>
      if words.isOverride then note (.repeatedModifier "override")
      else if words.isReadonly then note (.lateModifier "override" "readonly")
      else if words.isDeclared then note (.mixedModifiers "override" "declare")
      else if !(← read).hasParent then note .overridePlace
      return some { words with isOverride := true }
    | some "readonly" =>
      if words.isReadonly then note (.repeatedModifier "readonly")
      return some { words with isReadonly := true }
    | some _ =>
      if words.isOverride then note (.lateModifier "static" "override")
      return some { words with isStatic := true }) words

def accessorMember (recur : Read) (words : MemberWords) (isGetter : Bool) : Parse Node := do
  let key ← memberKey recur
  if words.isReadonly then note .readonlyAccessor
  if isConstructorKey key then note .constructorAccessor
  if isGetter then method recur words .getter key (getterParameters recur)
  else method recur words .setter key (setterParameters recur)

def asyncMember (recur : Read) (words : MemberWords) : Parse Node := do
  let isLate := (← modifier? ["override"] false).isSome
  if isLate then note (.lateModifier "override" "async")
  let isGenerator ← eatMark "*"
  let key ← memberKey recur
  if isConstructorKey key then refuse .constructorAsync
  if words.isReadonly then refuse .readonlyMethod
  let hasMark ← eatMarkIf (← typed) "?"
  let words :=
    { words with
      isOverride := words.isOverride || isLate
      isOptional := words.isOptional || hasMark }
  plainMethod recur words true isGenerator key

def generatorMember (recur : Read) (words : MemberWords) : Parse Node := do
  let key ← memberKey recur
  if words.isReadonly then note .readonlyMethod
  if isConstructorKey key then note .constructorGenerator
  plainMethod recur words false true key

def methodMember (recur : Read) (words : MemberWords) (key : Node) : Parse Node := do
  if words.isDeclared then note .declarePlace
  if words.isReadonly then refuse .readonlyMethod
  if isConstructorKey key then classConstructor recur words
  else plainMethod recur words false false key

def keyedMember (recur : Read) (words : MemberWords) : Parse Node := do
  let key ←
    if words.isReadonly && (← atMarks ["!", ":"]) then pure (.form (.key "readonly") [])
    else memberKey recur
  let hasMark ← eatMarkIf (← typed) "?"
  let words := { words with isOptional := hasMark }
  if ← atMethod then return ← methodMember recur words key
  let word := match key with
    | .form (.key name) _ => name
    | _ => ""
  let isAccessor ← do
    if word != "get" && word != "set" then pure false
    else pure (!(← atField false) && !((← newlineBefore) && (← atMark "*")))
  if isAccessor then return ← accessorMember recur words (word == "get")
  if ← atField true then return ← field recur words key
  if word == "async" && !(← newlineBefore) then return ← asyncMember recur words
  refuseToken "* for generator, private key, identifier or async"

def memberRest (recur : Read) (words : MemberWords) : Parse Node := do
  let wasStatic := words.isStatic
  let words ← looseModifiers words
  let words ←
    if !words.isAccessor && (← typed) then do
      pure { words with isAccessor := ← eatWord "accessor" }
    else pure words
  if words.isStatic && (← atMark "\x7b") then
    if words.isDeclared || !words.access.isEmpty then note .modifierPlace
    return ← staticBlock recur
  if (← atWord "static") && (← beyondMark "\x7b") then
    if wasStatic || words.isAbstract || words.isOverride || words.isReadonly then
      note .modifierPlace
    advance
    return ← staticBlock recur
  if (← typed) && !words.isAbstract && !words.isOverride && words.access.isEmpty then
    let modifiers := if words.isReadonly then ["readonly"] else []
    if let some signature ← indexSignature? recur modifiers then return signature
  if ← eatMark "*" then generatorMember recur words else keyedMember recur words

def classMember (recur : Read) : Parse Node := decorated recur fun decorators => do
  let startsDeclared ← eatWordIf (← typed) "declare"
  let access ← accessModifier
  let isLateDeclared ← eatWordIf (!startsDeclared && (← typed)) "declare"
  let isDeclared := startsDeclared || isLateDeclared
  let words : MemberWords := { decorators, access }
  if isDeclared then
    if let some member ← wordMember? recur words "declare" true then return member
  let isStatic ← eatWord "static"
  if isStatic then
    if let some member ← wordMember? recur words "static" false then return member
  let isAccessor ← eatWordIf (← typed) "accessor"
  if isAccessor then
    if let some member ← wordMember? recur { words with isStatic } "accessor" true then
      return member
  memberRest recur { words with isDeclared, isStatic, isAccessor }

def isFullConstructor : Node → Bool
  | .form (.classConstructor _) [_, body] => !body.isAbsent
  | _ => false

def isAbstractMember : Node → Bool
  | .member head _ _ _ _ => head.after.contains "abstract"
  | _ => false

def classMembers (recur : Read) : Parse (List Node) := do
  let found ← extend (fun members => do
    if (← atMark "\x7d") || (← atEnd) then return none
    if ← eatMark ";" then return some (.form .empty [] :: members)
    let member ← classMember recur
    if !(← read).isAmbient && isFullConstructor member && members.any isFullConstructor then
      note .secondConstructor
    return some (member :: members)) []
  return found.reverse

def heritage (recur : Read) : Parse Node := do
  let inner ← subscripts recur false false (.ident .use { name := ← anyName })
  match inner with
  | .form .instantiation [inner, types] => return .form .heritage [inner, types]
  | _ =>
    match inner with
    | .ident _ _ | .form (.dot _ _) _ => if inner.isOptionalChain then note .heritageName
    | _ => note .heritageName
    return .form .heritage [inner, ← typeArguments? recur]

def heritageList (recur : Read) : Parse (List Node) := do
  let atListEnd : Parse Bool := do
    return (← atMark "\x7b") || (← atWord "implements") || (← atWord "extends")
  many do
    if ← atListEnd then return none
    let node ← heritage recur
    if !(← eatMark ",") && !(← atListEnd) then expectMark ","
    return some node

def parentClass (recur : Read) : Parse (Node × Node) := do
  match ← leftHandSide recur with
  | .form .instantiation [inner, types] => return (inner, types)
  | parent => return (parent, ← typeArguments? recur)

/-- The parent of a class, if it has one, with the ones that it may not have. -/
def parentClass? (recur : Read) : Parse (Node × Node) := do
  let parent ←
    if ← eatWord "extends" then do
      let parent ← parentClass recur
      if ← eatMarkIf (← typed) "," then
        if !(← heritageList recur).isEmpty then note .severalParents
      pure parent
    else pure (.absent, .absent)
  if ← eatWord "extends" then
    note .repeatedExtends
    let _ ← parentClass recur
  return parent

def implementedTypes (recur : Read) : Parse (List Node) := do
  if ← eatWordIf (← typed) "implements" then heritageList recur else return []

def typeNames : List String :=
  ["string", "null", "number", "object", "any", "unknown", "boolean", "bigint", "symbol", "void",
   "never", "intrinsic"]

/-- The name of a class; it may be missing unless it is required. -/
def className? (isNamed : Bool) : Parse (Option Ident) := do
  let name? ← if isNamed then pure (some (← bindingName true)) else bindingName? true
  if (← typed) && (name?.map typeNames.contains).getD false then note .className
  return name?.map fun name => { name }

def classRest (recur : Read) (head : ClassHead) (decorators : List Node) (isNamed : Bool) :
    Parse Node := inContext (fun context => { context with inClass := true }) do
  expectWord "class"
  let name ← className? isNamed
  let typeParameters ← typeParameters? recur true true
  let (parent, types) ← parentClass? recur
  let implemented ← implementedTypes recur
  if ← eatWordIf (← typed) "implements" then
    note .repeatedImplements
    let _ ← heritageList recur
  if ← eatWordIf (← typed) "extends" then
    note .lateExtends
    let _ ← parentClass recur
  expectMark "\x7b"
  let inside (context : Context) : Context :=
    { context with allowSuper := true, hasParent := !parent.isAbsent }
  let members ← inContext inside (classMembers recur)
  if !head.isAbstract && members.any isAbstractMember then note .abstractMember
  expectMark "\x7d"
  return .classNode { head with name } decorators members parent
    [typeParameters, types, .typing (.group implemented)]

end StyleInline.Script.Grammar
