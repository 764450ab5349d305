import StyleInline.Script.Grammar.Variables

/-!
# Declarations

The readers of functions and classes as declarations, and of what only the language with types
declares: interfaces, named types, enumerations, namespaces, and things that exist elsewhere.
-/

namespace StyleInline.Script.Grammar

def functionDeclaration (recur : Read) (isAsync isDeclared isNamed : Bool) : Parse Node := do
  expectWord "function"
  let isGenerator ← eatMark "*"
  let name? ← if isNamed then pure (some (← bindingName false)) else bindingName? false
  let function ← outsideClass (recur (.function isAsync isGenerator))
  return .form (.functionDeclaration isDeclared)
    [.ofOption (name?.map fun name => .ident .bind { name }), function]

def atAsyncFunction : Parse Bool := atWords "async" "function"

def asyncFunction (recur : Read) (isNamed : Bool) : Parse Node := do
  advance
  functionDeclaration recur true false isNamed

def classDeclaration (recur : Read) (decorators : List Node)
    (isDeclared isAbstract isNamed : Bool) : Parse Node :=
  let head : ClassHead := { isDeclaration := true, isDeclared, isAbstract, name := none }
  recur (.classRest head decorators isNamed)

/-- What an interface extends; a second list of them is skipped. -/
def extendedTypes (recur : Read) : Parse (List Node) := do
  let types ← if ← eatWord "extends" then heritageList recur else pure []
  if ← atWord "extends" then
    note .repeatedExtends
    let _ ← many do
      if (← atMark "\x7b") || (← atEnd) then return none
      advance
      return some ()
  return types

def interfaceRest (recur : Read) (isDeclared : Bool) : Parse Node := do
  let name ← anyName
  if typeNames.contains name then note .interfaceName
  let typeParameters ← typeParameters? recur true false
  let extended ← extendedTypes recur
  let members ← recur .typeMembers
  return .form (.interfaceDeclaration isDeclared)
    [.ident .plain { name }, typeParameters, .group extended, members]

def typeAliasRest (recur : Read) (isDeclared : Bool) : Parse Node := do
  let name ← anyName
  let typeParameters ← typeParameters? recur true false
  if !(← eatMark "=") then refuse (.unexpected (← shownOption) "=")
  let type ← recur .type
  expectStatementEnd
  return .form (.typeAlias isDeclared) [.ident .plain { name }, typeParameters, type]

def enumMemberName (recur : Read) : Parse Node := do
  match ← demand with
  | .text literal => advance; return .form (.text literal) []
  | .number raw =>
    advance
    note .numericEnumMember
    return .form (.number raw) []
  | .punct "[" =>
    advance
    let _ ← recur .expression
    note .computedEnumMember
    expectMark "]"
    return .absent
  | _ => return .ident .bind { name := ← anyName }

/-- One member of an enumeration; a token that nothing in it can be is taken for a comma. -/
def enumMember (recur : Read) : Parse Node := do
  let name ← enumMemberName recur
  if ← eatMark "=" then return .form .enumMember [name, ← recur .assignment]
  if !(← atMarks [",", "\x7d"]) then
    note .semicolonExpected
    modify fun cursor => { cursor with lexed := { cursor.lexed with token := .punct "," } }
  return .form .enumMember [name, .absent]

def enumRest (recur : Read) (isDeclared isConst : Bool) : Parse Node := do
  let name ← anyName
  expectMark "\x7b"
  let members ← many do
    if ← atMark "\x7d" then return none
    let member ← enumMember recur
    if !(← eatMark ",") && !(← atMark "\x7d") then
      let token ← sight
      note (.expected "," (if token == .eof then "EOF" else token.shown))
    return some member
  expectMark "\x7d"
  return .form (.enumDeclaration isDeclared isConst)
    [.ident .bind { name }, .form .enumMembers members]

def namespaceBody (recur : Read) : Parse Node := do
  expectMark "\x7b"
  return .items (← untilBrace (recur .item))

/-- A namespace behind its keyword: its name, the names behind dots, and its items. -/
def namespaceRest (recur : Read) (isDeclared : Bool) : Parse Node := do
  let name ← anyName
  let inner ← many do
    if ← eatMark "." then return some (← anyName) else return none
  let body ← namespaceBody recur
  let nest (name : String) (body : Node) : Node :=
    .form (.namespaceDeclaration "." false) [.ident .bind { name }, body]
  return .form (.namespaceDeclaration "namespace" isDeclared)
    [.ident .bind { name }, inner.foldr nest body]

/-- A module that is declared under a string, which is in sight. -/
def namedModule (recur : Read) (isDeclared : Bool) : Parse Node := do
  let literal ← stringLiteral "global or a string literal"
  let body ←
    if ← atMark "\x7b" then namespaceBody recur
    else do
      expectStatementEnd
      pure .absent
  return .form (.namespaceDeclaration "module" isDeclared) [.form (.text literal) [], body]

def globalRest (recur : Read) (isDeclared : Bool) : Parse Node := do
  let body ←
    if ← atMark "\x7b" then namespaceBody recur
    else do
      expectStatementEnd
      pure .absent
  return .form (.namespaceDeclaration "global" isDeclared) [.absent, body]

/--
A declaration that starts with a word that is no keyword, if it is one.  The word is in sight if
`isAhead`, and then it must start a declaration; or it stands behind.
-/
def typedDeclaration? (recur : Read) (decorators : List Node) (isDeclared isAhead : Bool)
    (word : String) : Parse (Option Node) := do
  let pass : Parse Unit := if isAhead then advance else pure ()
  let namesType : Parse Bool := do return isAhead || (← atIdentifier)
  match word with
  | "abstract" =>
    if !isAhead && (!(← atWord "class") || (← newlineBefore)) then return none
    pass
    return some (← classDeclaration recur decorators isDeclared true true)
  | "enum" =>
    if !(← namesType) then return none
    pass
    return some (← enumRest recur isDeclared false)
  | "interface" =>
    if !(← namesType) then return none
    pass
    return some (← interfaceRest recur isDeclared)
  | "module" =>
    if ← newlineBefore then return none
    pass
    match ← sight with
    | .text _ => return some (← namedModule recur isDeclared)
    | _ =>
      if !(← namesType) then return none
      return some (← namespaceRest recur isDeclared)
  | "namespace" =>
    if !(← namesType) then return none
    pass
    return some (← namespaceRest recur isDeclared)
  | "type" =>
    if !isAhead && ((← newlineBefore) || !(← atIdentifier)) then return none
    pass
    return some (← typeAliasRest recur isDeclared)
  | _ => return none

/-- A declaration of something that exists elsewhere, behind the word for it, if there is one. -/
def ambientDeclaration? (recur : Read) (decorators : List Node) : Parse (Option Node) := do
  if (← read).isAmbient then note .nestedDeclare
  inContext (fun context => { context with isAmbient := true }) do
    match ← sight with
    | .word "function" => return some (← functionDeclaration recur false true true)
    | .word "class" => return some (← classDeclaration recur decorators true false true)
    | .word "const" =>
      if ← beyondWord "enum" then
        advance
        advance
        return some (← enumRest recur true true)
      return some (← variableDeclaration recur .const true)
    | .word "var" => return some (← variableDeclaration recur .var true)
    | .word "let" => return some (← variableDeclaration recur .let_ true)
    | .word "global" =>
      advance
      return some (← globalRest recur true)
    | .word word => typedDeclaration? recur decorators true true word
    | _ => return none

/-- A declaration that starts with a name, behind that name, if it is one. -/
def namedDeclaration? (recur : Read) (decorators : List Node) (name : String) :
    Parse (Option Node) := do
  if !(← typed) then return none
  if name == "declare" then return ← ambientDeclaration? recur decorators
  if name == "global" then
    if ← atMark "\x7b" then return some (← globalRest recur false) else return none
  typedDeclaration? recur decorators false false name

end StyleInline.Script.Grammar
