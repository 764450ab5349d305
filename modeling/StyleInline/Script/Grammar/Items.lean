import StyleInline.Script.Grammar.Statements
import StyleInline.Text.Blank

/-!
# Imports and exports

The readers of the items that only a module may hold.
-/

namespace StyleInline.Script.Grammar

def moduleName : Parse ModuleName := do
  match ← demand with
  | .text literal => advance; return .text literal
  | .word name => advance; return .ident { name }
  | _ => refuseToken "identifier or string"

/-- The attributes of an import, if there are some; only the language with types has them. -/
def attributes? (recur : Read) : Parse Node := do
  if !(← typed) || (← newlineBefore) then return .absent
  if (← eatWord "assert") || (← eatWord "with") then objectLiteral recur else return .absent

/-- A comma stands in front of the last character of a text, blanks apart. -/
def endsBehindComma (text : List Char) : Bool :=
  ((text.reverse.drop 1).dropWhile Text.isBlank).head? == some ','

/-- The text from a place up to the end of the token that was left behind last ends behind a comma:
with a comma in front of the brace of a list that nothing follows, above all. -/
def isTrailedFrom (start : List Char) : Parse Bool := do
  return endsBehindComma (Lexer.consumed start (← get).lexed.before).toList

def specifiers {α : Type} (item : Parse α) : Parse (List α) := do
  let found ← many do
    if (← atMark "\x7d") || (← atEnd) then return none
    let next ← item
    if !(← atMark "\x7d") then expectMark ","
    return some next
  expectMark "\x7d"
  return found

def moduleSource : Parse TextLiteral := do
  expectWord "from"
  let _ ← demand
  stringLiteral "a string literal"

def importedName : Parse Ident := do
  let inside (context : Context) : Context :=
    { context with inAsync := false, inGenerator := false }
  return { name := ← inContext inside (bindingName false) }

/-- What an import of one name, behind the word `type`, turns out to be. -/
def typeSpecifier (typeOnly : Bool) : Parse ImportSpecifier := do
  let noteType : Parse Unit := if typeOnly then note .typeInTypeImport else pure ()
  let second ← anyName
  if second != "as" then
    noteType
    if ← eatWord "as" then
      return .named { name := ← bindingName false } (some (.ident { name := second })) true
    return .named { name := second } none true
  if !(← atName) then
    noteType
    return .named { name := "as" } none true
  let third ← bindingName false
  if third == "as" && (← atName) then
    let binding ← bindingName false
    noteType
    return .named { name := binding } (some (.ident { name := "as" })) true
  return .named { name := third } (some (.ident { name := "type" })) false

def importSpecifier (typeOnly : Bool) : Parse ImportSpecifier := do
  match ← moduleName with
  | .ident subject =>
    if (← typed) && subject.name == "type" && (← atName) then return ← typeSpecifier typeOnly
    if ← eatWord "as" then
      return .named { name := ← bindingName false } (some (.ident subject)) false
    return .named subject none false
  | .text literal =>
    if ← eatWord "as" then
      return .named { name := ← bindingName false } (some (.text literal)) false
    refuse (.importedText literal.value)

def importedModule : Parse Node := do
  if (← atWord "require") && (← beyondMark "(") then
    advance
    advance
    let _ ← demand
    let source ← stringLiteral "a string literal"
    expectMark ")"
    return .form (.call false) [literally "require", .group [.form (.text source) []], .absent]
  entityName false

def importEquals (isExported typeOnly : Bool) (name : String) : Parse Node := do
  expectMark "="
  let source ← importedModule
  expectStatementEnd
  return .form (.importEquals isExported typeOnly) [.ident .bind { name }, source]

structure ImportFront where
  typeOnly : Bool := false
  phase : Phase := .evaluation
  default : Option Ident := none

/-- The word `from` in sight is a name and no keyword. -/
def atNameNotFrom : Parse Bool := do
  if !(← atIdentifier) then return false
  return !(← atWord "from") || (← beyondWord "from") || (← beyondMark "=")

def typeFront (word : Ident) : Parse ImportFront := do
  if ← atMarks ["*", "\x7b"] then return { typeOnly := true }
  if ← atNameNotFrom then return { typeOnly := true, default := some (← importedName) }
  return { default := some word }

/-- The front of an import that says how far the module is taken, behind that word. -/
def phaseFront (word : Ident) (phase : Phase) : Parse ImportFront := do
  if ← atMark "*" then return { phase }
  if (← atIdentifier) && (!(← atWord "from") || (← beyondWord "from")) then
    return { phase, default := some (← importedName) }
  return { default := some word }

def importFront : Parse ImportFront := do
  if !(← atIdentifier) then return {}
  let word ← importedName
  match word.name with
  | "type" => if ← typed then typeFront word else return { default := some word }
  | "source" => phaseFront word .source
  | "defer" => phaseFront word .deferred
  | _ => return { default := some word }

def importedNames (typeOnly : Bool) : Parse (List ImportSpecifier) := do
  if ← eatMark "*" then
    expectWord "as"
    return [.everything (← importedName)]
  if ← eatMark "\x7b" then specifiers (importSpecifier typeOnly) else return []

def importItem (recur : Read) : Parse Node := do
  let start := (← get).lexed.start
  advance
  if let .text source ← sight then
    advance
    let attributes ← attributes? recur
    expectStatementEnd
    return .importDecl { typeOnly := false, specifiers := [], source } attributes
  let front ← importFront
  if let some name := front.default then
    if (← typed) && (← atMark "=") then return ← importEquals false front.typeOnly name.name
    if !(← atWord "from") then expectMark ","
  let named ← importedNames front.typeOnly
  let source ← moduleSource
  let attributes ← attributes? recur
  expectStatementEnd
  let leading := (front.default.map ImportSpecifier.default).toList
  let isTrailed ← isTrailedFrom start
  return .importDecl
    { phase := front.phase, typeOnly := front.typeOnly, specifiers := leading ++ named, source,
      isTrailed } attributes

def typeExportSpecifier (typeOnly : Bool) : Parse ExportSpecifier := do
  let noteType : Parse Unit := if typeOnly then note .typeInTypeExport else pure ()
  let word : ModuleName := .ident { name := "type" }
  let second : ModuleName := .ident { name := ← anyName }
  if second != .ident { name := "as" } then
    noteType
    if ← eatWord "as" then return .named second (some (← moduleName)) true
    return .named second none true
  if !(← atName) then
    noteType
    return .named second none true
  let third ← anyName
  if third == "as" && (← atName) then
    let exported ← anyName
    noteType
    return .named second (some (.ident { name := exported })) true
  return .named word (some (.ident { name := third })) false

def exportSpecifier (typeOnly : Bool) : Parse ExportSpecifier := do
  let subject ← moduleName
  if (← typed) && subject == .ident { name := "type" } && (← atName) then
    return ← typeExportSpecifier typeOnly
  if ← eatWord "as" then return .named subject (some (← moduleName)) false
  return .named subject none false

def exportSource (recur : Read) : Parse (TextLiteral × Node) := do
  let source ← moduleSource
  let attributes ← attributes? recur
  let _ ← eatStatementEnd
  return (source, attributes)

def checkExported : ExportSpecifier → Parse Unit
  | .named (.ident id) _ _ => do
    if (keywords ++ ["enum", "package"]).contains id.name then note (.exportedWord id.name)
  | .named (.text _) _ _ => note .exportedText
  | .everything _ => pure ()

def exportList (recur : Read) (typeOnly : Bool) : Parse Node := do
  let start := (← get).lexed.start
  expectMark "\x7b"
  let specifiers ← specifiers (exportSpecifier typeOnly)
  if ← atWord "from" then
    let (source, attributes) ← exportSource recur
    let isTrailed ← isTrailedFrom start
    return .exportNames { typeOnly, specifiers, source := some source, isTrailed } attributes
  for specifier in specifiers do checkExported specifier
  let _ ← eatStatementEnd
  let isTrailed ← isTrailedFrom start
  return .exportNames { typeOnly, specifiers, source := none, isTrailed } .absent

def exportEverything (recur : Read) (typeOnly : Bool) : Parse Node := do
  if ← eatWord "as" then
    let name ← moduleName
    let (source, attributes) ← exportSource recur
    return .exportNames { typeOnly, specifiers := [.everything name], source := some source }
      attributes
  let (source, attributes) ← exportSource recur
  return .form (.exportAll typeOnly source) [attributes]

/-- Decorators behind the words of an export, which may stand in one place only. -/
def exportDecorators (recur : Read) (before : List Node) : Parse (List Node) := do
  if !(← atMark "@") then return before
  match ← recur .decorators with
  | .form .decorators decorators =>
    if !before.isEmpty then refuse .decoratorsAroundExport
    return decorators
  | _ => return before

/-- A declaration that only the language with types exports by default, if there is one. -/
def typedDefault? (recur : Read) (decorators : List Node) : Parse (Option Node) := do
  if !(← typed) then return none
  if ← atWords "abstract" "class" then
    advance
    return some (← classDeclaration recur decorators false true false)
  if (← atWord "abstract") && (← beyondWord "interface") then
    note .abstractPlace
    advance
  if ← eatWord "interface" then return some (← interfaceRest recur false) else return none

def exportDefault (recur : Read) (before : List Node) : Parse Node := do
  let decorators ← exportDecorators recur before
  let declared (node : Node) : Node := .form .exportDefaultDeclaration [node]
  if let some node ← typedDefault? recur decorators then return declared node
  if ← atWord "class" then
    return declared (← classDeclaration recur decorators false false false)
  if ← atAsyncFunction then return declared (← asyncFunction recur false)
  if ← atWord "function" then
    return declared (← functionDeclaration recur false false false)
  let value ← withIn (recur .assignment)
  expectStatementEnd
  return .form .exportDefault [value]

def typedExport? (recur : Read) (decorators : List Node) : Parse (Option Node) := do
  if !(← typed) then return none
  let declared (node : Node) : Node := .form .exportDeclaration [node]
  if ← eatWord "declare" then
    if let some node ← ambientDeclaration? recur decorators then return some (declared node)
  if let .word word ← sight then
    let node? ← attempt? (typedDeclaration? recur decorators false true word)
    if let some node := node? then return some (declared node)
  if ← eatWord "import" then
    let typeOnly := (← atWord "type") && isIdentifier (← beyond).token
    if typeOnly then advance
    return some (← importEquals true typeOnly (← anyName))
  if ← eatMark "=" then
    let value ← recur .expression
    expectStatementEnd
    return some (.form .exportAssign [value])
  if ← eatWord "as" then
    expectWord "namespace"
    let name ← identifierName false
    expectStatementEnd
    return some (.form .exportNamespace [.ident .plain { name }])
  return none

def exportedDeclaration? (recur : Read) (before : List Node) : Parse (Option Node) := do
  let decorators ← exportDecorators recur before
  if ← atWord "class" then return some (← classDeclaration recur decorators false false true)
  if ← atAsyncFunction then return some (← asyncFunction recur true)
  if ← atWord "function" then return some (← functionDeclaration recur false false true)
  if (← typed) && (← atWord "const") && (← beyondWord "enum") then
    advance
    advance
    return some (← enumRest recur false true)
  match ← variableKind? with
  | some kind => return some (← variableDeclaration recur kind false)
  | none => return none

def exportItem (recur : Read) (before : List Node) : Parse Node := do
  advance
  let _ ← demand
  if let some node ← typedExport? recur before then return node
  let typeOnly ← eatWordIf (← typed) "type"
  if !typeOnly then
    if ← eatWord "default" then return ← exportDefault recur before
    if let some node ← exportedDeclaration? recur before then
      return .form .exportDeclaration [node]
  if ← eatMark "*" then exportEverything recur typeOnly else exportList recur typeOnly

def item (recur : Read) : Parse Node := withoutColon do
  decorated recur fun decorators => do
    if ← atWord "import" then
      if ← beyondMarks ["(", "."] then importStatement recur else importItem recur
    else if ← atWord "export" then exportItem recur decorators
    else statementContent recur true decorators

end StyleInline.Script.Grammar
