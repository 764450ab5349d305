import StyleInline.Script.Quoted
import StyleInline.Text.Layout

/-!
# Printing

The text of a module.  Literals keep their spelling, parentheses stay as they are, and each
statement stands on a line of its own.  Every shape has its layout, given the layouts of its
parts; the tree is walked in one place only.
-/

namespace StyleInline.Script

open Text (Layout)
open Text.Layout (joined concat line indented nothing text)

namespace Printer

/-- A part of a construct with its layout and with the layouts of its own parts. -/
structure Piece where
  node : Node
  layout : Layout
  members : List Layout

namespace Piece

def isAbsent (piece : Piece) : Bool := piece.node.isAbsent

def behind (before : Layout) (piece : Piece) : Layout :=
  if piece.isAbsent then nothing else before ++ piece.layout

def inFrontOf (after : Layout) (piece : Piece) : Layout :=
  if piece.isAbsent then nothing else piece.layout ++ after

/-- A variable declaration where it is a statement ends with a semicolon. -/
def closed (piece : Piece) : Layout :=
  match piece.node with
  | .form (.variableDeclaration _ _) _ => piece.layout ++ text ";"
  | _ => piece.layout

/-- A statement, with the end of its line; a block ends none. -/
def statement (piece : Piece) : Layout :=
  match piece.node with
  | .form .block _ => piece.layout
  | _ => piece.closed ++ line

def isBlock (piece : Piece) : Bool :=
  match piece.node with
  | .form .block _ => true
  | _ => false

end Piece

def words (list : List String) : Layout := concat (list.map fun word => text (word ++ " "))

def word (applies : Bool) (content : String) : Layout :=
  if applies then text (content ++ " ") else nothing

def mark (applies : Bool) (content : String) : Layout :=
  if applies then text content else nothing

def braced (lines : List Layout) : Layout :=
  text "\x7b" ++ line ++ indented (concat (lines.map (· ++ line))) ++ text "\x7d"

def block (pieces : List Piece) : Layout :=
  if pieces.isEmpty then text "\x7b\x7d" else braced (pieces.map Piece.statement)

def listed (opening closing : String) (items : List Layout) (tail : Layout) : Layout :=
  if items.isEmpty then text (opening ++ closing)
  else
    text opening ++ line ++ indented (joined (text "," ++ line) items ++ tail) ++ line ++
      text closing

/-- The comma behind a hole that ends a list. -/
def holeTail (pieces : List Piece) : Layout :=
  match pieces.getLast? with
  | some { node := .form .hole _, .. } => text ", "
  | _ => nothing

def literal (string : TextLiteral) : Layout := text (string.raw.getD (Quoted.quoted string.value))

def moduleName : ModuleName → Layout
  | .ident id => text id.name
  | .text string => literal string

def attributes (piece : Piece) : Layout := piece.behind (text " with ")

def nameList (isTrailed : Bool) (names : List Layout) : Layout :=
  text "\x7b " ++ joined (text ", ") names ++ mark isTrailed ", " ++ text " \x7d"

def importSpecifier : ImportSpecifier → Layout
  | .default binding => text binding.name
  | .everything binding => text "* as " ++ text binding.name
  | .named binding none typeOnly => word typeOnly "type" ++ text binding.name
  | .named binding (some imported) typeOnly =>
    word typeOnly "type" ++ moduleName imported ++ text " as " ++ text binding.name

def isListed : ImportSpecifier → Bool
  | .named _ _ _ => true
  | _ => false

def importLayout (declaration : Import) (pairs : Piece) : Layout :=
  let leading := (declaration.specifiers.filter (!isListed ·)).map importSpecifier
  let named := (declaration.specifiers.filter isListed).map importSpecifier
  let groups := leading ++
    (if named.isEmpty then [] else [nameList declaration.isTrailed named])
  let phase := declaration.phase.word?.toList
  text "import " ++ word declaration.typeOnly "type" ++ words phase ++ joined (text ", ") groups ++
    (if groups.isEmpty then nothing else text " from ") ++
    literal declaration.source ++ attributes pairs ++ text ";"

def exportSpecifier : ExportSpecifier → Layout
  | .named subject none typeOnly => word typeOnly "type" ++ moduleName subject
  | .named subject (some exported) typeOnly =>
    word typeOnly "type" ++ moduleName subject ++ text " as " ++ moduleName exported
  | .everything exported => text "* as " ++ moduleName exported

def exportSource (source : Option TextLiteral) (pairs : Piece) : Layout :=
  match source with
  | none => nothing
  | some source => text " from " ++ literal source ++ attributes pairs

def exportLayout (declaration : Export) (pairs : Piece) : Layout :=
  let list :=
    match declaration.specifiers with
    | [] => text "\x7b \x7d"
    | [.everything exported] => exportSpecifier (.everything exported)
    | specifiers => nameList declaration.isTrailed (specifiers.map exportSpecifier)
  text "export " ++ word declaration.typeOnly "type" ++ list ++
    exportSource declaration.source pairs ++ text ";"

def between (opening closing : String) (piece : Piece) : Layout :=
  if piece.isAbsent then nothing else text opening ++ piece.layout ++ text closing

def signature (typeParameters parameters result : Piece) : Layout :=
  typeParameters.layout ++ text "(" ++ parameters.layout ++ text ")" ++ result.behind (text ": ")

def functionWords (function : Piece) : Layout :=
  match function.node with
  | .form (.function isAsync isGenerator) _ =>
    word isAsync "async" ++ text "function" ++ mark isGenerator "*"
  | _ => text "function"

def namedFunction (name function : Piece) : Layout :=
  functionWords function ++ name.behind (text " ") ++ function.layout

def methodWords (isAsync isGenerator : Bool) : Layout :=
  word isAsync "async" ++ mark isGenerator "*"

/-- A number that needs a second dot in front of a member. -/
def isBareNumber : Node → Bool
  | .form (.number raw) _ => raw.toList.all fun c => c.isDigit || c == '_'
  | _ => false

/-- A sign operator in front of an operand that starts with the same sign. -/
def needsBlank (operator : String) : Node → Bool
  | .form (.unary inner) _ => inner == operator && (operator == "+" || operator == "-")
  | .form (.update inner true) _ =>
    (operator == "+" && inner == "++") || (operator == "-" && inner == "--")
  | _ => false

def normalLineEnds : List Char → List Char
  | '\r' :: '\n' :: rest => '\n' :: normalLineEnds rest
  | '\r' :: rest => '\n' :: normalLineEnds rest
  | c :: rest => c :: normalLineEnds rest
  | [] => []

/-- A text with a line feed at each end of a line, as a template without a tag has it. -/
def normalText (content : String) : String := String.ofList (normalLineEnds content.toList)

def templateParts : List String → List Layout → Layout
  | [], _ => nothing
  | [last], _ => text last
  | first :: texts, [] => text first ++ templateParts texts []
  | first :: texts, layout :: layouts =>
    text first ++ text "$\x7b" ++ layout ++ text "\x7d" ++ templateParts texts layouts

def template (texts : List String) (layouts : List Layout) : Layout :=
  text "`" ++ templateParts texts layouts ++ text "`"

def taggedTemplate (piece : Piece) : Layout :=
  match piece.node with
  | .form (.template raws) _ => template raws piece.members
  | _ => piece.layout

def typeMembers (members : List Layout) : Layout := braced (members.map (· ++ text ";"))

def signatureKey (isComputed : Bool) (key : Piece) : Layout :=
  if isComputed then text "[" ++ key.layout ++ text "]" else key.layout

def expressionLayout (shape : Shape) (parts : List Piece) : Layout :=
  match shape, parts with
  | .absent, _ | .hole, _ => nothing
  | .decorators, pieces => concat (pieces.map fun piece => text "@" ++ piece.layout ++ line)
  | .typing, [type] => type.layout
  | .literal raw, _ => text raw
  | .number raw, _ => text raw
  | .text string, _ => literal string
  | .key name, _ => text name
  | .privateKey name, _ => text ("#" ++ name)
  | .computed, [inner] => text "[" ++ inner.layout ++ text "]"
  | .array _, pieces => listed "[" "]" (pieces.map Piece.layout) (holeTail pieces)
  | .object _, pieces => listed "\x7b" "\x7d" (pieces.map Piece.layout) nothing
  | .pair, [key, value] => key.layout ++ text ": " ++ value.layout
  | .objectMethod, [key, function] =>
    (match function.node with
      | .form (.function isAsync isGenerator) _ => methodWords isAsync isGenerator
      | _ => nothing) ++ key.layout ++ text " " ++ function.layout
  | .objectGetter, [key, _, body] =>
    text "get " ++ key.layout ++ text " () " ++ body.layout
  | .objectSetter, [key, self, parameter, body] =>
    text "set " ++ key.layout ++ text " (" ++ self.inFrontOf (text ", ") ++ parameter.layout ++
      text ")" ++ body.layout
  | .patternDefault, [target, value] => target.layout ++ text "=" ++ value.layout
  | .spread, [inner] => text "..." ++ inner.layout
  | .function _ _, [parameters, _, body, typeParameters, result] =>
    signature typeParameters parameters result ++
      (if body.isAbsent then text ";" else text " " ++ body.layout)
  | .functionExpression, [name, function] => namedFunction name function
  | .functionDeclaration isDeclared, [name, function] =>
    word isDeclared "declare" ++ namedFunction name function
  | .arrow isAsync, [parameters, body, typeParameters, result] =>
    word isAsync "async" ++ signature typeParameters parameters result ++
      (if result.isAbsent then text "=>" else text " =>") ++
      (match body.node with
        | .form .body _ => body.layout
        | _ => indented body.layout)
  | .unary operator, [operand] =>
    text operator ++
      mark (operator.length > 1 || needsBlank operator operand.node) " " ++ operand.layout
  | .update operator isLeading, [operand] =>
    if isLeading then text operator ++ operand.layout else operand.layout ++ text operator
  | .binary operator, [left, right] => left.layout ++ text (" " ++ operator ++ " ") ++ right.layout
  | .assign operator, [left, right] => left.layout ++ text (" " ++ operator ++ " ") ++ right.layout
  | .conditional, [test, positive, negative] =>
    test.layout ++ text " ? " ++ positive.layout ++ text " : " ++ negative.layout
  | .call isOptional, [callee, arguments, types] =>
    callee.layout ++ mark isOptional "?." ++
      (if isOptional || callee.node.isOptionalChain then nothing else types.layout) ++
      text "(" ++ arguments.layout ++ text ")"
  | .construct, [callee, arguments, types] =>
    text "new " ++ callee.layout ++ types.layout ++ between "(" ")" arguments
  | .dot name isOptional, [object] =>
    object.layout ++ mark (isBareNumber object.node && !isOptional) "." ++
      text (if isOptional then "?." else ".") ++ text name
  | .index isOptional, [object, index] =>
    object.layout ++ mark isOptional "?." ++ text "[" ++ index.layout ++ text "]"
  | .group, pieces | .sequence, pieces => joined (text ", ") (pieces.map Piece.layout)
  | .paren, [inner] => text "(" ++ inner.layout ++ text ")"
  | .await, [inner] => text "await " ++ inner.layout
  | .yields isDelegate, [value] =>
    text "yield" ++ mark isDelegate "*" ++ value.behind (text " ")
  | .template raws, pieces => template (raws.map normalText) (pieces.map Piece.layout)
  | .tagged, [tag, types, template] => tag.layout ++ types.layout ++ taggedTemplate template
  | .cast operator, [inner, type] => inner.layout ++ text (" " ++ operator ++ " ") ++ type.layout
  | .angleCast, [inner, type] => text "<" ++ type.layout ++ text ">" ++ inner.layout
  | .nonNull, [inner] => inner.layout ++ text "!"
  | .instantiation, [inner, types] => inner.layout ++ types.layout
  | .element isSelfClosing, [name, attributes, types, children, closing] =>
    text "<" ++ name.layout ++ types.layout ++
      concat (attributes.members.map fun part => text " " ++ part) ++
      (if isSelfClosing then text "/>"
       else text ">" ++ concat children.members ++ text "</" ++ closing.layout ++ text ">")
  | .fragment, pieces => text "<>" ++ concat (pieces.map Piece.layout) ++ text "</>"
  | .attribute name, [value] => text name ++ value.behind (text "=")
  | .container, [inner] => text "\x7b" ++ inner.layout ++ text "\x7d"
  | .spreadAttribute, [inner] => text "\x7b..." ++ inner.layout ++ text "\x7d"
  | .arrayPattern isOptional, [elements, type] =>
    text "[" ++ elements.layout ++ text "]" ++ mark isOptional "?" ++ type.behind (text ": ")
  | .objectPattern isOptional, [properties, type] =>
    (if properties.members.isEmpty then text "\x7b\x7d"
     else text "\x7b " ++ properties.layout ++ text " \x7d") ++
      mark isOptional "?" ++ type.behind (text ": ")
  | .defaulted, [target, value] => target.layout ++ text " = " ++ value.layout
  | .restPattern, [target, type] => text "..." ++ target.layout ++ type.behind (text ": ")
  | .pairPattern, [key, target] => key.layout ++ text ": " ++ target.layout
  | .fieldPattern, [name, value] => name.layout ++ value.behind (text " = ")
  | .annotated isOptional, [name, type] =>
    name.layout ++ mark isOptional "?" ++ type.behind (text ": ")
  | .parameter modifiers, [decorators, pattern] =>
    (if decorators.members.isEmpty then nothing else line ++ decorators.layout) ++
      words modifiers ++ pattern.layout
  | _, pieces => concat (pieces.map Piece.layout)

def statementLayout (shape : Shape) (parts : List Piece) : Layout :=
  match shape, parts with
  | .expression, [inner] => inner.layout ++ text ";"
  | .block, pieces | .body, pieces => block pieces
  | .empty, _ => text ";"
  | .ifElse, [test, positive, negative] =>
    text "if (" ++ test.layout ++ text ") " ++ positive.statement ++
      (if negative.isAbsent then nothing
       else mark positive.isBlock " " ++ text "else " ++ negative.statement)
  | .forLoop, [start, test, step, body] =>
    text "for(" ++ start.layout ++ text ";" ++ test.behind (text " ") ++ text ";" ++
      step.behind (text " ") ++ text ")" ++ body.statement
  | .forIn, [left, right, body] =>
    text "for(" ++ left.layout ++ text " in " ++ right.layout ++ text ")" ++ body.statement
  | .forOf isAwait, [left, right, body] =>
    text "for " ++ word isAwait "await" ++ text "(" ++ left.layout ++ text " of " ++ right.layout ++
      text ")" ++ body.statement
  | .whileLoop, [test, body] => text "while(" ++ test.layout ++ text ")" ++ body.statement
  | .doWhile, [test, body] =>
    text "do " ++ body.statement ++ text "while (" ++ test.layout ++ text ")"
  | .switchOn, [subject, cases] =>
    text "switch(" ++ subject.layout ++ text ")" ++ braced cases.members
  | .caseOf, [test, statements] =>
    (if test.isAbsent then text "default" else text "case " ++ test.layout) ++ text ":" ++ line ++
      indented (concat (statements.members.map (· ++ line)))
  | .tryCatch, [body, handler, finalizer] =>
    text "try " ++ body.layout ++ handler.behind (text " ") ++ finalizer.behind (text " finally")
  | .catchClause, [parameter, body] =>
    text "catch " ++ between "(" ")" parameter ++ text " " ++ body.layout
  | .throwValue, [value] => text "throw " ++ value.layout ++ text ";"
  | .returnValue, [value] => text "return" ++ value.behind (text " ") ++ text ";"
  | .breakTo, [label] => text "break" ++ label.behind (text " ") ++ text ";"
  | .continueTo, [label] => text "continue" ++ label.behind (text " ") ++ text ";"
  | .labeled, [label, statement] => label.layout ++ text ": " ++ statement.statement
  | .word content, _ => text (content ++ ";")
  | .variableDeclaration kind isDeclared, pieces =>
    word isDeclared "declare" ++ text (kind.word ++ " ") ++
      joined (text ", ") (pieces.map Piece.layout)
  | .declarator _, [target, value] => target.layout ++ value.behind (text " = ")
  | .classConstructor modifiers, [parameters, body] =>
    words modifiers ++ text "constructor(" ++ parameters.layout ++ text ")" ++
      (if body.isAbsent then text ";" else body.layout)
  | .staticBlock, [body] => text "static" ++ body.layout
  | .accessor modifiers, [key, value, type, decorators] =>
    decorators.layout ++ words modifiers ++ text "accessor " ++ key.layout ++
      type.behind (text ": ") ++ value.behind (text " = ") ++ text ";"
  | .heritage, [inner, types] => inner.layout ++ types.layout
  | shape, pieces => expressionLayout shape pieces

def itemLayout (shape : Shape) (parts : List Piece) : Layout :=
  match shape, parts with
  | .exportDeclaration, [declaration] =>
    match declaration.node, declaration.members with
    | .classNode _ _ _ _ _, [decorators, rest] => decorators ++ text "export " ++ rest
    | _, _ => text "export " ++ declaration.closed
  | .exportDefault, [value] => text "export default " ++ value.layout ++ text ";"
  | .exportDefaultDeclaration, [declaration] => text "export default " ++ declaration.layout
  | .exportAll typeOnly source, [pairs] =>
    text "export " ++ word typeOnly "type" ++ text "*" ++ exportSource (some source) pairs ++
      text ";"
  | .importEquals isExported typeOnly, [name, source] =>
    word isExported "export" ++ text "import " ++ word typeOnly "type" ++ name.layout ++
      text " = " ++ source.layout ++ text ";"
  | .exportAssign, [value] => text "export = " ++ value.layout
  | .exportNamespace, [name] => text "export = " ++ name.layout
  | .interfaceDeclaration isDeclared, [name, typeParameters, extended, members] =>
    word isDeclared "declare" ++ text "interface " ++ name.layout ++ typeParameters.layout ++
      (if extended.members.isEmpty then nothing else text " extends " ++ extended.layout) ++
      text " " ++ typeMembers members.members
  | .typeAlias isDeclared, [name, typeParameters, type] =>
    word isDeclared "declare" ++ text "type " ++ name.layout ++ typeParameters.layout ++
      text " = " ++ type.layout ++ text ";"
  | .enumDeclaration isDeclared isConst, [name, members] =>
    word isDeclared "declare" ++ word isConst "const" ++ text "enum " ++ name.layout ++ text " " ++
      members.layout
  | .enumMembers, pieces =>
    text "\x7b" ++ line ++ indented (joined (text "," ++ line) (pieces.map Piece.layout)) ++ line ++
      text "\x7d"
  | .enumMember, [name, value] => name.layout ++ value.behind (text " = ")
  | .namespaceDeclaration keyword isDeclared, [name, body] =>
    if keyword == "." then text "." ++ name.layout ++ text " " ++ body.layout
    else
      word isDeclared "declare" ++ text keyword ++ name.behind (text " ") ++
        (match body.node with
          | .form (.namespaceDeclaration _ _) _ => body.layout
          | _ => if body.isAbsent then text ";" else text " " ++ body.layout)
  | shape, pieces => statementLayout shape pieces

def typeLayout (shape : Shape) (parts : List Piece) : Layout :=
  match shape, parts with
  | .typeArguments, pieces | .typeParameters, pieces =>
    text "<" ++ joined (text ", ") (pieces.map Piece.layout) ++ text ">"
  | .typeParameter modifiers, [name, bound, fallback] =>
    words modifiers ++ name.layout ++ bound.behind (text " extends ") ++
      fallback.behind (text " = ")
  | .typeReference, [name, arguments] => name.layout ++ arguments.layout
  | .qualified name, [left] => left.layout ++ text ("." ++ name)
  | .arrayType, [type] => type.layout ++ text "[]"
  | .indexedType, [object, index] => object.layout ++ text "[" ++ index.layout ++ text "]"
  | .tupleType, pieces => text "[" ++ joined (text ", ") (pieces.map Piece.layout) ++ text "]"
  | .tupleElement isOptional, [label, type] =>
    label.layout ++ mark isOptional "?" ++ text ": " ++ type.layout
  | .joinedType operator, pieces =>
    joined (text (" " ++ operator ++ " ")) (pieces.map Piece.layout)
  | .optionalType, [type] => type.layout ++ text "?"
  | .restType, [type] => text "..." ++ type.layout
  | .functionType before, [parameters, typeParameters, result] =>
    text before ++ mark (!before.isEmpty && !typeParameters.isAbsent) " " ++
      typeParameters.layout ++ text "(" ++ parameters.layout ++ text ") => " ++ result.layout
  | .typeLiteral, pieces => typeMembers (pieces.map Piece.layout)
  | .typeQuery, [name, arguments] => text "typeof " ++ name.layout ++ arguments.layout
  | .importType source, [qualifier, arguments] =>
    text "import(" ++ literal source ++ text ")" ++ qualifier.behind (text ".") ++ arguments.layout
  | .conditionalType, [checked, bound, positive, negative] =>
    checked.layout ++ text " extends " ++ bound.layout ++ text " ? " ++ positive.layout ++
      text " : " ++ negative.layout
  | .inferType, [parameter] => text "infer " ++ parameter.layout
  | .typeOperator operator, [type] => text (operator ++ " ") ++ type.layout
  | .mappedType readonlyMark optionalMark, [parameter, newName, type] =>
    let name :=
      match parameter.members with
      | [name, bound, _] => name ++ text " in " ++ bound
      | _ => parameter.layout
    braced
      [mark (!readonlyMark.isEmpty) (readonlyMark ++ " ") ++ text "[" ++ name ++
        newName.behind (text " as ") ++ text "]" ++ text optionalMark ++ type.behind (text ": ") ++
        text ";"]
  | .predicateType isAsserting, [name, type] =>
    word isAsserting "asserts" ++ name.layout ++ type.behind (text " is ")
  | .propertySignature isReadonly isComputed isOptional, [key, type] =>
    word isReadonly "readonly" ++ signatureKey isComputed key ++ mark isOptional "?" ++
      type.behind (text ": ")
  | .methodSignature isComputed isOptional, [key, parameters, type, typeParameters] =>
    signatureKey isComputed key ++ mark isOptional "?" ++ signature typeParameters parameters type
  | .callSignature before, [parameters, type, typeParameters] =>
    if before.isEmpty then
      typeParameters.layout ++ text "(" ++ parameters.layout ++ text ")" ++ type.behind (text " : ")
    else
      text before ++ mark (!typeParameters.isAbsent) " " ++
        signature typeParameters parameters type
  | .getterSignature isComputed, [key, type] =>
    text "get " ++ signatureKey isComputed key ++ text "()" ++ type.behind (text ": ")
  | .setterSignature isComputed, [key, parameter] =>
    text "set " ++ signatureKey isComputed key ++ text "(" ++ parameter.layout ++ text ")"
  | .indexSignature modifiers, [parameters, type] =>
    words modifiers ++ text "[" ++ parameters.layout ++ text "]" ++ type.behind (text ": ")
  | shape, pieces => itemLayout shape pieces

def classLayout (head : ClassHead) (members : List Piece) (parent : Piece) (rest : List Piece) :
    Layout :=
  let before := word head.isDeclared "declare" ++ word head.isAbstract "abstract" ++ text "class" ++
    (match head.name with
      | some name => text (" " ++ name.name)
      | none => nothing)
  let inside := text " " ++ braced (members.map Piece.layout)
  match rest with
  | [typeParameters, types, implemented] =>
    before ++ (if head.name.isSome then typeParameters.layout else nothing) ++
      parent.behind (text " extends ") ++ types.layout ++
      (match implemented.node with
        | .form _ [.form _ (_ :: _)] => text " implements " ++ implemented.layout
        | _ => nothing) ++ inside
  | _ => before ++ parent.behind (text " extends ") ++ inside

/-- A class member that has a key and a core.  A method with a private name prints without its
decorators. -/
def memberLayout (head : MemberHead) (key : Piece) (front : List Piece) (core : Piece)
    (back : List Piece) : Layout :=
  let start := words head.before ++ word head.isStatic "static" ++ words head.after
  let method (before : Layout) : Layout :=
    match front, back with
    | [parameters, decorators], [typeParameters, result] =>
      (if key.node.isPrivateKey then nothing else decorators.layout) ++ start ++ before ++
        key.layout ++ text head.mark ++
        signature typeParameters parameters result ++
        (if core.isAbsent then text ";" else text " " ++ core.layout)
    | _, _ => key.layout
  match head.kind with
  | .field =>
    match back with
    | [type, decorators] =>
      decorators.layout ++ start ++ key.layout ++ text head.mark ++ type.behind (text ": ") ++
        core.behind (text " = ") ++ text ";"
    | _ => key.layout
  | .method isAsync isGenerator => method (methodWords isAsync isGenerator)
  | .getter => method (text "get ")
  | .setter => method (text "set ")

/-- The parts of a construct as its own layout sees them: statements end their lines. -/
def membersOf (shape : Shape) (parts : List Piece) : List Layout :=
  match shape with
  | .group => parts.map Piece.closed
  | _ => parts.map Piece.layout

mutual

/-- A node with its layout. -/
def piece : Node → Piece
  | .ident role id => ⟨.ident role id, text id.name, []⟩
  | .importDecl declaration attributes =>
    ⟨.importDecl declaration attributes, importLayout declaration (piece attributes), []⟩
  | .exportNames declaration attributes =>
    ⟨.exportNames declaration attributes, exportLayout declaration (piece attributes), []⟩
  | .classNode head decorators members parent rest =>
    let before := expressionLayout .decorators (pieces decorators)
    let after := classLayout head (pieces members) (piece parent) (pieces rest)
    ⟨.classNode head decorators members parent rest, before ++ after, [before, after]⟩
  | .member head key front core back =>
    ⟨.member head key front core back,
      memberLayout head (piece key) (pieces front) (piece core) (pieces back), []⟩
  | .items body => ⟨.items body, braced ((pieces body).map Piece.statement), []⟩
  | .form shape parts =>
    let parts' := pieces parts
    ⟨.form shape parts, typeLayout shape parts', membersOf shape parts'⟩

/-- Nodes with their layouts. -/
def pieces : List Node → List Piece
  | [] => []
  | node :: rest => piece node :: pieces rest

end

end Printer

def Module.layout (module : Module) : Layout :=
  (match module.interpreter with
    | some line' => text ("#!" ++ line') ++ line
    | none => nothing) ++
  concat ((Printer.pieces module.items).map Printer.Piece.statement)

/-- The text of a module. -/
def Module.print (module : Module) : String := module.layout.render

end StyleInline.Script
