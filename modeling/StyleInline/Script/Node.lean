/-!
# The tree of a module

A module is a list of nodes.  Identifiers, imports, exports, classes and their members
have constructors of their own, because the rewriting rules speak about them; all other
constructs share one constructor, a shape with the parts it is built from.

The parts of a node stand in visiting order, which is the order in which every analysis
meets them.  It differs from the written order in a few places: the members of a class
come before its heritage, and the body of a `do` loop after its condition.
-/

namespace StyleInline.Script

inductive Scope where
  /-- No scope at all: labels, names of types, and names that were never resolved. -/
  | unscoped
  | free
  | declared (number : Nat)
  deriving DecidableEq, Repr, Inhabited

/-- An identifier together with its scope; equal ones are one binding. -/
structure Ident where
  name : String
  scope : Scope := .unscoped
  deriving DecidableEq, Repr, Inhabited

inductive Role where
  | use
  /-- A property `{ a }` of an object literal: the value is read. -/
  | shorthand
  | bind
  /-- The name of an element: it belongs to a scope, but is no expression. -/
  | element
  /-- A label, or a name of a type. -/
  | plain
  deriving DecidableEq, Repr, Inhabited

def Role.reads : Role → Bool
  | .use | .shorthand => true
  | .bind | .element | .plain => false

/-- A string literal: its value, and the way it was written if it was written at all. -/
structure TextLiteral where
  value : String
  raw : Option String
  deriving DecidableEq, Repr, Inhabited

inductive ModuleName where
  | ident (id : Ident)
  | text (literal : TextLiteral)
  deriving DecidableEq, Repr, Inhabited

inductive ImportSpecifier where
  /-- `a` -/
  | default (binding : Ident)
  /-- `* as a` -/
  | everything (binding : Ident)
  /-- `a`, or `b as a` -/
  | named (binding : Ident) (imported : Option ModuleName) (typeOnly : Bool)
  deriving DecidableEq, Repr, Inhabited

inductive Phase where
  /-- The module is run. -/
  | evaluation
  /-- The module is only loaded. -/
  | source
  /-- The module is run when it is first used. -/
  | deferred
  deriving DecidableEq, Repr, Inhabited

def Phase.word? : Phase → Option String
  | .evaluation => none
  | .source => some "source"
  | .deferred => some "defer"

structure Import where
  phase : Phase := .evaluation
  typeOnly : Bool
  specifiers : List ImportSpecifier
  source : TextLiteral
  /-- A comma behind the last name in braces is kept. -/
  isTrailed : Bool := false
  deriving DecidableEq, Repr, Inhabited

inductive ExportSpecifier where
  /-- `a`, or `a as b` -/
  | named (subject : ModuleName) (exported : Option ModuleName) (typeOnly : Bool)
  /-- `* as a` -/
  | everything (exported : ModuleName)
  deriving DecidableEq, Repr, Inhabited

structure Export where
  typeOnly : Bool
  specifiers : List ExportSpecifier
  source : Option TextLiteral
  isTrailed : Bool := false
  deriving DecidableEq, Repr, Inhabited

/-- A class that stands as a statement or as an expression, with its modifiers and its name. -/
structure ClassHead where
  isDeclaration : Bool
  isDeclared : Bool
  isAbstract : Bool
  name : Option Ident
  deriving DecidableEq, Repr, Inhabited

inductive MemberKind where
  /-- The core is the initial value. -/
  | field
  /-- The core is the body. -/
  | method (isAsync isGenerator : Bool)
  | getter
  | setter
  deriving DecidableEq, Repr, Inhabited

structure MemberHead where
  kind : MemberKind
  isStatic : Bool
  /-- The modifiers in front of `static`. -/
  before : List String
  /-- The modifiers behind `static`. -/
  after : List String
  /-- The mark behind the key, `?`, `!` or nothing. -/
  mark : String
  deriving DecidableEq, Repr, Inhabited

inductive VariableKind where
  | var
  | let_
  | const
  /-- The value is disposed of at the end of its block. -/
  | using (isAwaiting : Bool)
  deriving DecidableEq, Repr, Inhabited

def VariableKind.word : VariableKind → String
  | .var => "var"
  | .let_ => "let"
  | .const => "const"
  | .using isAwaiting => if isAwaiting then "await using" else "using"

/--
The constructs that need no rule of their own, each with the parts it expects.  A part in
brackets may be `absent`; `…` stands for any number of parts.
-/
inductive Shape where
  /-- Nothing stands here. -/
  | absent
  /-- A list of nodes: … -/
  | group
  /-- A list of decorators: … -/
  | decorators
  /-- A type, or anything else whose names are outside the scopes of values: type -/
  | typing
  -- leaves
  /-- A literal or a word that prints as it is written. -/
  | literal (raw : String)
  /-- A number. -/
  | number (raw : String)
  /-- A string. -/
  | text (literal : TextLiteral)
  /-- A property name written as an identifier. -/
  | key (name : String)
  /-- A private name. -/
  | privateKey (name : String)
  /-- A hole in an array. -/
  | hole
  -- expressions
  /-- `[expr]` as a property name: expr -/
  | computed
  /-- Elements, perhaps with a comma behind the last of them: … -/
  | array (isTrailed : Bool)
  /-- Properties, perhaps with a comma behind the last of them: … -/
  | object (isTrailed : Bool)
  /-- key, value -/
  | pair
  /-- key, function -/
  | objectMethod
  /-- key, [return type], body -/
  | objectGetter
  /-- key, [parameter for the object itself], parameter, body -/
  | objectSetter
  /-- A default, which has its place in an object that turns out to be a pattern: target, value -/
  | patternDefault
  /-- expr -/
  | spread
  /-- parameters, decorators, [body], [type parameters], [return type] -/
  | function (isAsync isGenerator : Bool)
  /-- [name], function -/
  | functionExpression
  /-- name, function -/
  | functionDeclaration (isDeclared : Bool)
  /-- parameters, body, [type parameters], [return type] -/
  | arrow (isAsync : Bool)
  /-- expr -/
  | unary (operator : String)
  /-- expr -/
  | update (operator : String) (isLeading : Bool)
  /-- left, right -/
  | binary (operator : String)
  /-- target, value -/
  | assign (operator : String)
  /-- test, then, else -/
  | conditional
  /-- callee, arguments, [type arguments] -/
  | call (isOptional : Bool)
  /-- callee, [arguments], [type arguments] -/
  | construct
  /-- object -/
  | dot (name : String) (isOptional : Bool)
  /-- object, index -/
  | index (isOptional : Bool)
  /-- … -/
  | sequence
  /-- expr -/
  | paren
  /-- expr -/
  | await
  /-- [expr] -/
  | yields (isDelegate : Bool)
  /-- The texts around the substitutions: … -/
  | template (raws : List String)
  /-- tag, [type arguments], template -/
  | tagged
  /-- `as` or `satisfies`: expr, type -/
  | cast (word : String)
  /-- expr, type -/
  | angleCast
  /-- expr -/
  | nonNull
  /-- expr, type arguments -/
  | instantiation
  -- elements
  /-- name, attributes, [type arguments], children, [closing name] -/
  | element (isSelfClosing : Bool)
  /-- … -/
  | fragment
  /-- [value] -/
  | attribute (name : String)
  /-- [expr] -/
  | container
  /-- expr -/
  | spreadAttribute
  -- patterns
  /-- elements, [type] -/
  | arrayPattern (isOptional : Bool)
  /-- properties, [type] -/
  | objectPattern (isOptional : Bool)
  /-- target, value -/
  | defaulted
  /-- target, [type] -/
  | restPattern
  /-- key, target -/
  | pairPattern
  /-- name, [value] -/
  | fieldPattern
  /-- name, type -/
  | annotated (isOptional : Bool)
  /-- decorators, pattern -/
  | parameter (modifiers : List String)
  -- statements
  /-- expr -/
  | expression
  /-- … -/
  | block
  /-- The statements of a function, in the scope of its parameters: … -/
  | body
  | empty
  /-- test, then, [else] -/
  | ifElse
  /-- [start], [test], [step], body -/
  | forLoop
  /-- left, right, body -/
  | forIn
  /-- left, right, body -/
  | forOf (isAwait : Bool)
  /-- test, body -/
  | whileLoop
  /-- test, body -/
  | doWhile
  /-- subject, cases -/
  | switchOn
  /-- The cases of a `switch`, which share one scope: … -/
  | cases
  /-- [test], statements -/
  | caseOf
  /-- block, [handler], [finalizer] -/
  | tryCatch
  /-- [parameter], body -/
  | catchClause
  /-- expr -/
  | throwValue
  /-- [expr] -/
  | returnValue
  /-- [label] -/
  | breakTo
  /-- [label] -/
  | continueTo
  /-- label, statement -/
  | labeled
  /-- A statement that is one word. -/
  | word (text : String)
  /-- declarators: … -/
  | variableDeclaration (kind : VariableKind) (isDeclared : Bool)
  /-- pattern, [value] -/
  | declarator (isDefinite : Bool)
  -- class members without a core
  /-- parameters, [body] -/
  | classConstructor (modifiers : List String)
  /-- body -/
  | staticBlock
  /-- key, [value], [type], decorators -/
  | accessor (modifiers : List String)
  /-- expr, [type arguments] -/
  | heritage
  -- module items
  /-- declaration -/
  | exportDeclaration
  /-- expr -/
  | exportDefault
  /-- declaration -/
  | exportDefaultDeclaration
  /-- `export * from` a module: [attributes] -/
  | exportAll (typeOnly : Bool) (source : TextLiteral)
  /-- name, module -/
  | importEquals (isExported typeOnly : Bool)
  /-- expr -/
  | exportAssign
  /-- name -/
  | exportNamespace
  /-- name, [type parameters], extended, members -/
  | interfaceDeclaration (isDeclared : Bool)
  /-- name, [type parameters], type -/
  | typeAlias (isDeclared : Bool)
  /-- name, members -/
  | enumDeclaration (isDeclared isConst : Bool)
  /-- The members of an enumeration, which share one scope: … -/
  | enumMembers
  /-- name, [value] -/
  | enumMember
  /-- `namespace` or `module`: name, [body] -/
  | namespaceDeclaration (word : String) (isDeclared : Bool)
  -- types
  /-- … -/
  | typeArguments
  /-- … -/
  | typeParameters
  /-- name, [bound], [default] -/
  | typeParameter (modifiers : List String)
  /-- name, [type arguments] -/
  | typeReference
  /-- left -/
  | qualified (name : String)
  /-- type -/
  | arrayType
  /-- object, index -/
  | indexedType
  /-- … -/
  | tupleType
  /-- label, type -/
  | tupleElement (isOptional : Bool)
  /-- The types of a union or an intersection: … -/
  | joinedType (operator : String)
  /-- type -/
  | optionalType
  /-- type -/
  | restType
  /-- parameters, [type parameters], result -/
  | functionType (words : String)
  /-- members: … -/
  | typeLiteral
  /-- name, [type arguments] -/
  | typeQuery
  /-- [qualifier], [type arguments] -/
  | importType (source : TextLiteral)
  /-- checked, bound, then, else -/
  | conditionalType
  /-- parameter -/
  | inferType
  /-- type -/
  | typeOperator (word : String)
  /-- parameter, [renaming], [type] -/
  | mappedType (readonlyMark optionalMark : String)
  /-- name, [type] -/
  | predicateType (isAsserting : Bool)
  /-- key, [type] -/
  | propertySignature (isReadonly isComputed isOptional : Bool)
  /-- key, parameters, [type], [type parameters] -/
  | methodSignature (isComputed isOptional : Bool)
  /-- parameters, [type], [type parameters] -/
  | callSignature (words : String)
  /-- key, [type] -/
  | getterSignature (isComputed : Bool)
  /-- key, parameter -/
  | setterSignature (isComputed : Bool)
  /-- parameters, [type] -/
  | indexSignature (modifiers : List String)
  deriving DecidableEq, Repr, Inhabited

inductive Node where
  | ident (role : Role) (id : Ident)
  /-- An import declaration, with the object in its `with` clause or nothing. -/
  | importDecl (declaration : Import) (attributes : Node)
  /-- An export list, with the object in its `with` clause or nothing. -/
  | exportNames (declaration : Export) (attributes : Node)
  /-- A class; `rest` holds its type parameters, the type arguments of `parent`, and what it
  implements. -/
  | classNode (head : ClassHead) (decorators members : List Node) (parent : Node) (rest : List Node)
  /--
  A class member.  A field has its value as core and its type and decorators behind it; a
  method has its parameters and decorators in front, its body as core and its types behind.
  -/
  | member (head : MemberHead) (key : Node) (front : List Node) (core : Node) (back : List Node)
  | items (body : List Node)
  | form (shape : Shape) (parts : List Node)
  deriving Repr, Inhabited

structure Module where
  interpreter : Option String
  items : List Node
  deriving Repr, Inhabited

namespace Node

def absent : Node := .form .absent []

def group (parts : List Node) : Node := .form .group parts

def typing (type : Node) : Node := .form .typing [type]

def ofOption : Option Node → Node
  | none => absent
  | some node => node

def isAbsent : Node → Bool
  | .form .absent _ => true
  | _ => false

def asUse? : Node → Option Ident
  | .ident .use id => some id
  | _ => none

def isPrivateKey : Node → Bool
  | .form (.privateKey _) _ => true
  | _ => false

/-- A member or a call in a chain that ends early where a value is missing. -/
def isOptionalChain : Node → Bool
  | .form (.dot _ isOptional) [object] => isOptional || isOptionalObject object
  | .form (.index isOptional) [object, _] => isOptional || isOptionalObject object
  | .form (.call isOptional) [callee, _, _] => isOptional || isOptionalObject callee
  | _ => false
where
  isOptionalObject : Node → Bool
    | .form .nonNull [inner] => isOptionalObject inner
    | object => isOptionalChain object

end Node

end StyleInline.Script
