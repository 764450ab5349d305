import StyleInline.Script.Node

/-!
# Scopes

Which declaration an identifier belongs to.  A scope is a list of names under a number; an
identifier gets the number of the innermost scope that declares its name, and is free if
none does.

Names are declared in two ways.  Those of a list of statements are hoisted: they are
declared before the statements are read, and the list of a function hoists every `var` in
the statements nested in it.  All others, such as parameters and the variables of a loop,
are declared in order, when they are reached.  Types are left alone: their names belong to
no scope of values.
-/

namespace StyleInline.Script

namespace Binder

def isCarrier : Shape → Bool
  | .defaulted | .restPattern | .pairPattern | .fieldPattern | .annotated _ | .parameter _
  | .arrayPattern _ | .objectPattern _ | .group | .declarator _ => true
  | _ => false

mutual

def names : Node → List String
  | .ident .bind id => [id.name]
  | .form shape parts => if isCarrier shape then namesOfAll parts else []
  | _ => []

def namesOfAll : List Node → List String
  | [] => []
  | node :: rest => names node ++ namesOfAll rest

end

/-- The parameters that are known in the whole list of parameters.  A rest parameter, and one
that is also a field of its class, are only known from their place on. -/
def ofParameter : Node → List String
  | .form (.parameter modifiers) [_, pattern] =>
    match pattern with
    | .form .restPattern _ => []
    | pattern => if modifiers.isEmpty then names pattern else []
  | _ => []

def ofParameters : Node → List String
  | .form .group parameters => parameters.flatMap ofParameter
  | _ => []

end Binder

def Import.names (declaration : Import) : List String :=
  declaration.specifiers.map fun
    | .default binding => binding.name
    | .everything binding => binding.name
    | .named binding _ _ => binding.name

namespace Hoisting

/-- The names that a statement declares in the list it stands in, those of `var` apart. -/
def ofStatement : Node → List String
  | .importDecl declaration _ => declaration.names
  | .classNode head _ _ _ _ =>
    if head.isDeclaration then head.name.toList.map Ident.name else []
  | .form (.variableDeclaration kind _) declarators =>
    if kind == .var then [] else Binder.namesOfAll declarators
  | .form (.functionDeclaration _) (name :: _) => Binder.names name
  | .form .exportDeclaration [declaration] => ofStatement declaration
  | .form .exportDefaultDeclaration [declaration] => ofStatement declaration
  | .form .labeled [_, statement] => ofStatement statement
  | _ => []

/-- A construct whose parts are statements, or are built from statements, in the same function. -/
def holdsStatements : Shape → Bool
  | .block | .exportDeclaration | .labeled | .ifElse | .forLoop | .forIn | .forOf _ | .whileLoop
  | .doWhile | .switchOn | .cases | .caseOf | .tryCatch | .catchClause | .group => true
  | _ => false

structure Found where
  names : List String
  /-- The variables that an exception handler declares under the name of its own parameter,
  and that nothing declares before it: the parameter is that variable. -/
  shared : List String

def Found.add (handled : List String) (found : Found) (name : String) : Found :=
  if found.names.contains name then found
  else
    { names := name :: found.names
      shared := if handled.contains name then name :: found.shared else found.shared }

mutual

/-- Adds the names that `var` declares in a statement, outside of the functions in it. -/
def addVariables (handled : List String) : Node → Found → Found
  | .form (.variableDeclaration .var _) declarators, found =>
    (Binder.namesOfAll declarators).foldl (Found.add handled) found
  | .form .catchClause [parameter, body], found =>
    addVariables (Binder.names parameter ++ handled) body found
  | .form shape parts, found =>
    if holdsStatements shape then addVariablesOfAll handled parts found else found
  | _, found => found

def addVariablesOfAll (handled : List String) : List Node → Found → Found
  | [], found => found
  | node :: rest, found => addVariablesOfAll handled rest (addVariables handled node found)

end

def ofBlock (statements : List Node) : List String := statements.flatMap ofStatement

def ofFunction (known : List String) (statements : List Node) : Found :=
  addVariablesOfAll [] statements ⟨known ++ ofBlock statements, []⟩

end Hoisting

structure Frame where
  number : Nat
  names : List String

structure Scopes where
  next : Nat
  frames : List Frame
  /-- The variables of the function that are still to be met as the parameter of a handler. -/
  shared : List String

def Scopes.lookup (name : String) : List Frame → Scope
  | [] => .free
  | frame :: outer =>
    if frame.names.contains name then .declared frame.number else lookup name outer

def Scopes.add (names : List String) (scopes : Scopes) : Scopes :=
  match scopes.frames with
  | [] => scopes
  | frame :: outer =>
    { scopes with frames := { frame with names := names ++ frame.names } :: outer }

abbrev Resolving := StateM Scopes

namespace Resolving

def place (id : Ident) : Resolving Ident := do
  return { id with scope := Scopes.lookup id.name (← get).frames }

def declare (names : List String) : Resolving Unit := modify (Scopes.add names)

def within {α : Type} (work : Resolving α) : Resolving α := do
  let outer := (← get).frames
  modify fun scopes =>
    { scopes with next := scopes.next + 1, frames := ⟨scopes.next, []⟩ :: outer }
  let result ← work
  modify fun scopes => { scopes with frames := outer }
  return result

def withinFunction {α : Type} (work : Resolving α) : Resolving α := do
  let outer := (← get).shared
  let result ← within work
  modify fun scopes => { scopes with shared := outer }
  return result

def hoist (statements : List Node) : Resolving Unit :=
  modify fun scopes =>
    match scopes.frames with
    | [] => scopes
    | frame :: outer =>
      let found := Hoisting.ofFunction frame.names statements
      { scopes with frames := { frame with names := found.names } :: outer, shared := found.shared }

/-- The parameters of a handler that are variables of the function around it. -/
def takeShared (parameter body : Node) : Resolving (List String) := do
  let declared := (Hoisting.addVariables [] body ⟨[], []⟩).names
  let shared := (← get).shared
  let taken := (Binder.names parameter).filter fun name =>
    declared.contains name && shared.contains name
  modify fun scopes =>
    { scopes with shared := scopes.shared.filter fun name => !taken.contains name }
  return taken

end Resolving

open Resolving

def Import.place (declaration : Import) : Resolving Import := do
  let specifiers ← declaration.specifiers.mapM fun
    | .default binding => return .default (← Resolving.place binding)
    | .everything binding => return .everything (← Resolving.place binding)
    | .named binding imported typeOnly =>
      return .named (← Resolving.place binding) imported typeOnly
  return { declaration with specifiers }

/-- An export list with its names in their scope; names of another module are left alone. -/
def Export.place (declaration : Export) : Resolving Export := do
  if declaration.source.isSome then return declaration
  let specifiers ← declaration.specifiers.mapM fun
    | .named (.ident id) exported typeOnly =>
      return .named (.ident (← Resolving.place id)) exported typeOnly
    | other => return other
  return { declaration with specifiers }

namespace Resolution

inductive Mode where
  | refers
  | binds
  /-- The identifiers of the pattern are declared when they are reached, these apart. -/
  | bindsUnless (names : List String)
  deriving DecidableEq

def Mode.declares (mode : Mode) (name : String) : Bool :=
  match mode with
  | .refers => false
  | .binds => true
  | .bindsUnless names => !names.contains name

inductive Layout where
  | plain
  | untouched
  | carrier
  | binding
  | framed
  | block
  | body
  | isolated
  /-- The first part holds the parameters, and all stand in the frame of a function. -/
  | function
  /-- The first part stands outside of the frame of a function. -/
  | keyed
  /-- As `keyed`, with two parameters and a body that has a frame of its own. -/
  | setter
  /-- Parameters and a body. -/
  | classConstructor
  /-- A name, and what stands in a frame with it. -/
  | functionExpression
  /-- The statements come before the test. -/
  | caseOf
  /-- The parameter and the statements of the body share a frame. -/
  | catchClause
  /-- The first part is declared, the others are looked up. -/
  | named
  /-- As `named`, with the other parts in a frame of their own. -/
  | namespace_
  /-- The names of the parts are known in all of them. -/
  | enumMembers
  /-- The names at both ends are settled by their case. -/
  | element

def layout : Shape → Layout
  | .typing | .interfaceDeclaration _ | .typeAlias _ | .indexSignature _ => .untouched
  | .variableDeclaration kind _ => if kind == .var then .plain else .binding
  | .function _ _ | .arrow _ => .function
  | .functionExpression => .functionExpression
  | .objectGetter => .keyed
  | .objectSetter => .setter
  | .classConstructor _ => .classConstructor
  | .forLoop | .forIn | .forOf _ | .cases => .framed
  | .block => .block
  | .body => .body
  | .staticBlock => .isolated
  | .caseOf => .caseOf
  | .catchClause => .catchClause
  | .enumDeclaration _ _ | .importEquals _ _ => .named
  | .namespaceDeclaration word _ => if word == "." then .named else .namespace_
  | .enumMembers => .enumMembers
  | .element _ => .element
  | shape => if Binder.isCarrier shape then .carrier else .plain

def declareName (head : ClassHead) : Resolving ClassHead := do
  match head.name with
  | none => return head
  | some name =>
    declare [name.name]
    return { head with name := some (← place name) }

/-- The name at either end of an element that names itself, because it starts with a small
letter. -/
def selfNamed? : Node → Option Node
  | .ident .element id =>
    match id.name.toList.head?.map Char.isLower with
    | some true => some (.ident .element { id with scope := .free })
    | _ => none
  | _ => none

def statementsOf : Node → List Node
  | .form .group statements => statements
  | _ => []

def redecorate (parameter decorators : Node) : Node :=
  match parameter, decorators with
  | .form shape [_, pattern], .form .decorators _ => .form shape [decorators, pattern]
  | parameter, _ => parameter

def redecorateAll (parameters : Node) (decorators : List Node) : Node :=
  match parameters with
  | .form .group parameters => .form .group (parameters.zipWith redecorate decorators)
  | other => other

/-- The name at either end of an element: one that stands for itself, or what else it is. -/
def elementName (name : Node) (other : Resolving Node) : Resolving Node :=
  match selfNamed? name with
  | some name => return name
  | none => other

mutual

/-- Gives every identifier of a node its scope. -/
def resolve (mode : Mode) : Node → Resolving Node
  | .ident .plain id => return .ident .plain id
  | .ident .bind id => do
    if mode.declares id.name then declare [id.name]
    return .ident .bind (← place id)
  | .ident role id => return .ident role (← place id)
  | .importDecl declaration attributes => do
    let declaration ← declaration.place
    return .importDecl declaration (← resolve .refers attributes)
  | .exportNames declaration attributes => do
    return .exportNames (← declaration.place) attributes
  | .classNode head decorators members parent rest => do
    if head.isDeclaration then
      let head ← declareName head
      let decorators ← resolveAll .refers decorators
      let parent ← resolve .refers parent
      let members ← resolveAll .refers members
      return .classNode head decorators members parent (← resolveAll .refers rest)
    let parent ← resolve .refers parent
    within do
      let head ← declareName head
      let decorators ← resolveAll .refers decorators
      let members ← resolveAll .refers members
      return .classNode head decorators members parent (← resolveAll .refers rest)
  | .member head key [parameters, decorators] core back => do
    let key ← resolve .refers key
    let decorators ← resolve .refers decorators
    let ofParameters ← resolveDecorators parameters
    withinFunction do
      declare (Binder.ofParameters parameters)
      let parameters ← resolve .binds parameters
      let core ← resolve .refers core
      return .member head key [redecorateAll parameters ofParameters, decorators] core
        (← resolveAll .refers back)
  | .member head key front core back => do
    let back ← resolveAll .refers back
    let key ← resolve .refers key
    let front ← resolveAll .refers front
    return .member head key front (← resolve .refers core) back
  | .items body => withinFunction do
    hoist body
    return .items (← resolveAll .refers body)
  | .form shape parts => do
    match layout shape, parts with
    | .untouched, parts => return .form shape parts
    | .carrier, parts => return .form shape (← resolveAll mode parts)
    | .binding, parts => return .form shape (← resolveAll .binds parts)
    | .framed, parts => within do return .form shape (← resolveAll .refers parts)
    | .block, statements => within do
      declare (Hoisting.ofBlock statements)
      return .form shape (← resolveAll .refers statements)
    | .body, statements => do
      hoist statements
      return .form shape (← resolveAll .refers statements)
    | .isolated, parts => withinFunction do return .form shape (← resolveAll .refers parts)
    | .function, parameters :: rest => withinFunction do
      declare (Binder.ofParameters parameters)
      let parameters ← resolve .binds parameters
      return .form shape (parameters :: (← resolveAll .refers rest))
    | .keyed, key :: rest => do
      let key ← resolve .refers key
      withinFunction do return .form shape (key :: (← resolveAll .refers rest))
    | .setter, [key, self, parameter, body] => do
      let key ← resolve .refers key
      withinFunction do
        let self ← resolve .binds self
        let parameter ← resolve .binds parameter
        let body ← within (resolve .refers body)
        return .form shape [key, self, parameter, body]
    | .classConstructor, [parameters, body] => do
      let ofParameters ← resolveDecorators parameters
      withinFunction do
        declare (Binder.ofParameters parameters)
        let parameters ← resolve .binds parameters
        let body ← resolve .refers body
        return .form shape [redecorateAll parameters ofParameters, body]
    | .functionExpression, [name, function] => within do
      let name ← resolve .binds name
      return .form shape [name, ← resolve .refers function]
    | .caseOf, [test, statements] => do
      declare (Hoisting.ofBlock (statementsOf statements))
      let statements ← resolve .refers statements
      return .form shape [← resolve .refers test, statements]
    | .catchClause, [parameter, .form inner statements] => do
      let shared ← takeShared parameter (.form inner statements)
      within do
        let parameter ← resolve (.bindsUnless shared) parameter
        declare (Hoisting.ofBlock statements)
        return .form shape [parameter, .form inner (← resolveAll .refers statements)]
    | .named, name :: rest => do
      let name ← resolve .binds name
      return .form shape (name :: (← resolveAll .refers rest))
    | .namespace_, name :: rest => do
      let name ← resolve .binds name
      within do return .form shape (name :: (← resolveAll .refers rest))
    | .enumMembers, members => within do
      declare (members.flatMap fun
        | .form .enumMember (name :: _) => Binder.names name
        | _ => [])
      return .form shape (← resolveAll .refers members)
    | .element, [name, attributes, types, children, closing] => do
      let name ← elementName name (resolve .refers name)
      let attributes ← resolve .refers attributes
      let types ← resolve .refers types
      let children ← resolve .refers children
      let closing ← elementName closing (resolve .refers closing)
      return .form shape [name, attributes, types, children, closing]
    | _, parts => return .form shape (← resolveAll .refers parts)

def resolveAll (mode : Mode) : List Node → Resolving (List Node)
  | [] => return []
  | node :: rest => do
    let node ← resolve mode node
    return node :: (← resolveAll mode rest)

/-- The decorators of the parameters of a method, which stand outside of the method. -/
def resolveDecorators : Node → Resolving (List Node)
  | .form .group parameters => resolveDecoratorsOfAll parameters
  | _ => return []

def resolveDecoratorsOfAll : List Node → Resolving (List Node)
  | [] => return []
  | .form _ [decorators, _] :: rest => do
    let decorators ← resolve .refers decorators
    return decorators :: (← resolveDecoratorsOfAll rest)
  | _ :: rest => return .absent :: (← resolveDecoratorsOfAll rest)

end

end Resolution

/-- A module whose identifiers all have their scopes; the scope of the module has the number 0. -/
def Module.resolve (module : Module) : Module :=
  let work : Resolving (List Node) := do
    hoist module.items
    Resolution.resolveAll .refers module.items
  { module with items := (work.run ⟨1, [⟨0, []⟩], []⟩).1 }

end StyleInline.Script
