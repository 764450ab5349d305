import StyleInline.Script.Node

/-!
# The scan of a module

Facts about a module that are gathered before anything in it is changed: the names it uses,
the stylesheets it imports, and what its identifiers are read for.  A reference counts as
one of styles when it stands inside the static `styles` member of a class that extends the
base class, however deep.
-/

namespace StyleInline

open Script

structure Scan where
  usedNames : List String := []
  /-- The default bindings of imported stylesheets. -/
  styleImports : List Ident := []
  stylesReferences : List Ident := []
  /-- The bindings that are read anywhere else, exports included. -/
  otherReferences : List Ident := []
  deriving DecidableEq, Repr, Inhabited

namespace Scan

def isEmpty (scan : Scan) : Bool :=
  scan.usedNames.isEmpty && scan.styleImports.isEmpty && scan.stylesReferences.isEmpty &&
    scan.otherReferences.isEmpty

/-- A binding is read inside of styles and nowhere else. -/
def isStylesOnly (scan : Scan) (id : Ident) : Bool :=
  scan.stylesReferences.contains id && !scan.otherReferences.contains id

def useName (name : String) (scan : Scan) : Scan :=
  { scan with usedNames := scan.usedNames.insert name }

def importStyle (id : Ident) (scan : Scan) : Scan :=
  { scan with styleImports := scan.styleImports.insert id }

def refer (inStyles : Bool) (id : Ident) (scan : Scan) : Scan :=
  if inStyles then { scan with stylesReferences := scan.stylesReferences.insert id }
  else { scan with otherReferences := scan.otherReferences.insert id }

/-- The name that is tried first for a generated identifier. -/
def baseName (preferred : String) : String :=
  "_" ++ String.ofList (preferred.toList.dropWhile (· == '_'))

def candidate (preferred : String) : Nat → String
  | 0 => baseName preferred
  | index + 1 => baseName preferred ++ toString (index + 2)

def freshName (scan : Scan) (preferred : String) : String :=
  let candidates := (List.range (scan.usedNames.length + 1)).map (candidate preferred)
  (candidates.find? fun name => !scan.usedNames.contains name).getD (baseName preferred)

/-- Takes a fresh name, which is used from then on. -/
def allocate (scan : Scan) (preferred : String) : String × Scan :=
  let name := scan.freshName preferred
  (name, scan.useName name)

end Scan

/-- A class with this parent extends the base class: the parent is an identifier of that name. -/
def extendsBase (baseClass : String) (parent : Node) : Bool :=
  match parent.asUse? with
  | some id => id.name == baseClass
  | none => false

/-- A key that spells `styles` without brackets. -/
def isStylesKey : Node → Bool
  | .form (.key name) _ => name == "styles"
  | .form (.text literal) _ => literal.value == "styles"
  | _ => false

/-- A static field or getter that may hold styles. -/
def isStylesMember : Node → Bool
  | .member head key _ _ _ =>
    head.isStatic && (head.kind == .field || head.kind == .getter) && isStylesKey key
  | _ => false

namespace Scan

structure Query where
  baseClass : String
  isStyle : String → Bool

/-- The identifiers of a name on the far side of an import or export. -/
def idsOfModuleName : ModuleName → List Ident
  | .ident id => [id]
  | .text _ => []

def idsOfImport (declaration : Import) : List Ident :=
  declaration.specifiers.flatMap fun
    | .default binding => [binding]
    | .everything binding => [binding]
    | .named binding imported _ => binding :: imported.toList.flatMap idsOfModuleName

def idsOfExport (declaration : Export) : List Ident :=
  declaration.specifiers.flatMap fun
    | .named subject exported _ =>
      idsOfModuleName subject ++ exported.toList.flatMap idsOfModuleName
    | .everything exported => idsOfModuleName exported

def defaultBindings (declaration : Import) : List Ident :=
  declaration.specifiers.filterMap fun
    | .default binding => some binding
    | _ => none

/-- The bindings of this module that an export list makes visible. -/
def exportedBindings (declaration : Export) : List Ident :=
  if declaration.source.isSome then []
  else declaration.specifiers.filterMap fun
    | .named (.ident id) _ _ => some id
    | _ => none

def useNames (ids : List Ident) (scan : Scan) : Scan :=
  ids.foldl (fun scan id => scan.useName id.name) scan

mutual

/-- Adds what a node tells; `inStyles` tells whether it stands inside of styles. -/
def collect (query : Query) (inStyles : Bool) : Node → Scan → Scan
  | .ident role id, scan =>
    let scan := scan.useName id.name
    if role.reads then scan.refer inStyles id else scan
  | .importDecl declaration attributes, scan =>
    let scan := useNames (idsOfImport declaration) scan
    let scan := collect query inStyles attributes scan
    if declaration.typeOnly || !query.isStyle declaration.source.value then scan
    else (defaultBindings declaration).foldl (fun scan id => scan.importStyle id) scan
  | .exportNames declaration attributes, scan =>
    let scan := useNames (idsOfExport declaration) scan
    let scan := collect query inStyles attributes scan
    (exportedBindings declaration).foldl (fun scan id => scan.refer false id) scan
  | .classNode head decorators members parent rest, scan =>
    let scan := useNames head.name.toList scan
    let scan := collectAll query inStyles decorators scan
    let scan := collectMembers query inStyles (extendsBase query.baseClass parent) members scan
    let scan := collect query inStyles parent scan
    collectAll query inStyles rest scan
  | .member _ key front core back, scan =>
    let scan := collect query inStyles key scan
    let scan := collectAll query inStyles front scan
    let scan := collect query inStyles core scan
    collectAll query inStyles back scan
  | .items body, scan => collectAll query inStyles body scan
  | .form _ parts, scan => collectAll query inStyles parts scan

def collectAll (query : Query) (inStyles : Bool) : List Node → Scan → Scan
  | [], scan => scan
  | node :: rest, scan => collectAll query inStyles rest (collect query inStyles node scan)

/-- Adds what the members of a class tell; `matching` tells whether the class extends the base
class. -/
def collectMembers (query : Query) (inStyles matching : Bool) : List Node → Scan → Scan
  | [], scan => scan
  | node :: rest, scan =>
    let scan := collect query (inStyles || (matching && isStylesMember node)) node scan
    collectMembers query inStyles matching rest scan

end

/-- The scan of a module. -/
def ofModule (query : Query) (module : Module) : Scan :=
  collectAll query false module.items {}

end Scan

end StyleInline
