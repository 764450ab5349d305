import StyleInline.Substitution

/-!
# Substitution in a whole module

Every reference of a module is treated as one inside of styles.  The stylesheets are given by
name, and a name stands for the identifier that bears it last.
-/

namespace StyleInline

open Script

namespace Substitution

mutual

/-- The identifiers of a node, in visiting order. -/
def identsOf : Node → List Ident
  | .ident _ id => [id]
  | .importDecl declaration attributes => Scan.idsOfImport declaration ++ identsOf attributes
  | .exportNames declaration attributes => Scan.idsOfExport declaration ++ identsOf attributes
  | .classNode head decorators members parent rest =>
    head.name.toList ++ identsOfAll decorators ++ identsOfAll members ++ identsOf parent ++
      identsOfAll rest
  | .member _ key front core back =>
    identsOf key ++ identsOfAll front ++ identsOf core ++ identsOfAll back
  | .items body => identsOfAll body
  | .form _ parts => identsOfAll parts

def identsOfAll : List Node → List Ident
  | [] => []
  | node :: rest => identsOf node ++ identsOfAll rest

end

structure Request where
  tag : Option String
  className : String
  /-- Names and texts; of two with one name the later counts. -/
  bindings : List (String × String)
  deriving DecidableEq, Repr, Inhabited

/-- A specifier that ends like the name of a stylesheet. -/
def isStylesheetName (specifier : String) : Bool := specifier.endsWith ".css"

def progressOf (request : Request) (module : Module) : Progress :=
  let ids := (identsOfAll module.items).reverse
  let start : Progress :=
    { tag := request.tag.map fun name => { name }
      scan := Scan.ofModule ⟨"LitElement", isStylesheetName⟩ module }
  request.bindings.foldl (fun progress (name, content) =>
    match ids.find? (·.name == name) with
    | none => progress
    | some id => progress.bind id ⟨name, ⟨""⟩, content⟩) start

structure Whole where
  module : Module
  tally : Tally
  progress : Progress

/-- Replaces the references in a module. -/
def ofModule (request : Request) (module : Module) : Whole :=
  let progress := progressOf request module
  let (items, tally) := (substituteAll ⟨progress, request.className⟩ module.items).run {}
  ⟨{ module with items }, tally, progress⟩

end Substitution

end StyleInline
