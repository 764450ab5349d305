import StyleInline.Config
import StyleInline.Script.Node

/-!
# Generated items

The items and expressions that take the place of a stylesheet import.
-/

namespace StyleInline

open Script

namespace Emit

def tagImport (name : Ident) (tag : Tag) : Node :=
  let imported : Option ModuleName :=
    if name.name = tag.localName then none else some (.ident { name := tag.localName })
  .importDecl
    { typeOnly := false
      specifiers := [.named name imported false]
      source := ⟨tag.moduleName, none⟩ }
    .absent

def constant (binding : Ident) (value : Node) : Node :=
  .form (.variableDeclaration .const false)
    [.form (.declarator false) [.ident .bind binding, value]]

def string (content : String) : Node := .form (.text ⟨content, none⟩) []

def template (tag : Ident) (content : String) : Node :=
  .form .tagged [.ident .use tag, .absent, .form (.template [content]) []]

end Emit

end StyleInline
