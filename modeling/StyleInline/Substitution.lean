import StyleInline.Emit
import StyleInline.Failure
import StyleInline.Progress

/-!
# Substitution of styles

References to stylesheets inside the styles of a class are replaced by the stylesheets
themselves.  The first reference that cannot be replaced stops the substitution; what was
replaced before it stays.
-/

namespace StyleInline

open Script

namespace Substitution

/-- What a substitution looks up. -/
structure Setting where
  progress : Progress
  className : String

structure Tally where
  count : Nat := 0
  failure : Option InlineError := none
  deriving DecidableEq, Repr, Inhabited

inductive Outcome where
  | keep
  | replace (template : Node)
  | fail (error : InlineError)

def outcome (setting : Setting) (id : Ident) : Outcome :=
  match setting.progress.binding? id with
  | none =>
    if setting.progress.scan.styleImports.contains id then
      .fail (.stylesBeforeImport setting.className id.name)
    else .keep
  | some binding =>
    match setting.progress.tag with
    | none => .fail (.missingTagImport setting.className)
    | some tag => .replace (Emit.template tag binding.content)

abbrev Step (α : Type) := StateM Tally α

def replaceReference (setting : Setting) (id : Ident) (reference : Node)
    (replacement : Node → Node) : Step Node := do
  match outcome setting id with
  | .keep => return reference
  | .replace template =>
    modify fun tally => { tally with count := tally.count + 1 }
    return replacement template
  | .fail error =>
    modify fun tally => { tally with failure := some error }
    return reference

mutual

/-- Replaces the references in a node. -/
def substitute (setting : Setting) : Node → Step Node
  | .ident role id => do
    if (← get).failure.isSome then return .ident role id
    match role with
    | .use => replaceReference setting id (.ident role id) fun template => template
    | .shorthand =>
      replaceReference setting id (.ident role id) fun template =>
        .form .pair [.form (.key id.name) [], template]
    | _ => return .ident role id
  | .importDecl declaration attributes =>
    return .importDecl declaration (← substitute setting attributes)
  | .exportNames declaration attributes =>
    return .exportNames declaration (← substitute setting attributes)
  | .classNode head decorators members parent rest => do
    let decorators ← substituteAll setting decorators
    let members ← substituteAll setting members
    let parent ← substitute setting parent
    return .classNode head decorators members parent (← substituteAll setting rest)
  | .member head key front core back => do
    let key ← substitute setting key
    let front ← substituteAll setting front
    let core ← substitute setting core
    return .member head key front core (← substituteAll setting back)
  | .items body => return .items (← substituteAll setting body)
  | .form shape parts => return .form shape (← substituteAll setting parts)

def substituteAll (setting : Setting) : List Node → Step (List Node)
  | [] => return []
  | node :: rest => do
    let node ← substitute setting node
    return node :: (← substituteAll setting rest)

end

/-- Replaces the references in the static `styles` members among the members of a class. -/
def substituteMembers (setting : Setting) : List Node → Step (List Node)
  | [] => return []
  | .member head key front core back :: rest => do
    let core ←
      if isStylesMember (.member head key front core back) then substitute setting core
      else pure core
    return .member head key front core back :: (← substituteMembers setting rest)
  | other :: rest => return other :: (← substituteMembers setting rest)

end Substitution

end StyleInline
