import StyleInline.Path
import StyleInline.Scan

/-!
# Progress through a module

What the rewriting of one module has to remember.  It is empty before a module is entered
and again after it has been left.
-/

namespace StyleInline

open Script

/-- A stylesheet whose text waits to be put into a class. -/
structure StyleBinding where
  localName : String
  path : Path
  content : String
  deriving DecidableEq, Repr, Inhabited

structure Progress where
  tag : Option Ident := none
  /-- The stylesheets read inside of styles, in the order of their imports. -/
  bindings : List (Ident × StyleBinding) := []
  className : Option String := none
  scan : Scan := {}
  deriving DecidableEq, Repr, Inhabited

namespace Progress

def isEmpty (progress : Progress) : Bool :=
  progress.tag.isNone && progress.bindings.isEmpty && progress.className.isNone &&
    progress.scan.isEmpty

/-- Sets the value of a key; a key that is there already keeps its place. -/
def setBinding (id : Ident) (binding : StyleBinding) :
    List (Ident × StyleBinding) → List (Ident × StyleBinding)
  | [] => [(id, binding)]
  | (other, old) :: rest =>
    if other = id then (id, binding) :: rest else (other, old) :: setBinding id binding rest

def bind (progress : Progress) (id : Ident) (binding : StyleBinding) : Progress :=
  { progress with bindings := setBinding id binding progress.bindings }

def binding? (progress : Progress) (id : Ident) : Option StyleBinding := progress.bindings.lookup id

end Progress

end StyleInline
