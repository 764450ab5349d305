import StyleInline.Stylesheet.Grammar
import StyleInline.Stylesheet.Prefix

/-!
# Declarations

A declaration gives a value to a property.  A property such as `margin` stands for several single
properties; its value is kept as the values of those, so that declarations can be taken apart and
put together again.
-/

namespace StyleInline.Stylesheet

/-- The values that a declaration gives to single properties, with one text for each layer. -/
abbrev Fields := List (String × List Spaced)

structure Declaration where
  property : String
  prefixes : List Prefix
  value : Spaced
  /-- What the value means for single properties; nothing if that is not known. -/
  fields : Fields
  isImportant : Bool
  deriving BEq, Repr, Inhabited

namespace Declaration

def isCustom (declaration : Declaration) : Bool := declaration.property.startsWith "--"

def prefixesFor (targets : Targets) (property : String) (prefixes : List Prefix) : List Prefix :=
  if targets.isEmpty || !prefixes.contains .plain then Prefix.inOrder prefixes
  else (Prefixing.ofProperty property).neededBy targets

def names (declaration : Declaration) : List String :=
  if declaration.isCustom then [declaration.property]
  else declaration.prefixes.map fun one => one.text ++ declaration.property

end Declaration

/-- The value of a single property that waits to be written, maybe together with others. -/
structure Held where
  name : String
  layers : List Spaced
  prefixes : List Prefix
  deriving BEq, Repr, Inhabited

namespace Held

def alone (targets : Targets) (held : Held) : Declaration :=
  ⟨held.name, Declaration.prefixesFor targets held.name held.prefixes, Spaced.listed held.layers,
    [(held.name, held.layers)], false⟩

def find? (name : String) (all : List Held) : Option Held := all.find? (·.name == name)

def first? (name : String) (all : List Held) : Option Spaced :=
  (find? name all).bind (·.layers.head?)

def without (names : List String) (all : List Held) : List Held :=
  all.filter fun held => !names.contains held.name

end Held

inductive Step where
  | single (name : String)
  | joined (name : String) (members : List String)
      (write : Targets → List (List Spaced) → Option Spaced)
  | free (write : Targets → List Held → List Declaration × List Held)

namespace Step

def join (targets : Targets) (name : String) (members : List String)
    (write : Targets → List (List Spaced) → Option Spaced) (all : List Held) :
    List Declaration × List Held :=
  match members.mapM fun member => Held.find? member all with
  | none => ([], all)
  | some found =>
    let shared := Prefix.all.filter fun one => found.all (·.prefixes.contains one)
    if shared.isEmpty then ([], all)
    else
      match write targets (found.map Held.layers) with
      | none => ([], all)
      | some value =>
        let fields := found.map fun held => (held.name, held.layers)
        let left := all.map fun held =>
          if members.contains held.name then
            { held with prefixes := held.prefixes.filter (!shared.contains ·) }
          else held
        ([⟨name, Declaration.prefixesFor targets name shared, value, fields, false⟩],
          left.filter (!·.prefixes.isEmpty))

def run (targets : Targets) (all : List Held) : Step → List Declaration × List Held
  | .single name =>
    match Held.find? name all with
    | some held => ([held.alone targets], Held.without [name] all)
    | none => ([], all)
  | .joined name members write => join targets name members write all
  | .free write => write targets all

def runAll (targets : Targets) : List Step → List Held → List Declaration
  | [], _ => []
  | step :: rest, all =>
    let (written, left) := step.run targets all
    written ++ runAll targets rest left

end Step

structure Bundle where
  members : List String
  /-- A declaration of one property makes the held value of another one void. -/
  voids : String → String → Bool
  steps : List Step

namespace Bundle

def ofSteps (members : List String) (steps : List Step) : Bundle :=
  ⟨members, fun _ _ => false, steps⟩

end Bundle

end StyleInline.Stylesheet
