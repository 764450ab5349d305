import StyleInline.Stylesheet.Declaration

/-!
# Directions

Some properties name sides by the direction of the text: where a line starts or ends, and where
lines start or end.  For browsers that do not know them they are written by the sides of the page.
Where a side depends on the direction, there is one declaration for each direction.
-/

namespace StyleInline.Stylesheet

structure Directed where
  leftToRight : Declaration
  rightToLeft : Declaration
  deriving BEq, Repr, Inhabited

namespace Direction

/-- Names by the sides of the page, for both directions of text. -/
structure Sides where
  leftToRight : String
  rightToLeft : String
  deriving DecidableEq, Repr, Inhabited

namespace Sides

def isFixed (sides : Sides) : Bool := sides.leftToRight == sides.rightToLeft

def opposite (sides : Sides) : Sides := ⟨sides.rightToLeft, sides.leftToRight⟩

end Sides

/-- The words of a name with sides of the page in place of ends of lines. -/
def sideWords? : List String → Option (List String × List String)
  | [] => none
  | "block" :: "start" :: rest => some ("top" :: rest, "top" :: rest)
  | "block" :: "end" :: rest => some ("bottom" :: rest, "bottom" :: rest)
  | "inline" :: "start" :: rest => some ("left" :: rest, "right" :: rest)
  | "inline" :: "end" :: rest => some ("right" :: rest, "left" :: rest)
  | ["block", "size"] => some (["height"], ["height"])
  | ["inline", "size"] => some (["width"], ["width"])
  | "inset" :: rest => sideWords? rest
  | first :: rest => (sideWords? rest).map fun (a, b) => (first :: a, first :: b)

def cornerWords? (block inline : String) : Option (List String × List String) := do
  let vertical ← [("start", "top"), ("end", "bottom")].lookup block
  let (left, right) ← [("start", ("left", "right")), ("end", ("right", "left"))].lookup inline
  return ([vertical, left], [vertical, right])

def sides? (name : String) : Option Sides :=
  let words := (name.toList.splitOn '-').map String.ofList
  let found :=
    match words with
    | ["border", block, inline, "radius"] =>
      (cornerWords? block inline).map fun (a, b) =>
        ("border" :: a ++ ["radius"], "border" :: b ++ ["radius"])
    | words => sideWords? words
  found.map fun (a, b) => ⟨"-".intercalate a, "-".intercalate b⟩

def feature? (name : String) : Option Feature :=
  if name.startsWith "margin-" || name.startsWith "padding-" then some .logicalDistances
  else if name.startsWith "inset-" then some .inset
  else if name.endsWith "-radius" then some .logicalCorners
  else if name.startsWith "border-" then some .logicalBorders
  else if name.endsWith "-size" then some .logicalSizes
  else none

def needed? (targets : Targets) (name : String) : Option Sides := do
  if (← feature? name) |> targets.understand then none else sides? name

def renamed (targets : Targets) (pick : Sides → String) (declaration : Declaration) :
    Declaration :=
  let rename (name : String) : String := ((sides? name).map pick).getD name
  let property := rename declaration.property
  { declaration with
    property
    prefixes := Declaration.prefixesFor targets property declaration.prefixes
    fields := declaration.fields.map fun (name, layers) => (rename name, layers) }

/-- Declarations as targets understand them, and those that depend on the direction of the text.
Both ends of a line may be written at once if they agree. -/
def lowered (targets : Targets) (all : List Declaration) : List Declaration × List Directed :=
  let one (declaration : Declaration) : Declaration ⊕ Directed :=
    match needed? targets declaration.property with
    | none => .inl declaration
    | some sides =>
      let isBoth := !declaration.property.endsWith "-radius" && all.any fun other =>
        other.value == declaration.value && sides? other.property == some sides.opposite
      if sides.isFixed || isBoth then .inl (renamed targets Sides.leftToRight declaration)
      else
        .inr ⟨renamed targets Sides.leftToRight declaration,
          renamed targets Sides.rightToLeft declaration⟩
  let found := all.map one
  (found.filterMap Sum.getLeft?, found.filterMap Sum.getRight?)

end Direction

end StyleInline.Stylesheet
