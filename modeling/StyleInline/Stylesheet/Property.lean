import StyleInline.Stylesheet.Declaration
import StyleInline.Stylesheet.Image
import StyleInline.Stylesheet.Raw

/-!
# Properties

A property has a name, maybe with prefixes, and a grammar for what its value means.
-/

namespace StyleInline.Stylesheet

structure Property where
  name : String
  prefixes : List Prefix
  grammar : Grammar Fields

namespace Property

def single (name : String) (grammar : Grammar Spaced) : Property :=
  ⟨name, [], (fun value => [(name, [value])]) <$> grammar⟩

def layered (name : String) (grammar : Grammar Spaced) : Property :=
  ⟨name, [], (fun layers => [(name, layers)]) <$> Grammar.listed grammar⟩

/-- A property whose value is one of some words. -/
def chosen (name : String) (words : List String) : Property := single name (Grammar.keyword words)

def several (name : String) (grammar : Grammar Fields) : Property := ⟨name, [], grammar⟩

/-- The same property with prefixes. -/
def withPrefixes (prefixes : List Prefix) (property : Property) : Property :=
  { property with prefixes }

/-- One value for each of four sides; those that are left out follow from the others. -/
def fourOf {α : Type} (grammar : Grammar α) : Grammar (α × α × α × α) := do
  let top ← grammar
  let right ← Grammar.perhaps grammar
  let bottom ← Grammar.perhaps grammar
  let left ← Grammar.perhaps grammar
  let right := right.getD top
  return (top, right, bottom.getD top, left.getD right)

def sides (name : String) (members : List String) (grammar : Grammar Spaced) : Property :=
  several name do
    let (top, right, bottom, left) ← fourOf grammar
    return members.zip [[top], [right], [bottom], [left]]

/-- A property that stands for two others, of which the second is like the first if left out. -/
def pair (name : String) (members : List String) (grammar : Grammar Spaced) : Property :=
  several name do
    let first ← grammar
    let second ← Grammar.perhaps grammar
    return members.zip [[first], [second.getD first]]

/-- Values for four sides, without those that follow from the others. -/
def sidesText (top right bottom left : Spaced) : Spaced :=
  Spaced.words <|
    if left == right then
      if bottom == top then if right == top then [top] else [top, right]
      else [top, right, bottom]
    else [top, right, bottom, left]

def pairText (first second : Spaced) : Spaced :=
  if first == second then first else Spaced.words [first, second]

def joinSides (_ : Targets) : List (List Spaced) → Option Spaced
  | [[top], [right], [bottom], [left]] => some (sidesText top right bottom left)
  | _ => none

def joinPair (_ : Targets) : List (List Spaced) → Option Spaced
  | [[first], [second]] => some (pairText first second)
  | _ => none

def present (words : List Spaced) : Spaced := Spaced.words (words.filter (!·.isEmpty))

def unusual (usual text : Spaced) : Spaced := if text == usual then [] else text

/-- What grammars find in any order, each at most once; `fuel` bounds the rounds. -/
def anyOrderWithin {α : Type} : Nat → List (Grammar α) → List (Option α) → Grammar (List (Option α))
  | 0, _, found => return found
  | fuel + 1, grammars, found => do
    let free := (grammars.zip found).zipIdx.filterMap fun ((grammar, one), index) =>
      if one.isSome then none else some ((fun value => (index, value)) <$> grammar)
    match ← Grammar.perhaps (Grammar.oneOf free) with
    | some (index, value) => anyOrderWithin fuel grammars (found.set index (some value))
    | none => return found

def anyOrder {α : Type} (grammars : List (Grammar α)) : Grammar (List (Option α)) :=
  anyOrderWithin grammars.length grammars (grammars.map fun _ => none)

def someOrder {α : Type} (grammars : List (Grammar α)) : Grammar (List (Option α)) :=
  Grammar.such (anyOrder grammars) fun found => found.any Option.isSome

abbrev plain (content : String) : Spaced := Spaced.ofText content

def numberText (value : Float32) : Spaced := plain (Numeric.text value)

def number : Grammar Spaced := numberText <$> Quantity.numberValue

def integer : Grammar Spaced := (fun value => plain (toString value)) <$> Grammar.integer

def length : Grammar Spaced := Quantity.text <$> Quantity.length

def lengthOrShare : Grammar Spaced := Quantity.text <$> Quantity.lengthOrShare

def sized (words : List String) : Grammar Spaced := Grammar.keyword words <|> lengthOrShare

def numberOrShare : Grammar Spaced :=
  number <|> ((fun share => plain (Numeric.percentage share)) <$> Quantity.shareValue)

def color : Grammar Spaced := Color.spaced

/-- A name of the author's own, in its own letters. -/
def ownName : Grammar Spaced :=
  (plain ∘ Written.name) <$> Grammar.such Grammar.ident fun name =>
    !(["initial", "inherit", "unset", "default", "revert", "revert-layer"].contains name.toLower)

def dashedName : Grammar String := Grammar.such Grammar.ident (·.startsWith "--")

def string : Grammar Spaced := (plain ∘ Written.text) <$> Grammar.string

def twofold (grammar : Grammar Spaced) : Grammar Spaced := do
  let first ← grammar
  let second ← Grammar.perhaps grammar
  return pairText first (second.getD first)

end Property

end StyleInline.Stylesheet
