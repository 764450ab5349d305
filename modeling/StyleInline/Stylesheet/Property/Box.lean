import StyleInline.Stylesheet.Property

/-!
# Boxes

How large boxes are, where they are placed, how far they keep away from others and what they do
with what does not fit.
-/

namespace StyleInline.Stylesheet.Property.Box

open StyleInline.Stylesheet.Grammar (keyword word perhaps)

/-- The words for sizes that follow from what a box holds or where it stands. -/
def sizeWords : List String :=
  ["min-content", "-webkit-min-content", "-moz-min-content", "max-content", "-webkit-max-content",
    "-moz-max-content", "fit-content", "-webkit-fit-content", "-moz-fit-content", "stretch",
    "-webkit-fill-available", "-moz-available", "contain"]

def size (usual : String) : Grammar Spaced :=
  sized (usual :: sizeWords) <|>
    (Spaced.call "fit-content" <$> Grammar.call "fit-content" lengthOrShare)

def sizeNames : List String :=
  ["width", "min-width", "max-width", "height", "min-height", "max-height", "block-size",
    "min-block-size", "max-block-size", "inline-size", "min-inline-size", "max-inline-size"]

def sizes : List Property :=
  sizeNames.map fun name => single name (size (if name.startsWith "max" then "none" else "auto"))

def sizeBundle : Bundle := Bundle.ofSteps sizeNames (sizeNames.map Step.single)

def physical (before : String) : List String :=
  ["top", "right", "bottom", "left"].map (before ++ ·)

def ends (before axis : String) : List String :=
  [before ++ axis ++ "-start", before ++ axis ++ "-end"]

/-- One property for each side and properties for several sides; `before` stands before the name
of a side. -/
def around (name before : String) (value : Grammar Spaced) : List Property :=
  (physical before ++ ends before "block" ++ ends before "inline").map (single · value) ++
    [pair (before ++ "block") (ends before "block") value,
      pair (before ++ "inline") (ends before "inline") value,
      sides name (physical before) value]

/-- How values for sides are written; targets have to know a feature to see both ends of an axis
as one. -/
def aroundBundle (name before : String) (needed : Option Feature) : Bundle where
  members := physical before ++ ends before "block" ++ ends before "inline" ++
    [before ++ "block", before ++ "inline", name]
  voids declared held := declared == name && !(physical before).contains held
  steps :=
    let singles (names : List String) : List Step := names.map Step.single
    let joinEnds (targets : Targets) (layers : List (List Spaced)) : Option Spaced :=
      if needed.all targets.understand then joinPair targets layers else none
    [.joined name (physical before) joinSides] ++
      singles (["top", "bottom", "left", "right"].map (before ++ ·)) ++
      [.joined (before ++ "block") (ends before "block") joinEnds] ++
      singles (ends before "block") ++
      [.joined (before ++ "inline") (ends before "inline") joinEnds] ++
      singles (ends before "inline")

def distances : List Property :=
  around "margin" "margin-" (sized ["auto"]) ++ around "padding" "padding-" lengthOrShare ++
    around "scroll-margin" "scroll-margin-" (sized ["auto"]) ++
    around "scroll-padding" "scroll-padding-" (sized ["auto"])

def insets : List Property :=
  let value := sized ["auto"]
  (["top", "right", "bottom", "left"] ++ ends "inset-" "block" ++ ends "inset-" "inline").map
      (single · value) ++
    [pair "inset-block" (ends "inset-" "block") value,
      pair "inset-inline" (ends "inset-" "inline") value,
      sides "inset" ["top", "right", "bottom", "left"] value]

def insetBundle : Bundle :=
  let around := aroundBundle "inset" "inset-" (some .inset)
  let joinAll (targets : Targets) (layers : List (List Spaced)) : Option Spaced :=
    if targets.understand .inset then joinSides targets layers else none
  { around with
    members := ["top", "right", "bottom", "left"] ++ around.members
    voids := fun declared held => declared == "inset" && held.startsWith "inset"
    steps := .joined "inset" ["top", "right", "bottom", "left"] joinAll ::
      (["top", "bottom", "left", "right"].map Step.single ++ around.steps.drop 5) }

def overflows : List Property :=
  let value := keyword ["visible", "hidden", "clip", "scroll", "auto"]
  [single "overflow-x" value, single "overflow-y" value,
    pair "overflow" ["overflow-x", "overflow-y"] value]

def overflowBundle : Bundle :=
  let join (targets : Targets) (layers : List (List Spaced)) : Option Spaced :=
    match layers with
    | [[x], [y]] =>
      if x == y || targets.understand .twoOverflows then some (pairText x y) else none
    | _ => none
  Bundle.ofSteps ["overflow", "overflow-x", "overflow-y"]
    [.joined "overflow" ["overflow-x", "overflow-y"] join, .single "overflow-x",
      .single "overflow-y"]

/-- What a box is for the boxes around it, and what it is for those in it. -/
structure DisplayPair where
  outside : String
  inside : String
  isListItem : Bool
  deriving DecidableEq, Repr, Inhabited

def shortDisplays : List (String × String × String) :=
  [("inline-block", "inline", "flow-root"), ("inline-table", "inline", "table"),
    ("inline-flex", "inline", "flex"), ("-webkit-inline-flex", "inline", "-webkit-flex"),
    ("-ms-inline-flexbox", "inline", "-ms-flexbox"),
    ("-webkit-inline-box", "inline", "-webkit-box"),
    ("-moz-inline-box", "inline", "-moz-box"), ("inline-grid", "inline", "grid")]

def insides : List String :=
  ["flow", "flow-root", "table", "flex", "-webkit-flex", "-ms-flexbox", "-webkit-box", "-moz-box",
    "grid", "ruby"]

def displayWords : List String :=
  ["none", "contents", "table-row-group", "table-header-group", "table-footer-group", "table-row",
    "table-cell", "table-column-group", "table-column", "table-caption", "ruby-base", "ruby-text",
    "ruby-base-container", "ruby-text-container"]

def usualOutside (inside : String) : String := if inside == "ruby" then "inline" else "block"

def displayText (pair : DisplayPair) : String :=
  match if pair.isListItem then none else shortDisplays.find? fun (_, outside, inside) =>
      outside == pair.outside && inside == pair.inside with
  | some (short, _) => short
  | none =>
    let outside :=
      if pair.outside != usualOutside pair.inside ||
          (pair.inside == "flow" && !pair.isListItem) then
        [pair.outside]
      else []
    let inside := if pair.inside == "flow" then [] else [pair.inside]
    " ".intercalate (outside ++ inside ++ if pair.isListItem then ["list-item"] else [])

def display : Grammar Spaced :=
  keyword displayWords <|>
  (do
    let short ← word (shortDisplays.map Prod.fst)
    match shortDisplays.lookup short with
    | some (outside, inside) => return plain (displayText ⟨outside, inside, false⟩)
    | none => Grammar.fail) <|>
  (do
    match ← someOrder [word ["list-item"], word ["block", "inline", "run-in"], word insides] with
    | [item, outside, inside] =>
      let inside := inside.getD "flow"
      if item.isSome && !(["flow", "flow-root"].contains inside) then Grammar.fail
      return plain (displayText ⟨outside.getD (usualOutside inside), inside, item.isSome⟩)
    | _ => Grammar.fail)

/-- A ratio of two numbers; the second one is left out if it is one. -/
def ratio : Grammar Spaced := do
  let first ← Quantity.numberValue
  let second ← perhaps (Grammar.slash *> Quantity.numberValue)
  let second := second.getD 1
  return numberText first ++ if second == 1 then [] else Spaced.slash ++ numberText second

def aspectRatio : Grammar Spaced := do
  match ← someOrder [keyword ["auto"], ratio] with
  | [auto, found] => return present [auto.getD [], found.getD []]
  | _ => Grammar.fail

/-- Distances to the right and down, a blur and a spread; what is left out is nothing. -/
def shadowLengths : Grammar (List Quantity) := do
  let x ← Quantity.length
  let y ← Quantity.length
  let blur ← perhaps Quantity.length
  let spread ← perhaps Quantity.length
  let zero : Quantity := .measured .length 0 "px"
  return [x, y, blur.getD zero, spread.getD zero]

def shadowText (lengths : List Quantity) : Spaced :=
  let (offset, others) := (lengths.take 2, lengths.drop 2)
  let needed := (others.reverse.dropWhile Quantity.isZero).reverse
  Spaced.words ((offset ++ needed).map Quantity.text)

/-- A colour, but nothing for the colour of the text. -/
def shadowColor : Grammar Spaced :=
  (fun found => if found == .current then [] else Spaced.ofColor found) <$> Color.grammar

def shadow : Grammar Spaced := do
  match ← anyOrder [keyword ["inset"], shadowText <$> shadowLengths, shadowColor] with
  | [inset, some lengths, color] => return present [inset.getD [], lengths, color.getD []]
  | _ => Grammar.fail

def shadows : Property := (layered "box-shadow" shadow).withPrefixes [.webkit, .moz]

/-- Shadows are written behind others. -/
def shadowBundle : Bundle := Bundle.ofSteps ["box-shadow"] [.single "box-shadow"]

def opacity : Grammar Spaced := numberText <$> Quantity.numberOrShareValue

def properties : List Property :=
  sizes ++ distances ++ insets ++ overflows ++
    [single "display" display, single "aspect-ratio" aspectRatio, shadows,
      chosen "visibility" ["visible", "hidden", "collapse"],
      chosen "position" ["static", "relative", "absolute", "sticky", "-webkit-sticky", "fixed"],
      single "z-index" (keyword ["auto"] <|> integer), single "opacity" opacity,
      (chosen "box-sizing" ["content-box", "border-box"]).withPrefixes [.webkit, .moz],
      (chosen "text-overflow" ["clip", "ellipsis"]).withPrefixes [.o],
      single "border-spacing" (twofold length),
      chosen "resize" ["none", "both", "horizontal", "vertical", "block", "inline"]]

end StyleInline.Stylesheet.Property.Box
