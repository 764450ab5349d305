import StyleInline.Stylesheet.ColorFunction
import StyleInline.Stylesheet.Position

/-!
# Images

An image is an address, a gradient between colours or a choice of images for several resolutions.
-/

namespace StyleInline.Stylesheet

def address : Grammar String := Grammar.mapped Grammar.next fun
  | .leaf ⟨.url value, _⟩ => some value
  | .block ⟨.function name, _⟩ inner _ =>
    if name.toLower != "url" then none
    else
      match Part.trimmed inner with
      | [.leaf ⟨.text value, _⟩] => some value
      | _ => none
  | _ => none

inductive GradientItem where
  | stop (color : Color) (position : Option Quantity)
  | hint (position : Quantity)
  deriving BEq, Repr, Inhabited

inductive LineDirection where
  | angle (angle : Quantity)
  | horizontal (isLeft : Bool)
  | vertical (isTop : Bool)
  | corner (isLeft isTop : Bool)
  deriving BEq, Repr, Inhabited

namespace Gradient

open StyleInline.Stylesheet.Grammar (perhaps word oneOf comma)
open StyleInline.Stylesheet.Coordinate (horizontal vertical sideOf sideText)

/-- The items of one piece between commas; behind a stop there may be a hint. -/
def itemsOf (place : Grammar Quantity) (isBehindStop : Bool) : Grammar (List GradientItem) :=
  (if isBehindStop then (fun hint => [.hint hint]) <$> place else Grammar.fail) <|> do
    let color ← Color.grammar
    match ← Grammar.many place with
    | [] => return [.stop color none]
    | [only] => return [.stop color (some only)]
    | [first, second] => return [.stop color (some first), .stop color (some second)]
    | _ => Grammar.fail

/-- The items between the commas of parts; `isBehindStop` tells that a hint may come first. -/
def itemsWithin (place : Grammar Quantity) :
    Bool → List (List Part × Option Place) → Option (List GradientItem)
  | _, [] => some []
  | isBehindStop, (parts, _) :: rest => do
    let found ← (itemsOf place isBehindStop).whole? parts
    let isStop := found.any fun item =>
      match item with
      | .stop _ _ => true
      | .hint _ => false
    return found ++ (← itemsWithin place isStop rest)

def items (place : Grammar Quantity) : Grammar (List GradientItem) := do
  let parts ← Grammar.rest
  match itemsWithin place false (Part.splitAt .comma parts) with
  | some found => return found
  | none => Grammar.fail

def itemText : GradientItem → Spaced
  | .stop color none => Spaced.ofColor color
  | .stop color (some position) => Spaced.words [Spaced.ofColor color, position.text]
  | .hint position => position.text

/-- Items behind `last`; two places of one colour are written behind it. -/
def itemsBehind (last : Option GradientItem) : List GradientItem → Spaced
  | [] => []
  | item :: rest =>
    let comma := if last.isNone then [] else Spaced.comma
    match last, item with
    | some (.stop before (some _)), .stop color (some position) =>
      if before == color then
        [.choice .doubleStops (Spaced.blank ++ position.text) (comma ++ itemText item)] ++
          itemsBehind (some (.hint position)) rest
      else comma ++ itemText item ++ itemsBehind (some item) rest
    | _, item => comma ++ itemText item ++ itemsBehind (some item) rest

/-- Items as they are written, without hints that change nothing. -/
def itemsText (items : List GradientItem) : Spaced :=
  itemsBehind none (items.filter (· != .hint (.percentage 0.5)))

/-- A direction; with a prefix it says where the line starts. -/
def direction (isPrefixed : Bool) : Grammar LineDirection :=
  (.angle <$> Quantity.angleOrZero) <|> do
    if !isPrefixed then let _ ← word ["to"]
    (do
      let isLeft ← sideOf horizontal
      match ← perhaps (sideOf vertical) with
      | some isTop => return .corner isLeft isTop
      | none => return .horizontal isLeft) <|>
    (do
      let isTop ← sideOf vertical
      match ← perhaps (sideOf horizontal) with
      | some isLeft => return .corner isLeft isTop
      | none => return .vertical isTop)

def directionText (isPrefixed : Bool) : LineDirection → Spaced
  | .angle angle => angle.text
  | .horizontal isLeft =>
    [.either (towards ++ if isLeft then "left" else "right") (if isLeft then "270deg" else "90deg")]
  | .vertical isTop =>
    [.either (towards ++ if isTop then "top" else "bottom") (if isTop then "0deg" else "180deg")]
  | .corner isLeft isTop =>
    .text towards :: Spaced.words [sideText horizontal isLeft, sideText vertical isTop]
where
  towards : String := if isPrefixed then "" else "to "

/-- The degrees of a direction that is no corner and no side. -/
def degreesOf? : LineDirection → Option Float32
  | .vertical isTop => some (if isTop then 0 else 180)
  | .angle (.measured .angle value unit) => some (Quantity.degrees value unit)
  | _ => none

/-- An item seen from the other end, if its place is a share of the way. -/
def flipped? : GradientItem → Option GradientItem
  | .stop color none => some (.stop color none)
  | .stop color (some (.percentage share)) => some (.stop color (some (.percentage (1 - share))))
  | .hint (.percentage share) => some (.hint (.percentage (1 - share)))
  | _ => none

def lineText (isPrefixed : Bool) (direction : LineDirection) (items : List GradientItem) : Spaced :=
  let straight := directionText isPrefixed direction ++ Spaced.comma ++ itemsText items
  if degreesOf? direction == some 180 then itemsText items
  else if degreesOf? direction == some 0 then
    match items.reverse.mapM flipped? with
    | some flipped => [.fitted straight (itemsText flipped)]
    | none => straight
  else straight

def line (isPrefixed : Bool) : Grammar Spaced := do
  match ← perhaps (direction isPrefixed <* comma) with
  | some direction => return lineText isPrefixed direction (← items Quantity.lengthOrShare)
  | none => return lineText isPrefixed (.vertical false) (← items Quantity.lengthOrShare)

def extents : List String := ["closest-side", "farthest-side", "closest-corner", "farthest-corner"]

def usualExtent : String := "farthest-corner"

/-- A reach as it is written; nothing is written for the usual one. -/
def extentText (extent : String) : Spaced :=
  if extent == usualExtent then [] else Spaced.ofText extent

def radii : Grammar Spaced := do
  let x ← Quantity.lengthOrShare
  let y ← Quantity.lengthOrShare
  return Spaced.words [x.text, y.text]

def ellipse : Grammar Spaced :=
  (do
    let extent ← word extents
    if (← perhaps (word ["circle"])).isSome then Grammar.fail
    let _ ← perhaps (word ["ellipse"])
    return extentText extent) <|>
  (radii <* perhaps (word ["ellipse"])) <|>
  (word ["ellipse"] *> ((extentText <$> word extents) <|> radii <|> pure []))

def circleText (extent : String) : Spaced :=
  Spaced.ofText (if extent == usualExtent then "circle" else "circle " ++ extent)

def circle : Grammar Spaced :=
  (circleText <$> word extents <* word ["circle"]) <|>
  (Quantity.text <$> Quantity.length <* perhaps (word ["circle"])) <|>
  (word ["circle"] *>
    ((circleText <$> word extents) <|> (Quantity.text <$> Quantity.length) <|>
      pure (circleText usualExtent)))

def positionBehindAt : Grammar Position := word ["at"] *> Position.grammar

def headText (shape : Spaced) (position : Option Position) : Spaced :=
  let placed :=
    match position with
    | none => []
    | some position =>
      if position.x.isCenter && position.y.isCenter then []
      else Spaced.ofText "at " ++ position.text
  match shape.isEmpty, placed.isEmpty with
  | true, true => []
  | true, false => placed ++ Spaced.comma
  | false, true => shape ++ Spaced.comma
  | false, false => Spaced.words [shape, placed] ++ Spaced.comma

def headed (shape : Grammar Spaced) : Grammar Spaced := do
  let shape ← perhaps shape
  let position ← perhaps positionBehindAt
  if shape.isSome || position.isSome then comma
  return headText (shape.getD []) position

def radial : Grammar Spaced := do
  let head ← headed (ellipse <|> circle)
  return head ++ itemsText (← items Quantity.lengthOrShare)

def conic : Grammar Spaced := do
  let start : Grammar Spaced := do
    let _ ← word ["from"]
    let angle ← Quantity.angleOrZero
    return if angle.isZero then [] else Spaced.ofText "from " ++ angle.text
  let head ← headed start
  return head ++ itemsText (← items Quantity.angleOrShare)

def prefixes : List String := ["", "-webkit-", "-moz-", "-o-"]

def grammar : Grammar Spaced :=
  let called (name : String) (inner : Grammar Spaced) : Grammar Spaced :=
    Spaced.call name <$> Grammar.call name inner
  oneOf ((prefixes.flatMap fun before =>
      [called (before ++ "linear-gradient") (line (!before.isEmpty)),
        called (before ++ "repeating-linear-gradient") (line (!before.isEmpty)),
        called (before ++ "radial-gradient") radial,
        called (before ++ "repeating-radial-gradient") radial]) ++
    [called "conic-gradient" conic, called "repeating-conic-gradient" conic])

end Gradient

namespace Image

open StyleInline.Stylesheet.Grammar (perhaps oneOf)

def addressText (value : String) : Spaced := [Written.address value]

def plain : Grammar Spaced := (addressText <$> address) <|> Gradient.grammar

/-- One of the images of a choice; a resolution in dots has its short name. -/
def candidate (isPrefixed : Bool) : Grammar Spaced := do
  let named : Grammar Spaced := (Spaced.ofText ∘ Written.text) <$> Grammar.string
  let image ←
    if isPrefixed then plain <|> (addressText <$> Grammar.string)
    else named <|> ((Spaced.ofText ∘ Written.text) <$> address) <|> plain
  let resolution : Grammar Spaced := do
    match ← Quantity.resolution with
    | .measured _ value unit =>
      let unit := if unit == "dppx" then "x" else unit
      return Spaced.ofText (Numeric.dimension value unit)
    | _ => Grammar.fail
  let kind : Grammar Spaced := Grammar.call "type" named
  let before ← perhaps kind
  let size ← perhaps resolution
  let kind ← if before.isSome then pure before else perhaps kind
  let shownKind := (kind.map (Spaced.call "type")).toList
  return Spaced.words ([image, size.getD (Spaced.ofText "1x")] ++ shownKind)

def choice (name : String) (isPrefixed : Bool) : Grammar Spaced :=
  (fun all => Spaced.call name (Spaced.listed all)) <$>
    Grammar.call name (Grammar.listed (candidate isPrefixed))

def grammar : Grammar Spaced :=
  oneOf [plain, choice "image-set" false, choice "-webkit-image-set" true]

def orNone : Grammar Spaced := Grammar.keyword ["none"] <|> grammar

end Image

end StyleInline.Stylesheet
