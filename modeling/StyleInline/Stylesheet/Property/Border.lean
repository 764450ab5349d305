import StyleInline.Stylesheet.Property.Box

/-!
# Borders

A border has a width, a style and a colour on each side.  Where the sides agree they are written
as one, and where only one side or one of the three differs, that is written behind.  Borders may
have images and round corners.
-/

namespace StyleInline.Stylesheet.Property.Border

open StyleInline.Stylesheet.Grammar (keyword perhaps)
open StyleInline.Stylesheet.Property.Box (ends)

def lineStyles : List String :=
  ["none", "hidden", "inset", "groove", "outset", "ridge", "dotted", "dashed", "solid", "double"]

def style : Grammar Spaced := keyword lineStyles

def width : Grammar Spaced := keyword ["thin", "medium", "thick"] <|> length

structure Line where
  width : Spaced
  style : Spaced
  color : Spaced
  deriving BEq, Repr, Inhabited

namespace Line

def usual : Line := ⟨plain "medium", plain "none", Spaced.ofColor .current⟩

/-- A line as it is written, without what is usual. -/
def text (line : Line) : Spaced :=
  if line == usual then line.style
  else
    present [unusual usual.width line.width, unusual usual.style line.style,
      unusual usual.color line.color]

/-- A line, of which at least one thing is said. -/
def grammar (style : Grammar Spaced) : Grammar Line := do
  match ← someOrder [Border.width, style, Property.color] with
  | [width, style, color] =>
    return ⟨width.getD usual.width, style.getD usual.style, color.getD usual.color⟩
  | _ => Grammar.fail

end Line

def aspects : List String := ["width", "style", "color"]

def sideNames : List String := ["border-top", "border-right", "border-bottom", "border-left"]

def aspectGrammar (aspect : String) : Grammar Spaced :=
  if aspect == "width" then width else if aspect == "style" then style else color

def lineFields (side : String) (line : Line) : Fields :=
  [(side ++ "-width", [line.width]), (side ++ "-style", [line.style]),
    (side ++ "-color", [line.color])]

def lineOf (name : String) (sides : List String) : Property :=
  several name ((fun line => sides.flatMap (lineFields · line)) <$> Line.grammar style)

def allSides : List String := sideNames ++ ends "border-" "block" ++ ends "border-" "inline"

def lines : List Property :=
  (aspects.flatMap fun aspect =>
    let value := aspectGrammar aspect
    let named (sides : List String) : List String := sides.map (· ++ "-" ++ aspect)
    (named allSides).map (single · value) ++
      [sides ("border-" ++ aspect) (named sideNames) value,
        pair ("border-block-" ++ aspect) (named (ends "border-" "block")) value,
        pair ("border-inline-" ++ aspect) (named (ends "border-" "inline")) value]) ++
  allSides.map (fun side => lineOf side [side]) ++
  [lineOf "border" sideNames, lineOf "border-block" (ends "border-" "block"),
    lineOf "border-inline" (ends "border-" "inline")]

structure Side where
  name : String
  width : Option Spaced
  style : Option Spaced
  color : Option Spaced
  deriving BEq, Repr, Inhabited

namespace Side

def ofHeld (all : List Held) (name : String) : Side :=
  let value (aspect : String) : Option Spaced := Held.first? (name ++ "-" ++ aspect) all
  ⟨name, value "width", value "style", value "color"⟩

def line? (side : Side) : Option Line := do
  return ⟨← side.width, ← side.style, ← side.color⟩

end Side

def declare (name : String) (value : Spaced) (fields : Fields) : Declaration :=
  ⟨name, [.plain], value, fields, false⟩

def declareLine (side : String) (line : Line) : Declaration :=
  declare side line.text (lineFields side line)

def declareAll (line : Line) : Declaration :=
  declare "border" line.text (sideNames.flatMap (lineFields · line))

def declareAspect (side aspect : String) (value : Spaced) : Declaration :=
  let name := side ++ "-" ++ aspect
  declare name value [(name, [value])]

/-- What must be said of a side if all sides have the line `base` so far. -/
def difference (base : Line) (side : String) (line : Line) : Declaration :=
  let sameWidth := base.width == line.width
  let sameStyle := base.style == line.style
  let sameColor := base.color == line.color
  if sameWidth && sameStyle then declareAspect side "color" line.color
  else if sameWidth && sameColor then declareAspect side "style" line.style
  else if sameStyle && sameColor then declareAspect side "width" line.width
  else declareLine side line

def declareSides (aspect : String) (top right bottom left : Spaced) : Declaration :=
  declare ("border-" ++ aspect) (sidesText top right bottom left)
    ((sideNames.map (· ++ "-" ++ aspect)).zip [[top], [right], [bottom], [left]])

def writeLines (top right bottom left : Line) : List Declaration :=
  let all := [top, right, bottom, left]
  let agree (aspect : Line → Spaced) : Bool := all.all fun line => aspect line == aspect top
  let aspect (name : String) (value : Line → Spaced) : Declaration :=
    declareSides name (value top) (value right) (value bottom) (value left)
  let differing (base : Line) (isOtherwiseBase : Bool) (others : List Declaration) :
      List Declaration :=
    if agree Line.color && agree Line.style then [declareAll base, aspect "width" Line.width]
    else if agree Line.width && agree Line.style then [declareAll base, aspect "color" Line.color]
    else if agree Line.width && agree Line.color then [declareAll base, aspect "style" Line.style]
    else if isOtherwiseBase then declareAll base :: others
    else others
  let (topName, rightName, bottomName, leftName) :=
    ("border-top", "border-right", "border-bottom", "border-left")
  if top == bottom && top == left && top == right then [declareAll top]
  else if top == bottom && top == left then [declareAll top, difference top rightName right]
  else if top == bottom && top == right then [declareAll top, difference top leftName left]
  else if left == right && bottom == left then [declareAll left, difference left topName top]
  else if left == right && top == left then [declareAll left, difference left bottomName bottom]
  else if top == bottom then
    differing top true [difference top leftName left, difference top rightName right]
  else if left == right then
    differing left true [difference left topName top, difference left bottomName bottom]
  else if bottom == right then
    differing bottom true [difference bottom topName top, difference bottom leftName left]
  else
    differing top false [declareLine topName top, declareLine bottomName bottom,
      declareLine leftName left, declareLine rightName right]

def writeSide (side : Side) : List Declaration :=
  match side.line? with
  | some line => [declareLine side.name line]
  | none =>
    let one (aspect : String) (value : Option Spaced) : List Declaration :=
      (value.map (declareAspect side.name aspect)).toList
    one "style" side.style ++ one "width" side.width ++ one "color" side.color

/-- An aspect of all four sides, and the sides without it. -/
def takeAspect (aspect : String) (value : Side → Option Spaced) (without : Side → Side)
    (sides : List Side) : List Declaration × List Side :=
  match sides.mapM value with
  | some [top, right, bottom, left] =>
    ([declareSides aspect top right bottom left], sides.map without)
  | _ => ([], sides)

def writePhysical (_ : Targets) (all : List Held) : List Declaration × List Held :=
  let sides := sideNames.map (Side.ofHeld all)
  let left := Held.without (sideNames.flatMap fun side => aspects.map (side ++ "-" ++ ·)) all
  match sides.mapM Side.line? with
  | some [top, right, bottom, left'] => (writeLines top right bottom left', left)
  | _ =>
    let (styles, sides) := takeAspect "style" Side.style ({ · with style := none }) sides
    let (widths, sides) := takeAspect "width" Side.width ({ · with width := none }) sides
    let (colors, sides) := takeAspect "color" Side.color ({ · with color := none }) sides
    let inOrder (names : List String) : List Side :=
      names.filterMap fun name => sides.find? (·.name == name)
    let order := ["border-top", "border-bottom", "border-left", "border-right"]
    (styles ++ widths ++ colors ++ (inOrder order).flatMap writeSide, left)

def writeEnds (axis : String) (targets : Targets) (all : List Held) :
    List Declaration × List Held :=
  let names := ends "border-" axis
  let sides := names.map (Side.ofHeld all)
  let left := Held.without (names.flatMap fun side => aspects.map (side ++ "-" ++ ·)) all
  let whole := "border-" ++ axis
  match sides.map Side.line? with
  | [some start, some stop] =>
    if start == stop && targets.understand .logicalPairs then
      ([declare whole start.text (names.flatMap (lineFields · start))], left)
    else (sides.flatMap writeSide, left)
  | [none, none] =>
    let one (aspect : String) (value : Side → Option Spaced) : List Declaration :=
      match sides.map value with
      | [some start, some stop] =>
        if targets.understand .logicalPairs then
          [declare (whole ++ "-" ++ aspect) (pairText start stop)
            ((names.map (· ++ "-" ++ aspect)).zip [[start], [stop]])]
        else names.zip [start, stop] |>.map fun (name, value) => declareAspect name aspect value
      | values => (names.zip values).flatMap fun (name, value) =>
          (value.map (declareAspect name aspect)).toList
    (one "style" Side.style ++ one "width" Side.width ++ one "color" Side.color, left)
  | _ => (sides.flatMap writeSide, left)

def imageNames : List String :=
  ["border-image-source", "border-image-slice", "border-image-width", "border-image-outset",
    "border-image-repeat"]

def foursome (grammar : Grammar Spaced) : Grammar Spaced :=
  (fun (top, right, bottom, left) => sidesText top right bottom left) <$> fourOf grammar

def slice : Grammar Spaced := do
  let before ← perhaps (keyword ["fill"])
  let cuts ← foursome numberOrShare
  let behind ← if before.isSome then pure none else perhaps (keyword ["fill"])
  return present [cuts, (before.orElse fun _ => behind).getD []]

/-- How wide the pieces of an image are; a number counts widths of the border. -/
def imageWidth : Grammar Spaced := foursome (number <|> sized ["auto"])

def outset : Grammar Spaced := foursome (number <|> length)

def imageRepeat : Grammar Spaced := twofold (keyword ["stretch", "repeat", "round", "space"])

def cut : Grammar (List Spaced) := do
  let slice ← slice
  let behind : Grammar (Option Spaced × Option Spaced) := do
    Grammar.slash
    let width ← perhaps imageWidth
    let outset ← perhaps (Grammar.slash *> outset)
    return (width, outset)
  let (width, outset) := (← perhaps behind).getD (none, none)
  return [slice, width.getD (plain "1"), outset.getD (plain "0")]

def image : Property :=
  let value : Grammar Fields := do
    let one (grammar : Grammar Spaced) : Grammar (List Spaced) := (fun found => [found]) <$> grammar
    match ← someOrder [cut, one Image.orNone, one imageRepeat] with
    | [cut, source, mode] =>
      let cut := cut.getD [plain "100%", plain "1", plain "0"]
      return imageNames.zip
        (([source.getD [plain "none"]] ++ [cut, mode.getD [plain "stretch"]]).flatten.map ([·]))
    | _ => Grammar.fail
  (several "border-image" value).withPrefixes [.webkit, .moz, .o]

def joinImage (_ : Targets) : List (List Spaced) → Option Spaced
  | [[source], [slice], [width], [outset], [mode]] =>
    let hasWidth := width != plain "1"
    let hasOutset := outset != plain "0"
    let cut :=
      if slice == plain "100%" && !hasWidth && !hasOutset then []
      else slice ++ (if hasWidth || hasOutset then Spaced.slash else []) ++
        (if hasWidth then width else []) ++ if hasOutset then Spaced.slash ++ outset else []
    let shown := present [unusual (plain "none") source, cut, unusual (plain "stretch") mode]
    some (if shown.isEmpty then plain "none" else shown)
  | _ => none

def images : List Property :=
  [single "border-image-source" Image.orNone, single "border-image-slice" slice,
    single "border-image-width" imageWidth, single "border-image-outset" outset,
    single "border-image-repeat" imageRepeat, image]

def corners : List String :=
  ["border-top-left-radius", "border-top-right-radius", "border-bottom-right-radius",
    "border-bottom-left-radius"]

def logicalCorners : List String :=
  ["border-start-start-radius", "border-start-end-radius", "border-end-start-radius",
    "border-end-end-radius"]

/-- The radius of all corners: those along the lines and, behind a slash, those across. -/
def radius : Grammar Fields := do
  let (a, b, c, d) ← fourOf lengthOrShare
  let (a', b', c', d') := (← perhaps (Grammar.slash *> fourOf lengthOrShare)).getD (a, b, c, d)
  return corners.zip [[pairText a a'], [pairText b b'], [pairText c c'], [pairText d d']]

def radiiOf (corner : Spaced) : Spaced × Spaced :=
  match corner.span (· != .text " ") with
  | (whole, []) => (whole, whole)
  | (first, _ :: second) => (first, second)

def joinRadius (_ : Targets) : List (List Spaced) → Option Spaced
  | [[a], [b], [c], [d]] =>
    let ((a, a'), (b, b'), (c, c'), (d, d')) := (radiiOf a, radiiOf b, radiiOf c, radiiOf d)
    let along := sidesText a b c d
    let across := sidesText a' b' c' d'
    some (if along == across then along else along ++ Spaced.slash ++ across)
  | _ => none

def radii : List Property :=
  (corners.map fun name => (single name (twofold lengthOrShare)).withPrefixes [.webkit, .moz]) ++
    logicalCorners.map (single · (twofold lengthOrShare)) ++
    [(several "border-radius" radius).withPrefixes [.webkit, .moz]]

def radiusBundle : Bundle where
  members := "border-radius" :: corners ++ logicalCorners
  voids declared held := declared == "border-radius" && logicalCorners.contains held
  steps :=
    .joined "border-radius" corners joinRadius ::
      (["border-top-left-radius", "border-top-right-radius", "border-bottom-left-radius",
        "border-bottom-right-radius"] ++ logicalCorners).map Step.single

/-- A declaration of lines makes others void: those along the direction of the text, and images. -/
def voids (declared held : String) : Bool :=
  let isLogical :=
    (ends "border-" "block" ++ ends "border-" "inline").any fun side => held.startsWith side
  if declared == "border" then isLogical || imageNames.contains held
  else
    aspects.any fun aspect =>
      declared == "border-" ++ aspect && isLogical && held.endsWith ("-" ++ aspect)

/-- Lines and their images are written together. -/
def bundle : Bundle where
  members := (lines ++ images).map Property.name
  voids := voids
  steps :=
    [.free writePhysical, .free (writeEnds "block"), .free (writeEnds "inline"),
      .joined "border-image" imageNames joinImage] ++ imageNames.map Step.single

def outlineNames : List String := ["outline-width", "outline-style", "outline-color"]

def outlineStyle : Grammar Spaced := keyword ("auto" :: lineStyles)

def outlines : List Property :=
  [single "outline-width" width, single "outline-style" outlineStyle, single "outline-color" color,
    several "outline" ((lineFields "outline") <$> Line.grammar outlineStyle)]

def outlineBundle : Bundle :=
  let join (_ : Targets) (layers : List (List Spaced)) : Option Spaced :=
    match layers with
    | [[width], [style], [color]] => some (Line.text ⟨width, style, color⟩)
    | _ => none
  Bundle.ofSteps ("outline" :: outlineNames)
    (.joined "outline" outlineNames join :: outlineNames.map Step.single)

def properties : List Property := lines ++ images ++ radii ++ outlines

end StyleInline.Stylesheet.Property.Border
