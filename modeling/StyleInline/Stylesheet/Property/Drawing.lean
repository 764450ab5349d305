import StyleInline.Stylesheet.Property.Background
import StyleInline.Stylesheet.Property.Border
import StyleInline.Stylesheet.Property.Motion

/-!
# Drawing

Colours, filters, paths around what is shown, masks, and how shapes, controls and containers look.
-/

namespace StyleInline.Stylesheet.Property.Drawing

open StyleInline.Stylesheet.Grammar (keyword word perhaps)

/-- The argument of a filter; nothing is written where it is usual. -/
def argument (grammar : Grammar Spaced) (usual : List Spaced) : Grammar Spaced := do
  let found := (← perhaps grammar).getD []
  return if usual.contains found then [] else found

def dropShadow : Grammar Spaced := do
  let lengths : Grammar Spaced := do
    let x ← Quantity.length
    let y ← Quantity.length
    let blur ← perhaps Quantity.length
    return Box.shadowText ([x, y] ++ blur.toList)
  match ← anyOrder [lengths, Box.shadowColor] with
  | [some lengths, color] => return present [lengths, color.getD []]
  | _ => Grammar.fail

def share : Grammar Spaced := argument numberOrShare [plain "1", plain "100%"]

def filter : Grammar Spaced :=
  let called (name : String) (inner : Grammar Spaced) : Grammar Spaced :=
    Spaced.call name <$> Grammar.call name inner
  (Image.addressText <$> address) <|>
  Grammar.oneOf
    ([called "blur" (argument length [plain "0"]),
      called "hue-rotate" (argument Motion.angle [plain "0"]),
      called "drop-shadow" dropShadow] ++
    ["brightness", "contrast", "grayscale", "invert", "opacity", "saturate", "sepia"].map
      (called · share))

def filters : Grammar Spaced :=
  keyword ["none"] <|> (Spaced.joined [.gap] <$> Grammar.atLeastOne filter)

/-- A paint: none, a colour, or an address with a paint for the case that it leads nowhere. -/
def paint : Grammar Spaced :=
  keyword ["none", "context-fill", "context-stroke"] <|> color <|> do
    let found ← Image.addressText <$> address
    let behind ← perhaps (keyword ["none"] <|> color)
    return present [found, behind.getD []]

def dashes : Grammar Spaced :=
  keyword ["none"] <|> do
    let first ← lengthOrShare
    let rest ← Grammar.many (perhaps Grammar.comma *> lengthOrShare)
    return Spaced.words (first :: rest)

def radius : Grammar Spaced := sized ["closest-side", "farthest-side"]

/-- A position behind the word for it; the centre is left out. -/
def positionAt : Grammar Spaced := do
  match ← perhaps Gradient.positionBehindAt with
  | none => return []
  | some found =>
    if found.x.isCenter && found.y.isCenter then return []
    else return plain "at " ++ found.text

def radiusText (found : Option Spaced) : Spaced :=
  unusual (plain "closest-side") (found.getD (plain "closest-side"))

def shape : Grammar Spaced :=
  let called (name : String) (inner : Grammar Spaced) : Grammar Spaced :=
    Spaced.call name <$> Grammar.call name inner
  let circle : Grammar Spaced := do
    let found ← perhaps radius
    return present [radiusText found, ← positionAt]
  let ellipse : Grammar Spaced := do
    let both : Grammar (Spaced × Spaced) := do
      let x ← radius
      return (x, ← radius)
    let side := plain "closest-side"
    let (x, y) := (← perhaps both).getD (side, side)
    let shown := if x == side && y == side then [] else Spaced.words [x, y]
    return present [shown, ← positionAt]
  let inset : Grammar Spaced := do
    let (top, right, bottom, left) ← fourOf lengthOrShare
    let round ← perhaps (word ["round"] *> Border.radius)
    let corners := (round.map fun fields => fields.map Prod.snd).bind (Border.joinRadius [])
    let shown := corners.filter (· != plain "0")
    return present [sidesText top right bottom left,
      (shown.map fun corners => plain "round " ++ corners).getD []]
  let polygon : Grammar Spaced := do
    let rule ← perhaps (keyword ["nonzero", "evenodd"] <* Grammar.comma)
    let points ← Grammar.listed do
      let x ← lengthOrShare
      return Spaced.words [x, ← lengthOrShare]
    return Spaced.listed ((rule.filter (· != plain "nonzero")).toList ++ points)
  Grammar.oneOf [called "circle" circle, called "ellipse" ellipse, called "inset" inset,
    called "polygon" polygon]

def boxes : List String :=
  ["border-box", "padding-box", "content-box", "margin-box", "fill-box", "stroke-box", "view-box"]

def clipPath : Grammar Spaced :=
  keyword ["none"] <|> (Image.addressText <$> address) <|> do
    match ← someOrder [shape, keyword boxes] with
    | [shape, box] =>
      let box := if shape.isSome then box.filter (· != plain "border-box") else box
      return present [shape.getD [], box.getD []]
    | _ => Grammar.fail

def pointerImage : Grammar Spaced := do
  let found ← Image.addressText <$> address
  let tip : Grammar Spaced := do
    let x ← number
    return Spaced.words [x, ← number]
  let tip ← perhaps tip
  Grammar.comma
  return present [found, tip.getD []]

def pointers : List String :=
  ["auto", "default", "none", "context-menu", "help", "pointer", "progress", "wait", "cell",
    "crosshair", "text", "vertical-text", "alias", "copy", "move", "no-drop", "not-allowed",
    "grab", "grabbing", "e-resize", "n-resize", "ne-resize", "nw-resize", "s-resize",
    "se-resize", "sw-resize", "w-resize", "ew-resize", "ns-resize", "nesw-resize",
    "nwse-resize", "col-resize", "row-resize", "all-scroll", "zoom-in", "zoom-out"]

def pointer : Grammar Spaced := do
  let images ← Grammar.many pointerImage
  return Spaced.listed (images ++ [← keyword pointers])

def colorOrAuto : Grammar Spaced := keyword ["auto"] <|> color

def caret : Grammar Spaced := do
  match ← someOrder [color, keyword ["bar", "block", "underscore"], keyword ["auto"],
      keyword ["auto"]] with
  | [found, shape, _, _] =>
    let shown := present [found.getD [], shape.getD []]
    return if shown.isEmpty then plain "auto" else shown
  | _ => Grammar.fail

/-- The look of a control; words that are not known stay as they are. -/
def appearance : Grammar Spaced :=
  keyword ["none", "auto", "textfield", "menulist-button", "button", "checkbox", "listbox",
    "menulist", "meter", "progress-bar", "push-button", "radio", "searchfield",
    "slider-horizontal", "square-button", "textarea"] <|> ((plain ∘ Written.name) <$> Grammar.ident)

def colorScheme : Grammar Spaced :=
  keyword ["normal"] <|> do
    let found ← Grammar.atLeastOne (word ["light", "dark", "only"])
    return Spaced.words ((["light", "dark", "only"].filter found.contains).map plain)

def ownNames : Grammar Spaced :=
  keyword ["none"] <|> (Spaced.words <$> Grammar.atLeastOne ownName)

def containerType : Grammar Spaced := keyword ["normal", "inline-size", "size", "scroll-state"]

def containers : List Property :=
  [single "container-name" ownNames, single "container-type" containerType,
    several "container" do
      let name ← ownNames
      let kind ← perhaps (Grammar.slash *> containerType)
      return [("container-name", [name]), ("container-type", [kind.getD (plain "normal")])]]

def containerBundle : Bundle :=
  let join (_ : Targets) (layers : List (List Spaced)) : Option Spaced :=
    match layers with
    | [[name], [kind]] =>
      some (if kind == plain "normal" then name else name ++ Spaced.slash ++ kind)
    | _ => none
  Bundle.ofSteps (containers.map Property.name)
    [.joined "container" ["container-name", "container-type"] join, .single "container-name",
      .single "container-type"]

def masks : List Property :=
  let box := keyword (boxes.filter (· != "view-box") ++ ["view-box"])
  [(layered "mask-image" Image.orNone).withPrefixes [.webkit],
    layered "mask-mode" (keyword ["luminance", "alpha", "match-source"]),
    (layered "mask-repeat" Background.repetition).withPrefixes [.webkit],
    (layered "mask-position" Background.position).withPrefixes [.webkit],
    (layered "mask-clip" (box <|> keyword ["no-clip"])).withPrefixes [.webkit],
    (layered "mask-origin" box).withPrefixes [.webkit],
    (layered "mask-size" Background.size).withPrefixes [.webkit],
    layered "mask-composite" (keyword ["add", "subtract", "intersect", "exclude"]),
    chosen "mask-type" ["luminance", "alpha"]]

def maskBundle : Bundle :=
  let names := ["mask-image", "mask-position", "mask-size", "mask-repeat", "mask-clip",
    "mask-origin", "mask-composite", "mask-mode"]
  Bundle.ofSteps ("mask" :: names) (names.map Step.single)

def shapes : List Property :=
  let fillRule := ["nonzero", "evenodd"]
  let marker := keyword ["none"] <|> (Image.addressText <$> address)
  [single "fill" paint, chosen "fill-rule" fillRule, single "fill-opacity" Box.opacity,
    single "stroke" paint, single "stroke-opacity" Box.opacity,
    single "stroke-width" lengthOrShare, chosen "stroke-linecap" ["butt", "round", "square"],
    chosen "stroke-linejoin" ["miter", "miter-clip", "round", "bevel", "arcs"],
    single "stroke-miterlimit" number, single "stroke-dasharray" dashes,
    single "stroke-dashoffset" lengthOrShare, single "marker-start" marker,
    single "marker-mid" marker, single "marker-end" marker, single "marker" marker,
    chosen "color-interpolation" ["auto", "srgb", "linearrgb"],
    chosen "color-interpolation-filters" ["auto", "srgb", "linearrgb"],
    chosen "color-rendering" ["auto", "optimizespeed", "optimizequality"],
    chosen "shape-rendering" ["auto", "optimizespeed", "crispedges", "geometricprecision"],
    chosen "text-rendering"
      ["auto", "optimizespeed", "optimizelegibility", "geometricprecision"],
    chosen "image-rendering" ["auto", "optimizespeed", "optimizequality"],
    (single "clip-path" clipPath).withPrefixes [.webkit], chosen "clip-rule" fillRule]

def effects : List Property :=
  [single "color" color, (single "filter" filters).withPrefixes [.webkit],
    (single "backdrop-filter" filters).withPrefixes [.webkit], single "cursor" pointer,
    single "caret-color" colorOrAuto,
    chosen "caret-shape" ["auto", "bar", "block", "underscore"], single "caret" caret,
    (chosen "user-select" ["auto", "text", "none", "contain", "all"]).withPrefixes
      [.webkit, .moz, .ms],
    single "accent-color" colorOrAuto,
    (single "appearance" appearance).withPrefixes [.webkit, .moz, .ms],
    single "color-scheme" colorScheme,
    (chosen "print-color-adjust" ["economy", "exact"]).withPrefixes [.webkit],
    single "view-transition-name" (keyword ["none", "auto"] <|> ownName),
    single "view-transition-class" ownNames,
    single "view-transition-group" (keyword ["normal", "contain", "nearest"] <|> ownName)]

def properties : List Property := containers ++ masks ++ shapes ++ effects

end StyleInline.Stylesheet.Property.Drawing
