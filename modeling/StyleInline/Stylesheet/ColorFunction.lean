import StyleInline.Stylesheet.Quantity

/-!
# Colour functions

Colours that are written as functions of their channels.  A colour may take its channels from
another one, or be a mixture of two.
-/

namespace StyleInline.Stylesheet

namespace Number

def ofSingle (value : Float32) : Number :=
  let (digits, exponent) := Text.Shortest.singleDecimal value
  ⟨if Text.Shortest.isNegativeSingle value then some '-' else none, Nat.toDigits 10 digits, [],
    some exponent⟩

end Number

namespace Color

open Grammar

def bounded (low high value : Float32) : Float32 :=
  if value < low then low else if high < value then high else value

def positive (value : Float32) : Float32 := if value < 0 then 0 else value

/-- A number, or a percentage of a certain number. -/
def scaled (full : Float32) : Grammar Float32 :=
  Quantity.numberValue <|> ((· * full) <$> Quantity.shareValue)

def maybe (channel : Grammar Float32) : Grammar (Option Float32) :=
  (word ["none"] *> pure none) <|> (some <$> channel)

/-- The opacity behind a slash, if there is one; it may be missing. -/
def alphaBehindSlash : Grammar (Option Float32) := do
  match ← perhaps (slash *> maybe (scaled 1)) with
  | some alpha => return alpha.map (bounded 0 1)
  | none => return some 1

def alphaBehindComma : Grammar Float32 := do
  match ← perhaps (comma *> scaled 1) with
  | some alpha => return bounded 0 1 alpha
  | none => return 1

/-- A colour of a space that has bytes if nothing is missing. -/
def ofMaybe (space : ColorSpace) (channels : Option Float32 × Option Float32 × Option Float32)
    (alpha : Option Float32) : Color :=
  match channels, alpha with
  | (some a, some b, some c), some alpha =>
    .usual (Channels.ofShares (ColorSpace.convert space .rgb (a, b, c)) alpha)
  | channels, alpha => .other ⟨space, channels, alpha⟩

def byteNumber : Grammar Float32 :=
  (fun value => bounded 0 255 value.round / 255) <$> Quantity.numberValue

def byteShare : Grammar Float32 :=
  (fun share => bounded 0 255 (share * 255).round / 255) <$> Quantity.shareValue

/-- Red, green and blue; commas may stand between them unless they come from another colour. -/
def rgb (isRelative : Bool) : Grammar Color := do
  let listedBy (channel : Grammar Float32) : Grammar Color := do
    let red ← channel
    comma
    let green ← channel
    comma
    let blue ← channel
    return .usual (Channels.ofShares (red, green, blue) (← alphaBehindComma))
  let spaced : Grammar Color := do
    let channel := maybe (byteNumber <|> byteShare)
    let red ← channel
    let green ← channel
    let blue ← channel
    return ofMaybe .rgb (red, green, blue) (← alphaBehindSlash)
  (if isRelative then fail else toEnd (listedBy byteNumber) <|> toEnd (listedBy byteShare)) <|>
    toEnd spaced

def hue : Grammar Float32 :=
  mapped Quantity.angle (fun
    | .measured _ value unit => some (Quantity.degrees value unit)
    | _ => none) <|> Quantity.numberValue

def part : Grammar Float32 := (fun value => bounded 0 100 value / 100) <$> scaled 100

def hsl (isRelative : Bool) : Grammar Color := do
  let withCommas : Grammar Color := do
    let degrees ← hue
    comma
    let saturation ← part
    comma
    let lightness ← part
    return ofMaybe .hsl (some degrees, some saturation, some lightness)
      (some (← alphaBehindComma))
  let spaced : Grammar Color := do
    let degrees ← maybe hue
    let saturation ← maybe part
    let lightness ← maybe part
    return ofMaybe .hsl (degrees, saturation, lightness) (← alphaBehindSlash)
  (if isRelative then fail else toEnd withCommas) <|> toEnd spaced

def hwb : Grammar Color := do
  let degrees ← maybe hue
  let white ← maybe part
  let black ← maybe part
  return ofMaybe .hwb (degrees, white, black) (← alphaBehindSlash)

/-- The lightness of a colour as a share; `full` is the number for all light. -/
def lightness (full : Float32) : Grammar (Option Float32) :=
  maybe ((fun value => positive value / full) <$> scaled full)

/-- A colour of a space with two axes. -/
def onAxes (space : ColorSpace) (fullLight fullAxis : Float32) : Grammar Color := do
  let light ← lightness fullLight
  let a ← maybe (scaled fullAxis)
  let b ← maybe (scaled fullAxis)
  return .other ⟨space, (light, a, b), ← alphaBehindSlash⟩

/-- A colour of a space with a chroma and a hue. -/
def onCircle (space : ColorSpace) (fullLight fullChroma : Float32) : Grammar Color := do
  let light ← lightness fullLight
  let chroma ← maybe (positive <$> scaled fullChroma)
  let degrees ← maybe hue
  return .other ⟨space, (light, chroma, degrees), ← alphaBehindSlash⟩

def space (names : List String) : Grammar ColorSpace :=
  mapped (word names) fun name => ColorSpace.named.lookup name

def namedSpaces : List String :=
  ["srgb", "srgb-linear", "display-p3", "a98-rgb", "prophoto-rgb", "rec2020", "xyz", "xyz-d50",
    "xyz-d65"]

def inSpace (space : ColorSpace) : Grammar Color := do
  let channel := maybe (scaled 1)
  let first ← channel
  let second ← channel
  let third ← channel
  return .other ⟨space, (first, second, third), ← alphaBehindSlash⟩

def shade? : Color → Option Shade
  | .usual bytes => some (Shade.ofBytes bytes)
  | .other shade => some shade
  | _ => none

def channelNames : ColorSpace → List (String × Float32)
  | .hsl => [("h", 1), ("s", 100), ("l", 100)]
  | .hwb => [("h", 1), ("w", 100), ("b", 100)]
  | .lab => [("l", 100), ("a", 1), ("b", 1)]
  | .oklab => [("l", 1), ("a", 1), ("b", 1)]
  | .lch => [("l", 100), ("c", 1), ("h", 1)]
  | .oklch => [("l", 1), ("c", 1), ("h", 1)]
  | .warm | .daylight => [("x", 1), ("y", 1), ("z", 1)]
  | .rgb => [("r", 255), ("g", 255), ("b", 255)]
  | _ => [("r", 1), ("g", 1), ("b", 1)]

def valuesIn (space : ColorSpace) (shade : Shade) : List (String × Float32) :=
  let found := (shade.convert space).settled
  let (a, b, c) := if space == .rgb then ColorSpace.fitted found else found
  ((channelNames space).zip [a, b, c]).map (fun ((name, full), value) => (name, value * full)) ++
    [("alpha", shade.alpha.getD 0)]

def named (values : List (String × Float32)) : List Part → List Part
  | [] => []
  | .leaf ⟨.ident name, place⟩ :: rest =>
    let token : Token :=
      match values.lookup name.toLower with
      | some value => .number (Number.ofSingle value)
      | none => .ident name
    .leaf ⟨token, place⟩ :: named values rest
  | .leaf placed :: rest => .leaf placed :: named values rest
  | .block opening inner stop :: rest =>
    .block opening (named values inner) stop :: named values rest

/-- What a grammar gives where the channels of an other colour have names. -/
def behindOrigin (origin : Color) (space : ColorSpace) (inner : Grammar Color) : Grammar Color :=
  fun parts =>
    let one (shade : Shade) : Option (Color × List Part) :=
      inner (named (valuesIn space shade) parts)
    match origin with
    | .lightDark light dark => do
      let (light, rest) ← one (← shade? light)
      let (dark, _) ← one (← shade? dark)
      return (.lightDark light dark, rest)
    | origin => (shade? origin).bind one

def plainShare : Grammar Float32 := leaf fun
  | .percentage value => some (bounded 0 1 (value.double / 100).toFloat32)
  | _ => none

def mixShares : Option Float32 → Option Float32 → Float32 × Float32
  | none, none => (0.5, 0.5)
  | some first, none => (first, 1 - first)
  | none, some second => (1 - second, second)
  | some first, some second => (first, second)

def mixed (space : ColorSpace) (way : HueWay) (shares : Float32 × Float32)
    (first second : Color) : Option Color :=
  let total := shares.1 + shares.2
  let one (first second : Color) : Option Color := do
    let (first, second) := ((← shade? first).entered space, (← shade? second).entered space)
    return .other (Shade.mixed way first second (shares.1 / total, shares.2 / total)
      (if total < 1 then total else 1))
  match first, second with
  | .lightDark a b, .lightDark c d => do return .lightDark (← one a c) (← one b d)
  | .lightDark a b, second => do return .lightDark (← one a second) (← one b second)
  | first, .lightDark c d => do return .lightDark (← one first c) (← one first d)
  | first, second => one first second

def mixSpaces : List String :=
  ["srgb", "srgb-linear", "lab", "oklab", "xyz", "xyz-d50", "xyz-d65", "hsl", "hwb", "lch",
    "oklch"]

def mixMethod : Grammar (ColorSpace × HueWay) := do
  let _ ← word ["in"]
  let space ← space mixSpaces
  let way : Grammar HueWay :=
    if space.huePlace?.isNone then fail
    else mapped (word (HueWay.words.map Prod.fst)) (List.lookup · HueWay.words)
  let way ← perhaps (way <* word ["hue"])
  return (if space == .srgb then .rgb else space, way.getD .shorter)

mutual

/-- A colour; `fuel` bounds how deep colours stand inside others. -/
def within : Nat → Grammar Color
  | 0 => fail
  | fuel + 1 =>
    let given (name : String) (space : ColorSpace) (inner : Bool → Grammar Color) :
        Grammar Color :=
      call name (relativeWithin fuel space inner)
    leaf (fun
      | .hash digits _ => ofHex? digits
      | .ident name => ofName? name
      | _ => none) <|>
    oneOf [given "rgb" .rgb rgb, given "rgba" .rgb rgb, given "hsl" .hsl hsl,
      given "hsla" .hsl hsl, given "hwb" .hwb fun _ => hwb,
      given "lab" .lab fun _ => onAxes .lab 100 125,
      given "oklab" .oklab fun _ => onAxes .oklab 1 0.4,
      given "lch" .lch fun _ => onCircle .lch 100 150,
      given "oklch" .oklch fun _ => onCircle .oklch 1 0.4,
      call "color" (namedWithin fuel), call "light-dark" (lightDarkWithin fuel),
      call "color-mix" (mixWithin fuel)]

/-- A colour whose channels may come from another one. -/
def relativeWithin (fuel : Nat) (space : ColorSpace) (inner : Bool → Grammar Color) :
    Grammar Color :=
  match fuel with
  | 0 => fail
  | fuel + 1 => do
    match ← perhaps (word ["from"] *> within fuel) with
    | some origin => behindOrigin origin space (toEnd (inner true))
    | none => inner false

def namedWithin : Nat → Grammar Color
  | 0 => fail
  | fuel + 1 => do
    let origin ← perhaps (word ["from"] *> within fuel)
    let space ← space namedSpaces
    match origin with
    | some origin => behindOrigin origin space (toEnd (inSpace space))
    | none => inSpace space

def lightDarkWithin : Nat → Grammar Color
  | 0 => fail
  | fuel + 1 => do
    let light ← within fuel
    comma
    return .lightDark light (← within fuel)

def partWithin : Nat → Grammar (Color × Option Float32)
  | 0 => fail
  | fuel + 1 => do
    let before ← perhaps plainShare
    let color ← within fuel
    let behind ← if before.isSome then pure none else perhaps plainShare
    return (color, before.orElse fun _ => behind)

def mixWithin : Nat → Grammar Color
  | 0 => fail
  | fuel + 1 => do
    let (space, way) ← mixMethod
    comma
    let (first, share) ← partWithin fuel
    comma
    let (second, share') ← partWithin fuel
    let shares := mixShares share share'
    if shares.1 + shares.2 == 0 then fail
    match mixed space way shares first second with
    | some found => return found
    | none => fail

end

def grammar : Grammar Color := within 16

def channelTexts? (name : String) : Option (ColorSpace × Grammar (List String)) :=
  match name with
  | "rgb" =>
    let channel : Grammar String :=
      (fun share => toString (Channels.byte share)) <$> (byteNumber <|> byteShare)
    some (.rgb, do return [← channel, ← channel, ← channel])
  | "hsl" =>
    let share : Grammar String := Numeric.percentage <$> part
    some (.hsl, do return [Numeric.text (← hue), ← share, ← share])
  | _ => none

def beforeSlash? (name : String) (inner : List Part) : Option (List String) := do
  let (space, channels) ← channelTexts? name
  let (before, behind) := inner.span (!·.isToken (.delim '/'))
  let origin : Grammar Color := word ["from"] *> grammar
  let before ←
    match origin before with
    | some (found, rest) => (shade? found).map fun shade => named (valuesIn space shade) rest
    | none => some before
  if behind.isEmpty then none else whole? channels before

def spaced : Grammar Spaced := Spaced.ofColor <$> grammar

end Color

end StyleInline.Stylesheet
