/-!
# Colour spaces

A space gives three channels to a colour.  Colours go from one space to another through the
coordinates of what the eye sees, under the white of daylight or under a warmer white.
-/

namespace StyleInline.Stylesheet

inductive ColorSpace where
  /-- Shares of red, green and blue, as most screens show them. -/
  | rgb
  /-- A hue in degrees, a saturation and a lightness. -/
  | hsl
  /-- A hue in degrees, and the shares of white and black in it. -/
  | hwb
  | lab
  | lch
  | oklab
  | oklch
  /-- The same shares as in `rgb`, under a name of their own. -/
  | srgb
  | srgbLinear
  | displayP3
  | a98
  | prophoto
  | rec2020
  /-- Coordinates under a warm white. -/
  | warm
  /-- Coordinates under the white of daylight. -/
  | daylight
  deriving DecidableEq, Repr, Inhabited

abbrev Channels3 := Float32 × Float32 × Float32

abbrev Matrix := Channels3 × Channels3 × Channels3

namespace Matrix

def row (factors channels : Channels3) : Float32 :=
  factors.1 * channels.1 + factors.2.1 * channels.2.1 + factors.2.2 * channels.2.2

def apply (matrix : Matrix) (channels : Channels3) : Channels3 :=
  (row matrix.1 channels, row matrix.2.1 channels, row matrix.2.2 channels)

end Matrix

namespace ColorSpace

def named : List (String × ColorSpace) :=
  [("srgb", srgb), ("srgb-linear", srgbLinear), ("display-p3", displayP3), ("a98-rgb", a98),
    ("prophoto-rgb", prophoto), ("rec2020", rec2020), ("xyz", daylight), ("xyz-d50", warm),
    ("xyz-d65", daylight), ("hsl", hsl), ("hwb", hwb), ("lab", lab), ("lch", lch),
    ("oklab", oklab), ("oklch", oklch)]

def name (space : ColorSpace) : String :=
  ((named.find? (·.2 == space)).map Prod.fst).getD "rgb"

def huePlace? : ColorSpace → Option Nat
  | hsl | hwb => some 0
  | lch | oklch => some 2
  | _ => none

/-- The magnitude of a number behind the sign of another one. -/
def signed (sign magnitude : Float32) : Float32 := if sign < 0 then -magnitude else magnitude

def halfTurn : Float32 := 3.14159265358979

def each (f : Float32 → Float32) (channels : Channels3) : Channels3 :=
  (f channels.1, f channels.2.1, f channels.2.2)

def cube (value : Float32) : Float32 := value * (value * value)

/-- The amount of light of a share that a screen shows. -/
def light (share : Float32) : Float32 :=
  if share.abs < 0.04045 then share / 12.92
  else signed share (((share.abs + 0.055) / 1.055).pow 2.4)

def shown (amount : Float32) : Float32 :=
  if 0.0031308 < amount.abs then signed amount (1.055 * amount.abs.pow (1 / 2.4) - 0.055)
  else 12.92 * amount

def lightA98 (share : Float32) : Float32 := signed share (share.abs.pow (563 / 256))

def shownA98 (amount : Float32) : Float32 := signed amount (amount.abs.pow (256 / 563))

def lightProphoto (share : Float32) : Float32 :=
  if share.abs ≤ 16 / 512 then share / 16 else signed share (share.abs.pow 1.8)

def shownProphoto (amount : Float32) : Float32 :=
  if 1 / 512 ≤ amount.abs then signed amount (amount.abs.pow (1 / 1.8)) else 16 * amount

def light2020 (share : Float32) : Float32 :=
  if share.abs < 0.018053968510807 * 4.5 then share / 4.5
  else signed share (((share.abs + 1.09929682680944 - 1) / 1.09929682680944).pow (1 / 0.45))

def shown2020 (amount : Float32) : Float32 :=
  if 0.018053968510807 < amount.abs then
    signed amount (1.09929682680944 * amount.abs.pow 0.45 - (1.09929682680944 - 1))
  else 4.5 * amount

/-- From amounts of light on a screen to coordinates under daylight. -/
def ofLight : Matrix :=
  ((0.41239079926595934, 0.357584339383878, 0.1804807884018343),
    (0.21263900587151027, 0.715168678767756, 0.07219231536073371),
    (0.01933081871559182, 0.11919477979462598, 0.9505321522496607))

def toLight : Matrix :=
  ((3.2409699419045226, -1.537383177570094, -0.4986107602930034),
    (-0.9692436362808796, 1.8759675015077202, 0.04155505740717559),
    (0.05563007969699366, -0.20397695888897652, 1.0569715142428786))

def ofP3 : Matrix :=
  ((0.4865709486482162, 0.26566769316909306, 0.1982172852343625),
    (0.2289745640697488, 0.6917385218365064, 0.079286914093745),
    (0, 0.04511338185890264, 1.043944368900976))

def toP3 : Matrix :=
  ((2.493496911941425, -0.9313836179191239, -0.40271078445071684),
    (-0.8294889695615747, 1.7626640603183463, 0.023624685841943577),
    (0.03584583024378447, -0.07617238926804182, 0.9568845240076872))

def ofA98 : Matrix :=
  ((0.5766690429101305, 0.1855582379065463, 0.1882286462349947),
    (0.29734497525053605, 0.6273635662554661, 0.07529145849399788),
    (0.02703136138641234, 0.07068885253582723, 0.9913375368376388))

def toA98 : Matrix :=
  ((2.0415879038107465, -0.5650069742788596, -0.34473135077832956),
    (-0.9692436362808795, 1.8759675015077202, 0.04155505740717557),
    (0.013444280632031142, -0.11836239223101838, 1.0151749943912054))

def ofProphoto : Matrix :=
  ((0.7977604896723027, 0.13518583717574031, 0.0313493495815248),
    (0.2880711282292934, 0.7118432178101014, 0.00008565396060525902),
    (0, 0, 0.8251046025104601))

def toProphoto : Matrix :=
  ((1.3457989731028281, -0.25558010007997534, -0.05110628506753401),
    (-0.5446224939028347, 1.5082327413132781, 0.02053603239147973),
    (0, 0, 1.2119675456389454))

def of2020 : Matrix :=
  ((0.6369580483012914, 0.14461690358620832, 0.1688809751641721),
    (0.2627002120112671, 0.6779980715188708, 0.05930171646986196),
    (0, 0.028072693049087428, 1.060985057710791))

def to2020 : Matrix :=
  ((1.7166511879712674, -0.35567078377639233, -0.25336628137365974),
    (-0.6666843518324892, 1.6164812366349395, 0.01576854581391113),
    (0.017639857445310783, -0.042770613257808524, 0.9421031212354738))

def cooled : Matrix :=
  ((0.9554734527042182, -0.023098536874261423, 0.0632593086610217),
    (-0.028369706963208136, 1.0099954580058226, 0.021041398966943008),
    (0.012314001688319899, -0.020507696433477912, 1.3303659366080753))

def warmed : Matrix :=
  ((1.0479298208405488, 0.022946793341019088, -0.05019222954313557),
    (0.029627815688159344, 0.990434484573249, -0.01707382502938514),
    (-0.009243058152591178, 0.015055144896577895, 0.7518742899580008))

/-- From coordinates under daylight to what the cones of the eye answer to. -/
def toCones : Matrix :=
  ((0.8190224432164319, 0.3619062562801221, -0.12887378261216414),
    (0.0329836671980271, 0.9292868468965546, 0.03614466816999844),
    (0.048177199566046255, 0.26423952494422764, 0.6335478258136937))

def ofCones : Matrix :=
  ((1.2268798733741557, -0.5578149965554813, 0.28139105017721583),
    (-0.04057576262431372, 1.1122868293970594, -0.07171106666151701),
    (-0.07637294974672142, -0.4214933239627914, 1.5869240244272418))

/-- From the roots of what the cones answer to to a lightness and two axes. -/
def ofRoots : Matrix :=
  ((0.2104542553, 0.7936177850, -0.0040720468),
    (1.9779984951, -2.4285922050, 0.4505937099),
    (0.0259040371, 0.7827717662, -0.8086757660))

def toRoots : Matrix :=
  ((0.99999999845051981432, 0.39633779217376785678, 0.21580375806075880339),
    (1.0000000088817607767, -0.1055613423236563494, -0.063854174771705903402),
    (1.0000000546724109177, -0.089484182094965759684, -1.2914855378640917399))

def white : Channels3 := (0.3457 / 0.3585, 1, (1 - 0.3457 - 0.3585) / 0.3585)

/-- A bend of the scale of lightness: what is darker goes in proportion. -/
def bend : Float32 := 216 / 24389

def slope : Float32 := 24389 / 27

def ofLab (channels : Channels3) : Channels3 :=
  let (share, a, b) := channels
  let light := share * 100
  let middle := (light + 16) / 116
  let first := a / 500 + middle
  let last := middle - b / 200
  let part (root : Float32) : Float32 :=
    if bend < cube root then cube root else (116 * root - 16) / slope
  let height := if slope * bend < light then cube middle else light / slope
  (part first * white.1, height * white.2.1, part last * white.2.2)

def toLab (channels : Channels3) : Channels3 :=
  let root (value : Float32) : Float32 :=
    if bend < value then value.cbrt else (slope * value + 16) / 116
  let first := root (channels.1 / white.1)
  let middle := root (channels.2.1 / white.2.1)
  let last := root (channels.2.2 / white.2.2)
  ((116 * middle - 16) / 100, 500 * (first - middle), 200 * (middle - last))

def ofOklab (channels : Channels3) : Channels3 :=
  ofCones.apply (each cube (toRoots.apply channels))

def toOklab (channels : Channels3) : Channels3 :=
  ofRoots.apply (each Float32.cbrt (toCones.apply channels))

def ofCircle (channels : Channels3) : Channels3 :=
  let (light, chroma, hue) := channels
  (light, chroma * (hue * halfTurn / 180).cos, chroma * (hue * halfTurn / 180).sin)

def toCircle (channels : Channels3) : Channels3 :=
  let (light, a, b) := channels
  let hue := b.atan2 a * 180 / halfTurn
  let hue := if hue < 0 then hue + 360 else hue
  (light, (a * a + b * b).sqrt, if 360 ≤ hue then hue - 360 else hue)

/-- One channel of a hue, which is given in thirds of the circle. -/
def hueChannel (low high third : Float32) : Float32 :=
  let third := if third < 0 then third + 3 else third
  let third := if 3 < third then third - 3 else third
  if third * 2 < 1 then low + (high - low) * third * 2
  else if third * 2 < 3 then high
  else if third < 2 then low + (high - low) * (2 - third) * 2
  else low

def wrappedHue (degrees : Float32) : Float32 := degrees - (degrees / 360).floor * 360

def ofHsl (channels : Channels3) : Channels3 :=
  let (degrees, saturation, lightness) := channels
  let high :=
    if lightness ≤ 0.5 then lightness * (saturation + 1)
    else lightness + saturation - lightness * saturation
  let low := lightness * 2 - high
  let thirds := wrappedHue degrees / 360 * 3
  (hueChannel low high (thirds + 1), hueChannel low high thirds, hueChannel low high (thirds - 1))

def ofHwb (channels : Channels3) : Channels3 :=
  let (degrees, white, black) := channels
  if 1 ≤ white + black then
    let gray := white / (white + black)
    (gray, gray, gray)
  else each (· * (1 - white - black) + white) (ofHsl (degrees, 1, 0.5))

def greatest (channels : Channels3) : Float32 :=
  let (a, b, c) := channels
  let more := if a < b then b else a
  if more < c then c else more

def least (channels : Channels3) : Float32 :=
  let (a, b, c) := channels
  let less := if b < a then b else a
  if c < less then c else less

/-- A number that is none, which stands for a channel without meaning. -/
def missing : Float32 := 0 / 0

/-- A hue in degrees, a saturation and a lightness for red, green and blue; grey has no hue. -/
def toHsl (channels : Channels3) : Channels3 :=
  let (red, green, blue) := channels
  let (high, low) := (greatest channels, least channels)
  let lightness := (low + high) / 2
  let range := high - low
  if range == 0 then (missing, 0, lightness)
  else
    let saturation :=
      if lightness == 0 || lightness == 1 then 0
      else (high - lightness) / (if lightness < 1 - lightness then lightness else 1 - lightness)
    let sixths :=
      if high == red then (green - blue) / range + (if green < blue then 6 else 0)
      else if high == green then (blue - red) / range + 2
      else (red - green) / range + 4
    (sixths * 60, saturation, lightness)

def toHwb (channels : Channels3) : Channels3 :=
  ((toHsl channels).1, least channels, 1 - greatest channels)

def isShown (shares : Channels3) : Bool :=
  let isShare (value : Float32) : Bool := 0 ≤ value && value ≤ 1
  isShare shares.1 && isShare shares.2.1 && isShare shares.2.2

def clipped (shares : Channels3) : Channels3 :=
  each (fun value => if value < 0 then 0 else if 1 < value then 1 else value) shares

def rgbOfOklch (channels : Channels3) : Channels3 :=
  each shown (toLight.apply (ofOklab (ofCircle channels)))

def oklabOfRgb (shares : Channels3) : Channels3 := toOklab (ofLight.apply (each light shares))

def distance (first second : Channels3) : Float32 :=
  let square (a b : Float32) : Float32 := (a - b) * (a - b)
  (square first.1 second.1 + square first.2.1 second.2.1 + square first.2.2 second.2.2).sqrt

/-- The colour of the greatest chroma between two that a screen shows, or one that nobody can tell
from it; `last` is the chroma that was tried last. -/
def fitWithin (lightness hue : Float32) : Nat → Float32 → Float32 → Float32 → Channels3
  | 0, _, _, last => rgbOfOklch (lightness, last, hue)
  | fuel + 1, low, high, last =>
    if high - low ≤ 0.00001 then rgbOfOklch (lightness, last, hue)
    else
      let chroma := (low + high) / 2
      let found := rgbOfOklch (lightness, chroma, hue)
      if isShown found then fitWithin lightness hue fuel chroma high chroma
      else if distance (oklabOfRgb (clipped found)) (ofCircle (lightness, chroma, hue)) < 0.02 then
        clipped found
      else fitWithin lightness hue fuel low chroma chroma

/-- Shares that a screen shows, with the same lightness and hue. -/
def fitted (shares : Channels3) : Channels3 :=
  if isShown shares then shares
  else
    let (lightness, chroma, hue) := toCircle (oklabOfRgb shares)
    if 1 < lightness || (lightness - 1).abs < 0.00001 then
      rgbOfOklch (1, 0, 0)
    else if lightness < 0.00001 then rgbOfOklch (0, 0, 0)
    else fitWithin lightness hue 64 0 chroma chroma

/-- The space in which the channels of another one are taken apart. -/
def base : ColorSpace → ColorSpace
  | lch => lab
  | oklch => oklab
  | hsl | hwb | srgb => rgb
  | space => space

def toBase (channels : Channels3) : ColorSpace → Channels3
  | lch | oklch => ofCircle channels
  | hsl => ofHsl channels
  | hwb => ofHwb channels
  | _ => channels

def ofBase (channels : Channels3) : ColorSpace → Channels3
  | lch | oklch => toCircle channels
  | hsl => toHsl (fitted channels)
  | hwb => toHwb (fitted channels)
  | _ => channels

/-- The coordinates of a space are those under a warm white. -/
def isWarm : ColorSpace → Bool
  | lab | prophoto | warm => true
  | _ => false

def toSeen (channels : Channels3) : ColorSpace → Channels3
  | rgb => ofLight.apply (each light channels)
  | srgbLinear => ofLight.apply channels
  | displayP3 => ofP3.apply (each light channels)
  | a98 => ofA98.apply (each lightA98 channels)
  | prophoto => ofProphoto.apply (each lightProphoto channels)
  | rec2020 => of2020.apply (each light2020 channels)
  | lab => ofLab channels
  | oklab => ofOklab channels
  | _ => channels

def ofSeen (channels : Channels3) : ColorSpace → Channels3
  | rgb => each shown (toLight.apply channels)
  | srgbLinear => toLight.apply channels
  | displayP3 => each shown (toP3.apply channels)
  | a98 => each shownA98 (toA98.apply channels)
  | prophoto => each shownProphoto (toProphoto.apply channels)
  | rec2020 => each shown2020 (to2020.apply channels)
  | lab => toLab channels
  | oklab => toOklab channels
  | _ => channels

def between (source target : ColorSpace) (channels : Channels3) : Channels3 :=
  match source, target with
  | rgb, srgbLinear => each light channels
  | srgbLinear, rgb => each shown channels
  | source, target =>
    let seen := toSeen channels source
    let matched :=
      match source.isWarm, target.isWarm with
      | true, false => cooled.apply seen
      | false, true => warmed.apply seen
      | _, _ => seen
    ofSeen matched target

/-- The channels of a colour in another space. -/
def convert (source target : ColorSpace) (channels : Channels3) : Channels3 :=
  if source == target then channels
  else
    let start := toBase channels source
    ofBase (if source.base == target.base then start else between source.base target.base start)
      target

end ColorSpace

end StyleInline.Stylesheet
