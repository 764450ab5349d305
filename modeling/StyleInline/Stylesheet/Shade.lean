import StyleInline.Stylesheet.ColorSpace
import StyleInline.Stylesheet.Numeric

/-!
# Shades

A shade is a colour of any space.  A channel of it may be missing; it counts as nothing then, but
takes the value of the other shade in a mixture.
-/

namespace StyleInline.Stylesheet

/-- The channels of a usual colour; `alpha` is 255 where nothing shines through. -/
structure Channels where
  red : Nat
  green : Nat
  blue : Nat
  alpha : Nat
  deriving DecidableEq, Repr, Inhabited

namespace Channels

def byte (share : Float32) : Nat :=
  let scaled := (share * 255).round
  if scaled ≤ 0 then 0 else if 255 ≤ scaled then 255 else scaled.toUInt8.toNat

def ofShares (shares : Channels3) (alpha : Float32) : Channels :=
  ⟨byte shares.1, byte shares.2.1, byte shares.2.2, byte alpha⟩

end Channels

namespace ColorSpace

def hasBytes (space : ColorSpace) : Bool := space == rgb || space == hsl || space == hwb

/-- The first channel of a space is a lightness, and the space is a function of its own. -/
def isLight (space : ColorSpace) : Bool := [lab, lch, oklab, oklch].contains space

end ColorSpace

structure Shade where
  space : ColorSpace
  channels : Option Float32 × Option Float32 × Option Float32
  alpha : Option Float32
  deriving BEq, Repr, Inhabited

namespace Shade

/-- The channels of a shade, where those that are missing are nothing. -/
def settled (shade : Shade) : Channels3 :=
  (shade.channels.1.getD 0, shade.channels.2.1.getD 0, shade.channels.2.2.getD 0)

/-- A shade without missing channels, but for a hue that has no meaning. -/
def ofChannels (space : ColorSpace) (channels : Channels3) (alpha : Float32) : Shade :=
  let known (value : Float32) : Option Float32 := if value.isNaN then none else some value
  ⟨space, (known channels.1, known channels.2.1, known channels.2.2), some alpha⟩

def ofBytes (bytes : Channels) : Shade :=
  let share (value : Nat) : Float32 := Float32.ofNat value / 255
  ofChannels .rgb (share bytes.red, share bytes.green, share bytes.blue) (share bytes.alpha)

def convert (target : ColorSpace) (shade : Shade) : Shade :=
  if shade.space == target then shade
  else
    ofChannels target (ColorSpace.convert shade.space target shade.settled) (shade.alpha.getD 0)

def bytes (shade : Shade) : Channels :=
  Channels.ofShares (ColorSpace.fitted (shade.convert .rgb).settled) (shade.alpha.getD 0)

/-- A channel that is missing is like the one of another shade. -/
def filled (other shade : Shade) : Shade :=
  let first (mine others : Option Float32) : Option Float32 := mine.orElse fun _ => others
  { shade with
    channels := (first shade.channels.1 other.channels.1,
      first shade.channels.2.1 other.channels.2.1, first shade.channels.2.2 other.channels.2.2)
    alpha := first shade.alpha other.alpha }

def epsilon : Float32 := 0.00000011920929

/-- Without channels that do not matter: the hue of grey, and what black or white have none of. -/
def withoutPowerless (shade : Shade) : Shade :=
  let (first, second, third) := shade.channels
  let isNothing (value : Option Float32) : Bool := value.any fun value => value.abs < epsilon
  let isAll (value : Option Float32) : Bool := value.any fun value => (value - 1).abs < epsilon
  let channels :=
    match shade.space with
    | .lab | .oklab => if isNothing first then (first, none, none) else shade.channels
    | .lch | .oklch =>
      if isNothing first then (first, none, none)
      else (first, second, if isNothing second then none else third)
    | .hsl =>
      if isNothing third || isAll third then (none, none, third)
      else (if isNothing second then none else first, second, third)
    | .hwb =>
      let sum : Option Float32 := do return (← second) + (← third)
      (if isAll sum then none else first, second, third)
    | _ => shade.channels
  { shade with channels }

/-- A shade of another space, in which channels without meaning are missing. -/
def entered (target : ColorSpace) (shade : Shade) : Shade :=
  if shade.space == .srgb && target == .rgb then { shade with space := .rgb }
  else if shade.space == target then shade
  else if target == .rgb || target == .srgbLinear then
    let shares := ColorSpace.fitted (shade.convert .rgb).settled
    (ofChannels .rgb shares (shade.alpha.getD 0)).convert target
  else (shade.convert target).withoutPowerless

end Shade

inductive HueWay where
  | shorter
  | longer
  | increasing
  | decreasing
  | specified
  deriving DecidableEq, Repr, Inhabited

namespace HueWay

def words : List (String × HueWay) :=
  [("shorter", .shorter), ("longer", .longer), ("increasing", .increasing),
    ("decreasing", .decreasing), ("specified", .specified)]

def straightened (way : HueWay) (first second : Float32) : Float32 × Float32 :=
  let wrapped (degrees : Float32) : Float32 := ColorSpace.wrappedHue degrees
  let (a, b) := (wrapped first, wrapped second)
  let delta := b - a
  match way with
  | .shorter =>
    if 180 < delta then (a + 360, b) else if delta < -180 then (a, b + 360) else (a, b)
  | .longer =>
    if 0 < delta && delta < 180 then (a + 360, b)
    else if -180 < delta && delta < 0 then (a, b + 360)
    else (a, b)
  | .increasing => if b < a then (a, b + 360) else (a, b)
  | .decreasing => if a < b then (a + 360, b) else (a, b)
  | .specified => (first, second)

end HueWay

namespace Shade

def channel (place : Nat) (shade : Shade) : Option Float32 :=
  match place with
  | 0 => shade.channels.1
  | 1 => shade.channels.2.1
  | _ => shade.channels.2.2

/-- A mixture of two shades of one space; `shares` are those of both, and `left` is how much of
the opacity is left. -/
def mixed (way : HueWay) (first second : Shade) (shares : Float32 × Float32) (left : Float32) :
    Shade :=
  let (first, second) := (filled second first, filled first second)
  let place? := first.space.huePlace?
  let alpha : Option Float32 := do
    return (← first.alpha) * shares.1 + (← second.alpha) * shares.2
  let weighted (shade : Shade) (value : Float32) : Float32 :=
    match shade.alpha with
    | some alpha => value * alpha
    | none => value
  let one (place : Nat) : Option Float32 := do
    let (a, b) := (← first.channel place, ← second.channel place)
    if place? == some place then
      let (a, b) := way.straightened a b
      let hue := a * shares.1 + b * shares.2
      return if 360 ≤ hue then hue - 360 else hue
    else
      let sum := weighted first a * shares.1 + weighted second b * shares.2
      return match alpha with
        | some alpha => if alpha == 0 then sum else sum / alpha
        | none => sum
  ⟨first.space, (one 0, one 1, one 2),
    alpha.map fun alpha => if alpha == 0 then alpha else alpha * left⟩

end Shade

end StyleInline.Stylesheet
