import StyleInline.Stylesheet.Color

/-!
# Levels of colours

Browsers learnt of colours step by step.  A colour that not all targets understand is written at
lower levels, too, in front of itself.
-/

namespace StyleInline.Stylesheet

inductive ColorLevel where
  | bytes
  | wide
  | lab
  | oklab
  deriving DecidableEq, Repr, Inhabited

namespace ColorLevel

def all : List ColorLevel := [bytes, wide, lab, oklab]

/-- A colour that browsers of a level know, and those below it do not. -/
def sample : ColorLevel → String
  | bytes => "#000"
  | wide => "color(display-p3 0 0 0)"
  | lab => "lab(0% 0 0)"
  | oklab => "oklab(0% 0 0)"

def inOrder (levels : List ColorLevel) : List ColorLevel := all.filter levels.contains

/-- The levels that help some target: where all know the second best, lower ones do not, and where
some know it, screens that show more do not matter. -/
def helpful (targets : Targets) (levels : List ColorLevel) : List ColorLevel :=
  let hasLab := levels.contains lab
  if hasLab && targets.understand .labColors then
    levels.filter fun one => one == lab || one == oklab
  else
    let levels :=
      if hasLab && targets.someUnderstand .labColors then levels.filter (· != wide) else levels
    if !levels.contains wide then levels
    else if targets.understand .wideColors then levels.filter (· != bytes)
    else if levels.getLast? != some wide && !targets.someUnderstand .wideColors then
      levels.filter (· != wide)
    else levels

end ColorLevel

namespace Shade

def levels (shade : Shade) : List ColorLevel :=
  match shade.space with
  | .rgb | .hsl | .hwb => []
  | .oklab | .oklch => ColorLevel.all
  | .displayP3 => [.bytes, .wide]
  | _ => [.bytes, .wide, .lab]

end Shade

namespace Color

/-- The levels at which a colour is written for targets, with its own; none if all targets
understand it. -/
def levels (targets : Targets) : Color → List ColorLevel
  | .other shade =>
    if (Color.other shade).isUnderstood targets then []
    else ColorLevel.helpful targets shade.levels
  | .lightDark light dark => ColorLevel.inOrder (light.levels targets ++ dark.levels targets)
  | _ => []

def lowerLevels (targets : Targets) (color : Color) : List ColorLevel :=
  (color.levels targets).dropLast

def atLevel (level : ColorLevel) : Color → Color
  | .other shade =>
    match level with
    | .bytes => .usual shade.bytes
    | .wide => .other (shade.convert .displayP3)
    | .lab => .other (shade.convert .lab)
    | .oklab => .other shade
  | .lightDark light dark => .lightDark (light.atLevel level) (dark.atLevel level)
  | color => color

end Color

end StyleInline.Stylesheet
