/-!
# Browsers

The browsers that a stylesheet is written for, and what they understand.  Of each family the
oldest version decides.
-/

namespace StyleInline.Stylesheet

structure Version where
  major : Nat
  minor : Nat
  deriving DecidableEq, Repr, Inhabited

def Version.le (a b : Version) : Bool :=
  a.major < b.major || (a.major == b.major && a.minor ≤ b.minor)

inductive Family where
  | android
  | chrome
  | edge
  | firefox
  | explorer
  | iosSafari
  | opera
  | safari
  | samsung
  deriving DecidableEq, Repr, Inhabited

structure Browser where
  family : Family
  version : Version
  deriving DecidableEq, Repr, Inhabited

inductive Feature where
  /-- A colour of eight digits. -/
  | alphaDigits
  | mediaSigns
  | mediaIntervals
  /-- Distances from the edges along the direction of the text, and one property for all four. -/
  | inset
  /-- One property for the alignment in both directions. -/
  | placement
  /-- Two values for the overflow in both directions. -/
  | twoOverflows
  | nesting
  | shortResolution
  /-- Two places for one colour of a gradient. -/
  | doubleStops
  /-- One property for two lengths along the direction of the text. -/
  | logicalPairs
  | logicalDistances
  | logicalBorders
  | logicalCorners
  | logicalSizes
  /-- Colours with a lightness that is even to the eye. -/
  | labColors
  /-- The same on a better scale. -/
  | oklabColors
  /-- Colours of screens that show more than others. -/
  | wideColors
  | namedColors
  | spacedColors
  | lightDark
  | clamp
  | extremes
  | calculation
  | rounding
  /-- Values without their sign, and the sign alone. -/
  | signs
  /-- The root of a sum of squares. -/
  | diagonals
  | windowUnits
  /-- Lengths by the longer side of the window. -/
  | longerSideUnits
  /-- Lengths by the size that a window can have while bars come and go. -/
  | changingWindowUnits
  | containerUnits
  | lineUnits
  /-- Lengths by the height of a capital letter. -/
  | capitalUnits
  /-- Lengths by the width of an ideogram. -/
  | ideogramUnits
  | rootLetterUnits
  | quarterUnits
  /-- Animations that name what they follow beside their course. -/
  | animationTimelines
  deriving DecidableEq, Repr, Inhabited

/-- The first version of each family that understands something; a family that is not named does
not understand it. -/
abbrev Support := List (Family × Version)

def Feature.support : Feature → Support
  | .alphaDigits =>
    [(.android, ⟨62, 0⟩), (.chrome, ⟨62, 0⟩), (.edge, ⟨79, 0⟩), (.firefox, ⟨49, 0⟩),
      (.iosSafari, ⟨9, 3⟩), (.opera, ⟨49, 0⟩), (.safari, ⟨10, 0⟩), (.samsung, ⟨8, 0⟩)]
  | .mediaSigns =>
    [(.android, ⟨104, 0⟩), (.chrome, ⟨104, 0⟩), (.edge, ⟨104, 0⟩), (.firefox, ⟨63, 0⟩),
      (.iosSafari, ⟨16, 4⟩), (.opera, ⟨91, 0⟩), (.safari, ⟨16, 4⟩), (.samsung, ⟨20, 0⟩)]
  | .mediaIntervals =>
    [(.android, ⟨104, 0⟩), (.chrome, ⟨104, 0⟩), (.edge, ⟨104, 0⟩), (.firefox, ⟨102, 0⟩),
      (.iosSafari, ⟨16, 4⟩), (.opera, ⟨91, 0⟩), (.safari, ⟨16, 4⟩), (.samsung, ⟨20, 0⟩)]
  | .inset =>
    [(.android, ⟨87, 0⟩), (.chrome, ⟨87, 0⟩), (.edge, ⟨87, 0⟩), (.firefox, ⟨63, 0⟩),
      (.iosSafari, ⟨14, 5⟩), (.opera, ⟨73, 0⟩), (.safari, ⟨14, 1⟩), (.samsung, ⟨14, 0⟩)]
  | .logicalDistances | .logicalBorders =>
    [(.android, ⟨69, 0⟩), (.chrome, ⟨69, 0⟩), (.edge, ⟨79, 0⟩), (.firefox, ⟨41, 0⟩),
      (.iosSafari, ⟨12, 2⟩), (.opera, ⟨56, 0⟩), (.safari, ⟨12, 1⟩), (.samsung, ⟨10, 0⟩)]
  | .logicalCorners =>
    [(.android, ⟨89, 0⟩), (.chrome, ⟨89, 0⟩), (.edge, ⟨89, 0⟩), (.firefox, ⟨66, 0⟩),
      (.iosSafari, ⟨15, 0⟩), (.opera, ⟨75, 0⟩), (.safari, ⟨15, 0⟩), (.samsung, ⟨15, 0⟩)]
  | .logicalSizes =>
    [(.android, ⟨57, 0⟩), (.chrome, ⟨57, 0⟩), (.edge, ⟨79, 0⟩), (.firefox, ⟨41, 0⟩),
      (.iosSafari, ⟨12, 2⟩), (.opera, ⟨44, 0⟩), (.safari, ⟨12, 1⟩), (.samsung, ⟨7, 0⟩)]
  | .lightDark =>
    [(.android, ⟨123, 0⟩), (.chrome, ⟨123, 0⟩), (.edge, ⟨123, 0⟩), (.firefox, ⟨120, 0⟩),
      (.iosSafari, ⟨17, 5⟩), (.opera, ⟨109, 0⟩), (.safari, ⟨17, 5⟩), (.samsung, ⟨27, 0⟩)]
  | .clamp =>
    [(.android, ⟨79, 0⟩), (.chrome, ⟨79, 0⟩), (.edge, ⟨79, 0⟩), (.firefox, ⟨75, 0⟩),
      (.iosSafari, ⟨13, 4⟩), (.opera, ⟨66, 0⟩), (.safari, ⟨13, 1⟩), (.samsung, ⟨12, 0⟩)]
  | .extremes =>
    [(.android, ⟨79, 0⟩), (.chrome, ⟨79, 0⟩), (.edge, ⟨79, 0⟩), (.firefox, ⟨75, 0⟩),
      (.iosSafari, ⟨11, 3⟩), (.opera, ⟨66, 0⟩), (.safari, ⟨11, 1⟩), (.samsung, ⟨12, 0⟩)]
  | .calculation =>
    [(.android, ⟨4, 4⟩), (.chrome, ⟨26, 0⟩), (.edge, ⟨12, 0⟩), (.firefox, ⟨16, 0⟩),
      (.explorer, ⟨9, 0⟩), (.iosSafari, ⟨7, 0⟩), (.opera, ⟨15, 0⟩), (.safari, ⟨7, 0⟩),
      (.samsung, ⟨1, 5⟩)]
  | .rounding =>
    [(.android, ⟨125, 0⟩), (.chrome, ⟨125, 0⟩), (.edge, ⟨125, 0⟩), (.firefox, ⟨118, 0⟩),
      (.iosSafari, ⟨15, 4⟩), (.opera, ⟨111, 0⟩), (.safari, ⟨15, 4⟩), (.samsung, ⟨27, 0⟩)]
  | .signs =>
    [(.android, ⟨138, 0⟩), (.chrome, ⟨138, 0⟩), (.edge, ⟨138, 0⟩), (.firefox, ⟨118, 0⟩),
      (.iosSafari, ⟨15, 4⟩), (.safari, ⟨15, 4⟩)]
  | .diagonals =>
    [(.android, ⟨120, 0⟩), (.chrome, ⟨120, 0⟩), (.edge, ⟨120, 0⟩), (.firefox, ⟨118, 0⟩),
      (.iosSafari, ⟨15, 4⟩), (.opera, ⟨106, 0⟩), (.safari, ⟨15, 4⟩), (.samsung, ⟨25, 0⟩)]
  | .windowUnits =>
    [(.android, ⟨4, 4⟩), (.chrome, ⟨20, 0⟩), (.edge, ⟨12, 0⟩), (.firefox, ⟨19, 0⟩),
      (.explorer, ⟨9, 0⟩), (.iosSafari, ⟨6, 0⟩), (.opera, ⟨15, 0⟩), (.safari, ⟨6, 0⟩),
      (.samsung, ⟨1, 5⟩)]
  | .longerSideUnits =>
    [(.android, ⟨4, 4⟩), (.chrome, ⟨26, 0⟩), (.edge, ⟨16, 0⟩), (.firefox, ⟨19, 0⟩),
      (.iosSafari, ⟨7, 0⟩), (.opera, ⟨15, 0⟩), (.safari, ⟨7, 0⟩), (.samsung, ⟨1, 5⟩)]
  | .changingWindowUnits =>
    [(.android, ⟨108, 0⟩), (.chrome, ⟨108, 0⟩), (.edge, ⟨108, 0⟩), (.firefox, ⟨101, 0⟩),
      (.iosSafari, ⟨15, 4⟩), (.opera, ⟨94, 0⟩), (.safari, ⟨15, 4⟩), (.samsung, ⟨21, 0⟩)]
  | .containerUnits =>
    [(.android, ⟨105, 0⟩), (.chrome, ⟨105, 0⟩), (.edge, ⟨105, 0⟩), (.firefox, ⟨110, 0⟩),
      (.iosSafari, ⟨16, 0⟩), (.opera, ⟨91, 0⟩), (.safari, ⟨16, 0⟩), (.samsung, ⟨20, 0⟩)]
  | .lineUnits =>
    [(.android, ⟨109, 0⟩), (.chrome, ⟨109, 0⟩), (.edge, ⟨109, 0⟩), (.firefox, ⟨120, 0⟩),
      (.iosSafari, ⟨16, 4⟩), (.opera, ⟨95, 0⟩), (.safari, ⟨16, 4⟩), (.samsung, ⟨21, 0⟩)]
  | .capitalUnits =>
    [(.android, ⟨118, 0⟩), (.chrome, ⟨118, 0⟩), (.edge, ⟨118, 0⟩), (.firefox, ⟨97, 0⟩),
      (.iosSafari, ⟨17, 2⟩), (.opera, ⟨104, 0⟩), (.safari, ⟨17, 2⟩), (.samsung, ⟨25, 0⟩)]
  | .ideogramUnits =>
    [(.android, ⟨106, 0⟩), (.chrome, ⟨106, 0⟩), (.edge, ⟨106, 0⟩), (.firefox, ⟨97, 0⟩),
      (.iosSafari, ⟨15, 4⟩), (.opera, ⟨92, 0⟩), (.safari, ⟨15, 4⟩), (.samsung, ⟨20, 0⟩)]
  | .rootLetterUnits =>
    [(.android, ⟨111, 0⟩), (.chrome, ⟨111, 0⟩), (.edge, ⟨111, 0⟩), (.iosSafari, ⟨17, 2⟩),
      (.opera, ⟨97, 0⟩), (.safari, ⟨17, 2⟩), (.samsung, ⟨22, 0⟩)]
  | .quarterUnits =>
    [(.android, ⟨63, 0⟩), (.chrome, ⟨63, 0⟩), (.edge, ⟨79, 0⟩), (.firefox, ⟨49, 0⟩),
      (.iosSafari, ⟨13, 4⟩), (.opera, ⟨50, 0⟩), (.safari, ⟨13, 1⟩), (.samsung, ⟨8, 0⟩)]
  | .animationTimelines =>
    [(.android, ⟨115, 0⟩), (.chrome, ⟨115, 0⟩), (.edge, ⟨115, 0⟩), (.opera, ⟨101, 0⟩),
      (.samsung, ⟨23, 0⟩)]
  | .placement =>
    [(.android, ⟨59, 0⟩), (.chrome, ⟨59, 0⟩), (.edge, ⟨79, 0⟩), (.firefox, ⟨53, 0⟩),
      (.iosSafari, ⟨11, 0⟩), (.opera, ⟨46, 0⟩), (.safari, ⟨11, 0⟩), (.samsung, ⟨7, 0⟩)]
  | .twoOverflows =>
    [(.android, ⟨68, 0⟩), (.chrome, ⟨68, 0⟩), (.edge, ⟨79, 0⟩), (.firefox, ⟨61, 0⟩),
      (.iosSafari, ⟨13, 4⟩), (.opera, ⟨55, 0⟩), (.safari, ⟨13, 1⟩), (.samsung, ⟨10, 0⟩)]
  | .nesting =>
    [(.android, ⟨120, 0⟩), (.chrome, ⟨120, 0⟩), (.edge, ⟨120, 0⟩), (.firefox, ⟨117, 0⟩),
      (.iosSafari, ⟨17, 2⟩), (.opera, ⟨106, 0⟩), (.safari, ⟨17, 2⟩), (.samsung, ⟨25, 0⟩)]
  | .shortResolution =>
    [(.android, ⟨68, 0⟩), (.chrome, ⟨68, 0⟩), (.edge, ⟨79, 0⟩), (.firefox, ⟨62, 0⟩),
      (.iosSafari, ⟨16, 0⟩), (.opera, ⟨55, 0⟩), (.safari, ⟨16, 0⟩), (.samsung, ⟨10, 0⟩)]
  | .doubleStops =>
    [(.android, ⟨72, 0⟩), (.chrome, ⟨72, 0⟩), (.edge, ⟨79, 0⟩), (.firefox, ⟨83, 0⟩),
      (.iosSafari, ⟨12, 2⟩), (.opera, ⟨60, 0⟩), (.safari, ⟨12, 1⟩), (.samsung, ⟨11, 0⟩)]
  | .logicalPairs =>
    [(.android, ⟨87, 0⟩), (.chrome, ⟨87, 0⟩), (.edge, ⟨87, 0⟩), (.firefox, ⟨66, 0⟩),
      (.iosSafari, ⟨14, 5⟩), (.opera, ⟨73, 0⟩), (.safari, ⟨14, 1⟩), (.samsung, ⟨14, 0⟩)]
  | .labColors | .namedColors =>
    [(.android, ⟨111, 0⟩), (.chrome, ⟨111, 0⟩), (.edge, ⟨111, 0⟩), (.firefox, ⟨113, 0⟩),
      (.iosSafari, ⟨15, 0⟩), (.opera, ⟨97, 0⟩), (.safari, ⟨15, 0⟩), (.samsung, ⟨22, 0⟩)]
  | .oklabColors =>
    [(.android, ⟨111, 0⟩), (.chrome, ⟨111, 0⟩), (.edge, ⟨111, 0⟩), (.firefox, ⟨113, 0⟩),
      (.iosSafari, ⟨15, 4⟩), (.opera, ⟨97, 0⟩), (.safari, ⟨15, 4⟩), (.samsung, ⟨22, 0⟩)]
  | .wideColors =>
    [(.android, ⟨111, 0⟩), (.chrome, ⟨111, 0⟩), (.edge, ⟨111, 0⟩), (.firefox, ⟨113, 0⟩),
      (.iosSafari, ⟨10, 3⟩), (.opera, ⟨97, 0⟩), (.safari, ⟨10, 1⟩), (.samsung, ⟨22, 0⟩)]
  | .spacedColors =>
    [(.android, ⟨65, 0⟩), (.chrome, ⟨65, 0⟩), (.edge, ⟨79, 0⟩), (.firefox, ⟨52, 0⟩),
      (.iosSafari, ⟨12, 2⟩), (.opera, ⟨52, 0⟩), (.safari, ⟨12, 1⟩), (.samsung, ⟨9, 0⟩)]

/-- The oldest version of each family that matters; none matters if the list is empty. -/
abbrev Targets := List Browser

namespace Targets

def allHave (targets : Targets) (support : Support) : Bool :=
  targets.all fun browser =>
    (support.lookup browser.family).any fun first => first.le browser.version

def understand (targets : Targets) (feature : Feature) : Bool := targets.allHave feature.support

def someUnderstand (targets : Targets) (feature : Feature) : Bool :=
  targets.any fun browser => understand [browser] feature

def versionOf? (targets : Targets) (family : Family) : Option Version :=
  (targets.find? fun browser => browser.family == family).map Browser.version

/-- The oldest version of each family among some browsers. -/
def ofBrowsers (browsers : List Browser) : Targets :=
  browsers.foldl (fun targets browser =>
    match versionOf? targets browser.family with
    | none => targets ++ [browser]
    | some version =>
      if version.le browser.version then targets
      else targets.map fun other => if other.family == browser.family then browser else other) []

end Targets

end StyleInline.Stylesheet
