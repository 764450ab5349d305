import StyleInline.Stylesheet.Block

/-!
# Descriptors

Declarations that describe something other than elements: a font that is loaded, the colours of a
font, the way from one page to another, or the frames of an animation.
-/

namespace StyleInline.Stylesheet

namespace Descriptor

open StyleInline.Stylesheet.Grammar (keyword word perhaps)
open StyleInline.Stylesheet.Property (plain)

def formats : List String :=
  ["woff", "woff2", "truetype", "opentype", "embedded-opentype", "collection", "svg"]

/-- The format of a font, always in quotes. -/
def format : Grammar Spaced :=
  let shown (name : String) : Spaced :=
    plain (Written.text (if formats.contains name.toLower then name.toLower else name))
  shown <$> Grammar.call "format" (Grammar.string <|> Grammar.ident)

def technologies : List String :=
  ["features-opentype", "features-aat", "features-graphite", "color-colrv0", "color-colrv1",
    "color-svg", "color-sbix", "color-cbdt", "variations", "palettes", "incremental"]

def source : Grammar Spaced :=
  (Spaced.call "local" <$> Grammar.call "local" Property.Text.family) <|> do
    let found ← Image.addressText <$> address
    let format ← perhaps format
    let needs ← perhaps (Grammar.call "tech" (Grammar.listed (keyword technologies)))
    let shown (name : String) (value : Option Spaced) : Spaced :=
      (value.map fun value => .gap :: Spaced.call name value).getD []
    return found ++ shown "format" format ++ shown "tech" (needs.map Spaced.listed)

def hexNumber? (chars : List Char) : Option Nat :=
  if chars.isEmpty || 6 < chars.length then none
  else (chars.mapM Lexer.hexValue?).map fun digits =>
    digits.foldl (fun value digit => 16 * value + digit) 0

def hexText (value : Nat) : String := (String.ofList (Nat.toDigits 16 value)).toUpper

/-- The bounds of a range of characters, such as `u+4??` or `u+25-ff`. -/
def bounds? (text : String) : Option (Nat × Nat) :=
  match text.toLower.toList with
  | 'u' :: '+' :: digits =>
    let marks := (digits.reverse.takeWhile (· == '?')).length
    if 0 < marks then do
      let unit := Nat.pow 16 marks
      let fixed := digits.take (digits.length - marks)
      let start ← if fixed.isEmpty then some 0 else hexNumber? fixed
      return (start * unit, start * unit + unit - 1)
    else
      match digits.span (· != '-') with
      | (start, []) => (hexNumber? start).map fun value => (value, value)
      | (start, _ :: stop) => do return (← hexNumber? start, ← hexNumber? stop)
  | _ => none

def rangeOf? (text : String) : Option (Nat × Nat) :=
  (bounds? text).filter fun (start, stop) => start ≤ stop && stop ≤ 0x10FFFF

/-- The digits before marks that stand for a whole range, if there are such. -/
def marked? (start stop : Nat) : Nat → Option String
  | 0 => none
  | count + 1 =>
    let unit := Nat.pow 16 (count + 1)
    if start % unit == 0 && start + unit - 1 == stop then
      some ((if start == 0 then "" else hexText (start / unit)) ++ "".pushn '?' (count + 1))
    else marked? start stop count

def rangeText (bounds : Nat × Nat) : String :=
  let (start, stop) := bounds
  if start == stop then "U+" ++ hexText start
  else
    match marked? start stop 5 with
    | some text => "U+" ++ text
    | none => "U+" ++ hexText start ++ "-" ++ hexText stop

def ranges? (parts : List Part) : Option Spaced := do
  let found ← (Part.splitAt .comma parts).mapM fun (parts, _) =>
    rangeOf? (Raw.source (Part.trimmed parts))
  return Spaced.listed (found.map (plain ∘ rangeText))

def raw? (name : String) (parts : List Part) : Option Declaration :=
  if parts.any (·.isToken (.delim '!')) then none
  else (Raw.ofParts parts).toOption.map (Declaration.ofRaw .plain name)

/-- A descriptor whose value is kept as it is where its start is not understood; nothing may be left
behind what is. -/
def read? (name : String) (grammar : Grammar Spaced) (parts : List Part) : Option Declaration :=
  match grammar.run parts with
  | some (value, rest) =>
    if (Part.dropBlank rest).isEmpty then some ⟨name.toLower, [.plain], value, [], false⟩ else none
  | none => raw? name parts

/-- The slant of a font that is loaded: one angle, or the least and the greatest one. -/
def slant : Grammar Spaced := do
  let first ← Property.Text.style
  if first.head? != some (.text "oblique") then return first
  else
    match ← perhaps Quantity.angle with
    | none => return first
    | some angle =>
      let usual := plain "14deg"
      let least := if first.length < 2 then usual else first.drop 2
      let both := Property.pairText least (Quantity.text angle)
      return if both == usual then plain "oblique" else Spaced.words [plain "oblique", both]

def ofFont (name : String) (parts : List Part) : Option Declaration :=
  let lower := name.toLower
  let read (grammar : Grammar Spaced) : Option Declaration := read? name grammar parts
  if lower == "src" then read (Spaced.listed <$> Grammar.listed source)
  else if lower == "font-family" then read Property.Text.family
  else if lower == "font-style" then read slant
  else if lower == "font-weight" then read (Property.twofold Property.Text.weight)
  else if lower == "font-stretch" then read (Property.twofold Property.Text.stretch)
  else if lower == "unicode-range" then
    read (Grammar.mapped Grammar.rest ranges?)
  else raw? name parts

def basePalette : Grammar Spaced :=
  (plain ∘ toString) <$> Grammar.such Grammar.integer (0 ≤ ·) <|> keyword ["light", "dark"]

def paletteColor : Grammar Spaced := do
  let index ← Grammar.such Grammar.integer (0 ≤ ·)
  return plain (toString index) ++ Spaced.blank ++ (← Property.color)

def ofPalette (name : String) (parts : List Part) : Option Declaration :=
  let lower := name.toLower
  if lower == "font-family" then
    match Property.Text.family.run parts with
    | some ([.text family], _) =>
      if Property.Text.generic.contains family then none
      else read? name Property.Text.family parts
    | _ => raw? name parts
  else if lower == "base-palette" then read? name basePalette parts
  else if lower == "override-colors" then
    let found := (Grammar.listed paletteColor).run parts
    if found.any fun (colors, _) => colors.any (·.getLast? == some (.color .current)) then none
    else read? name (Spaced.listed <$> Grammar.listed paletteColor) parts
  else none

def ofTransition (name : String) (parts : List Part) : Option Declaration :=
  let lower := name.toLower
  if lower == "navigation" then read? name (keyword ["none", "auto"]) parts
  else if lower == "types" then
    read? name (keyword ["none"] <|> Spaced.words <$> Grammar.atLeastOne Property.ownName) parts
  else raw? name parts

/-- The descriptors in a block; what is not one is left out. -/
def listOf (read : String → List Part → Option Declaration) (block : List Part × Place) :
    List Declaration :=
  (Entry.list block).filterMap fun
    | .value name _ parts _ _ => read name parts
    | _ => none

def ways : List String :=
  ["cover", "contain", "entry", "exit", "entry-crossing", "exit-crossing"]

/-- The place of a frame: both ends have a second name. -/
def framePlace : Grammar Spaced :=
  (word ["from"] *> pure [.either "from" "0%"]) <|> keyword ["to"] <|>
  ((fun share =>
    if share == 1 then [.either "100%" "to"] else plain (Numeric.percentage share)) <$>
      Quantity.shareValue) <|> do
    let way ← keyword ways
    return Spaced.words [way, plain (Numeric.percentage (← Quantity.shareValue))]

def framePlaces : Grammar Spaced := Spaced.listed <$> Grammar.listed framePlace

end Descriptor

end StyleInline.Stylesheet
