import StyleInline.Stylesheet.Manner
import StyleInline.Stylesheet.Shade

/-!
# Colours

A colour of the usual kind has four channels of one byte each.  Of its spellings the shortest is
written: a name if it is shorter than the digits, and single digits where each channel repeats
its digit.
-/

namespace StyleInline.Stylesheet

inductive Color where
  | current
  | usual (channels : Channels)
  /-- A colour whose channels are no bytes. -/
  | other (shade : Shade)
  | system (name : String)
  | lightDark (light dark : Color)
  deriving BEq, Repr, Inhabited

namespace Color

def names : List (String × Nat) :=
  [("aliceblue", 0xf0f8ff), ("antiquewhite", 0xfaebd7), ("aqua", 0x00ffff),
    ("aquamarine", 0x7fffd4), ("azure", 0xf0ffff), ("beige", 0xf5f5dc), ("bisque", 0xffe4c4),
    ("black", 0x000000), ("blanchedalmond", 0xffebcd), ("blue", 0x0000ff),
    ("blueviolet", 0x8a2be2), ("brown", 0xa52a2a), ("burlywood", 0xdeb887),
    ("cadetblue", 0x5f9ea0), ("chartreuse", 0x7fff00), ("chocolate", 0xd2691e),
    ("coral", 0xff7f50), ("cornflowerblue", 0x6495ed), ("cornsilk", 0xfff8dc),
    ("crimson", 0xdc143c), ("cyan", 0x00ffff), ("darkblue", 0x00008b), ("darkcyan", 0x008b8b),
    ("darkgoldenrod", 0xb8860b), ("darkgray", 0xa9a9a9), ("darkgreen", 0x006400),
    ("darkgrey", 0xa9a9a9), ("darkkhaki", 0xbdb76b), ("darkmagenta", 0x8b008b),
    ("darkolivegreen", 0x556b2f), ("darkorange", 0xff8c00), ("darkorchid", 0x9932cc),
    ("darkred", 0x8b0000), ("darksalmon", 0xe9967a), ("darkseagreen", 0x8fbc8f),
    ("darkslateblue", 0x483d8b), ("darkslategray", 0x2f4f4f), ("darkslategrey", 0x2f4f4f),
    ("darkturquoise", 0x00ced1), ("darkviolet", 0x9400d3), ("deeppink", 0xff1493),
    ("deepskyblue", 0x00bfff), ("dimgray", 0x696969), ("dimgrey", 0x696969),
    ("dodgerblue", 0x1e90ff), ("firebrick", 0xb22222), ("floralwhite", 0xfffaf0),
    ("forestgreen", 0x228b22), ("fuchsia", 0xff00ff), ("gainsboro", 0xdcdcdc),
    ("ghostwhite", 0xf8f8ff), ("gold", 0xffd700), ("goldenrod", 0xdaa520), ("gray", 0x808080),
    ("green", 0x008000), ("greenyellow", 0xadff2f), ("grey", 0x808080), ("honeydew", 0xf0fff0),
    ("hotpink", 0xff69b4), ("indianred", 0xcd5c5c), ("indigo", 0x4b0082), ("ivory", 0xfffff0),
    ("khaki", 0xf0e68c), ("lavender", 0xe6e6fa), ("lavenderblush", 0xfff0f5),
    ("lawngreen", 0x7cfc00), ("lemonchiffon", 0xfffacd), ("lightblue", 0xadd8e6),
    ("lightcoral", 0xf08080), ("lightcyan", 0xe0ffff), ("lightgoldenrodyellow", 0xfafad2),
    ("lightgray", 0xd3d3d3), ("lightgreen", 0x90ee90), ("lightgrey", 0xd3d3d3),
    ("lightpink", 0xffb6c1), ("lightsalmon", 0xffa07a), ("lightseagreen", 0x20b2aa),
    ("lightskyblue", 0x87cefa), ("lightslategray", 0x778899), ("lightslategrey", 0x778899),
    ("lightsteelblue", 0xb0c4de), ("lightyellow", 0xffffe0), ("lime", 0x00ff00),
    ("limegreen", 0x32cd32), ("linen", 0xfaf0e6), ("magenta", 0xff00ff), ("maroon", 0x800000),
    ("mediumaquamarine", 0x66cdaa), ("mediumblue", 0x0000cd), ("mediumorchid", 0xba55d3),
    ("mediumpurple", 0x9370db), ("mediumseagreen", 0x3cb371), ("mediumslateblue", 0x7b68ee),
    ("mediumspringgreen", 0x00fa9a), ("mediumturquoise", 0x48d1cc), ("mediumvioletred", 0xc71585),
    ("midnightblue", 0x191970), ("mintcream", 0xf5fffa), ("mistyrose", 0xffe4e1),
    ("moccasin", 0xffe4b5), ("navajowhite", 0xffdead), ("navy", 0x000080), ("oldlace", 0xfdf5e6),
    ("olive", 0x808000), ("olivedrab", 0x6b8e23), ("orange", 0xffa500), ("orangered", 0xff4500),
    ("orchid", 0xda70d6), ("palegoldenrod", 0xeee8aa), ("palegreen", 0x98fb98),
    ("paleturquoise", 0xafeeee), ("palevioletred", 0xdb7093), ("papayawhip", 0xffefd5),
    ("peachpuff", 0xffdab9), ("peru", 0xcd853f), ("pink", 0xffc0cb), ("plum", 0xdda0dd),
    ("powderblue", 0xb0e0e6), ("purple", 0x800080), ("rebeccapurple", 0x663399),
    ("red", 0xff0000), ("rosybrown", 0xbc8f8f), ("royalblue", 0x4169e1),
    ("saddlebrown", 0x8b4513), ("salmon", 0xfa8072), ("sandybrown", 0xf4a460),
    ("seagreen", 0x2e8b57), ("seashell", 0xfff5ee), ("sienna", 0xa0522d), ("silver", 0xc0c0c0),
    ("skyblue", 0x87ceeb), ("slateblue", 0x6a5acd), ("slategray", 0x708090),
    ("slategrey", 0x708090), ("snow", 0xfffafa), ("springgreen", 0x00ff7f),
    ("steelblue", 0x4682b4), ("tan", 0xd2b48c), ("teal", 0x008080), ("thistle", 0xd8bfd8),
    ("tomato", 0xff6347), ("turquoise", 0x40e0d0), ("violet", 0xee82ee), ("wheat", 0xf5deb3),
    ("white", 0xffffff), ("whitesmoke", 0xf5f5f5), ("yellow", 0xffff00),
    ("yellowgreen", 0x9acd32)]

def systemNames : List String :=
  ["accentcolor", "accentcolortext", "activetext", "buttonborder", "buttonface", "buttontext",
    "canvas", "canvastext", "field", "fieldtext", "graytext", "highlight", "highlighttext",
    "linktext", "mark", "marktext", "selecteditem", "selecteditemtext", "visitedtext",
    "activeborder", "activecaption", "appworkspace", "background", "buttonhighlight",
    "buttonshadow", "captiontext", "inactiveborder", "inactivecaption", "inactivecaptiontext",
    "infobackground", "infotext", "menu", "menutext", "scrollbar", "threeddarkshadow",
    "threedface", "threedhighlight", "threedlightshadow", "threedshadow", "window",
    "windowframe", "windowtext"]

/-- The channels whose digits have a value, without transparency. -/
def ofDigits (value : Nat) : Channels :=
  ⟨value / 65536 % 256, value / 256 % 256, value % 256, 255⟩

def ofName? (name : String) : Option Color :=
  let name := name.toLower
  if name == "transparent" then some (.usual ⟨0, 0, 0, 0⟩)
  else if name == "currentcolor" then some .current
  else
    match names.lookup name with
    | some digits => some (.usual (ofDigits digits))
    | none => if systemNames.contains name then some (.system name) else none

def ofHex? (text : String) : Option Color := do
  match (← text.toList.mapM Lexer.hexValue?) with
  | [r, g, b] => some (.usual ⟨17 * r, 17 * g, 17 * b, 255⟩)
  | [r, g, b, a] => some (.usual ⟨17 * r, 17 * g, 17 * b, 17 * a⟩)
  | [r, r', g, g', b, b'] => some (.usual ⟨16 * r + r', 16 * g + g', 16 * b + b', 255⟩)
  | [r, r', g, g', b, b', a, a'] =>
    some (.usual ⟨16 * r + r', 16 * g + g', 16 * b + b', 16 * a + a'⟩)
  | _ => none

end Color

namespace Channels

/-- The channels that are written: without the last one where nothing shines through. -/
def written (channels : Channels) : List Nat :=
  [channels.red, channels.green, channels.blue] ++
    (if channels.alpha == 255 then [] else [channels.alpha])

def hex (channels : Channels) : String :=
  let digit (value : Nat) : Char := Nat.digitChar (value % 16)
  let digits :=
    if channels.written.all fun channel => channel / 16 == channel % 16 then
      channels.written.map digit
    else channels.written.flatMap fun channel => [digit (channel / 16), digit channel]
  "#" ++ String.ofList digits

/-- The least number of places behind the point, two or three, that tells an alpha channel. -/
def alphaText (alpha : Nat) : String :=
  let share : Float32 := Float32.ofNat alpha / 255
  let short := (share * 100).round / 100
  if byte short == alpha then Numeric.text short else Numeric.text ((share * 1000).round / 1000)

def listed (manner : Manner) (channels : Channels) : String :=
  let comma := "," ++ manner.gap
  "rgba(" ++ comma.intercalate
    [toString channels.red, toString channels.green, toString channels.blue,
      alphaText channels.alpha] ++ ")"

/-- The shortest spelling of a colour that the targets understand. -/
def text (manner : Manner) (channels : Channels) : String :=
  if channels.alpha == 255 then
    let named := Color.names.find? fun (name, value) =>
      Color.ofDigits value == channels && name.length < channels.hex.length
    match named with
    | some (name, _) => name
    | none => channels.hex
  else if !manner.targets.understand .alphaDigits then
    if manner.isNarrow && channels == ⟨0, 0, 0, 0⟩ then "transparent"
    else channels.listed manner
  else channels.hex

end Channels

namespace Color

def channelText : Option Float32 → String
  | none => "none"
  | some value => Numeric.text value

def shadeText (manner : Manner) (shade : Shade) : String :=
  let isLight := shade.space.isLight
  let first (value : Option Float32) : String :=
    match value with
    | some light => if isLight then Numeric.percentage light else Numeric.text light
    | none => "none"
  let shown := [first shade.channels.1, channelText shade.channels.2.1,
    channelText shade.channels.2.2]
  let head :=
    if isLight then shade.space.name ++ "(" else "color(" ++ shade.space.name ++ " "
  let tail :=
    if shade.alpha == some 1 then ""
    else manner.gap ++ "/" ++ manner.gap ++ channelText shade.alpha
  head ++ " ".intercalate shown ++ tail ++ ")"

def text (manner : Manner) : Color → String
  | .current => "currentColor"
  | .usual channels => channels.text manner
  | .other shade =>
    if shade.space.hasBytes then shade.bytes.text manner else shadeText manner shade
  | .system name => name
  | .lightDark light dark =>
    let (light, dark) := (light.text manner, dark.text manner)
    let comma := "," ++ manner.gap
    if manner.targets.understand .lightDark then
      "light-dark(" ++ light ++ comma ++ dark ++ ")"
    else
      "var(--lightningcss-light" ++ comma ++ light ++ ")" ++ manner.gap ++
        "var(--lightningcss-dark" ++ comma ++ dark ++ ")"

def isUnderstood (targets : Targets) : Color → Bool
  | .current | .usual _ | .system _ => true
  | .other shade => (featureOf? shade.space).all targets.understand
  | .lightDark light dark =>
    targets.understand .lightDark && light.isUnderstood targets && dark.isUnderstood targets
where
  featureOf? : ColorSpace → Option Feature
    | .rgb | .hsl | .hwb => none
    | .lab | .lch => some .labColors
    | .oklab | .oklch => some .oklabColors
    | .displayP3 => some .wideColors
    | _ => some .namedColors

end Color

end StyleInline.Stylesheet
