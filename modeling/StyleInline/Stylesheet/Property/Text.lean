import StyleInline.Stylesheet.Property.Border

/-!
# Text

Fonts, lines along text, marks of lists and how text is broken and aligned.
-/

namespace StyleInline.Stylesheet.Property.Text

open StyleInline.Stylesheet.Grammar (keyword word perhaps)

/-- Families of fonts that every system has, and words with which a family is taken over. -/
def generic : List String :=
  ["serif", "sans-serif", "cursive", "fantasy", "monospace", "system-ui", "emoji", "math",
    "fangsong", "ui-serif", "ui-sans-serif", "ui-monospace", "ui-rounded", "initial", "inherit",
    "unset", "default", "revert", "revert-layer"]

/-- The name of a family as it is written: without quotes if it reads as names. -/
def familyText (name : String) : String :=
  let quoted := Written.text name
  if name.isEmpty || generic.contains name.toLower then quoted
  else
    let bare := " ".intercalate
      (((name.toList.splitOn ' ').map String.ofList).map Written.name)
    if bare.utf8ByteSize < name.utf8ByteSize + 2 then bare else quoted

def ownFamily : Grammar Spaced :=
  (plain ∘ familyText) <$> (Grammar.string <|>
    " ".intercalate <$> Grammar.atLeastOne Grammar.ident)

def family : Grammar Spaced := keyword generic <|> ownFamily

def style : Grammar Spaced :=
  keyword ["normal", "italic"] <|> do
    let _ ← word ["oblique"]
    let angle := ((← perhaps Quantity.angle).map Quantity.text).getD (plain "14deg")
    return if angle == plain "14deg" then plain "oblique" else Spaced.words [plain "oblique", angle]

def weight : Grammar Spaced :=
  keyword ["bolder", "lighter"] <|>
  ((fun found => if found == "bold" then [.either "bold" "700"] else [.either "normal" "400"]) <$>
    word ["normal", "bold"]) <|>
  (numberText <$> Grammar.such Quantity.numberValue fun value => 1 ≤ value && value ≤ 1000)

def stretchWords : List (String × String) :=
  [("normal", "100%"), ("ultra-condensed", "50%"), ("extra-condensed", "62.5%"),
    ("condensed", "75%"), ("semi-condensed", "87.5%"), ("semi-expanded", "112.5%"),
    ("expanded", "125%"), ("extra-expanded", "150%"), ("ultra-expanded", "200%")]

def stretchWord : Grammar Spaced := do
  let found ← word (stretchWords.map Prod.fst)
  return [.either found ((stretchWords.lookup found).getD found)]

def stretch : Grammar Spaced :=
  stretchWord <|> ((plain ∘ Numeric.percentage) <$> Quantity.shareValue)

def caps : List String :=
  ["normal", "small-caps", "all-small-caps", "petite-caps", "all-petite-caps", "unicase",
    "titling-caps"]

def size : Grammar Spaced :=
  sized ["xx-small", "x-small", "small", "medium", "large", "x-large", "xx-large", "xxx-large",
    "smaller", "larger"]

/-- The height of a line; a number counts sizes of the font. -/
def lineHeight : Grammar Spaced := keyword ["normal"] <|> number <|> lengthOrShare

def fontNames : List String :=
  ["font-family", "font-size", "font-style", "font-variant-caps", "font-weight", "font-stretch",
    "line-height"]

def usualWeight : Spaced := [.either "normal" "400"]

def usualStretch : Spaced := [.either "normal" "100%"]

def font : Grammar Fields := do
  match ← anyOrder [word ["normal"] *> pure none, some <$> style, some <$> weight,
      some <$> keyword ["small-caps"], some <$> stretchWord] with
  | [_, style, weight, caps, stretch] =>
    let value (found : Option (Option Spaced)) (usual : Spaced) : List Spaced :=
      [found.join.getD usual]
    let size ← size
    let height ← perhaps (Grammar.slash *> lineHeight)
    let families ← Grammar.listed family
    return [("font-family", families), ("font-size", [size]),
      ("font-style", value style (plain "normal")),
      ("font-variant-caps", value caps (plain "normal")),
      ("font-weight", value weight usualWeight), ("font-stretch", value stretch usualStretch),
      ("line-height", [height.getD (plain "normal")])]
  | _ => Grammar.fail

/-- Families without those that are named twice. -/
def familiesText (families : List Spaced) : Spaced := Spaced.listed families.eraseDups

/-- Writes all about a font; only one kind of capitals can be said together with the rest. -/
def joinFont (_ : Targets) : List (List Spaced) → Option Spaced
  | [families, [size], [style], [caps], [weight], [stretch], [height]] =>
    let hasCaps := caps == plain "small-caps"
    let head := present
      [unusual (plain "normal") style, if hasCaps then caps else [], unusual usualWeight weight,
        unusual usualStretch stretch, size]
    let height := if height == plain "normal" then [] else Spaced.slash ++ height
    some (head ++ height ++ Spaced.blank ++ familiesText families)
  | _ => none

def fonts : List Property :=
  [layered "font-family" family, single "font-size" size, single "font-style" style,
    chosen "font-variant-caps" caps, single "font-weight" weight, single "font-stretch" stretch,
    single "line-height" lineHeight, several "font" font]

def fontBundle : Bundle :=
  let whole : Step := .free fun targets all =>
    let (written, left) := Step.join targets "font" fontNames joinFont all
    let caps := Held.first? "font-variant-caps" all
    match caps, written with
    | some caps, _ :: _ =>
      if caps == plain "normal" || caps == plain "small-caps" then (written, left)
      else (written, left ++ (Held.find? "font-variant-caps" all).toList)
    | _, _ => (written, left)
  let families : Step := .joined "font-family" ["font-family"] fun _ layers =>
    layers.head?.map familiesText
  Bundle.ofSteps (fonts.map Property.name)
    (whole :: families :: (fontNames.drop 1).map Step.single)

def decorationLine : Grammar Spaced :=
  keyword ["none", "spelling-error", "grammar-error"] <|> do
    let kinds := ["underline", "overline", "line-through", "blink"]
    let found ← Grammar.atLeastOne (word kinds)
    return Spaced.words ((kinds.filter found.contains).map plain)

def decorationStyle : Grammar Spaced := keyword ["solid", "double", "dotted", "dashed", "wavy"]

def thickness : Grammar Spaced := sized ["auto", "from-font"]

def decorationNames : List String :=
  ["text-decoration-line", "text-decoration-thickness", "text-decoration-style",
    "text-decoration-color"]

def usualDecoration : List Spaced :=
  [plain "none", plain "auto", plain "solid", Spaced.ofColor .current]

def decoration : Grammar Fields := do
  let found ← anyOrder [decorationLine, thickness, decorationStyle, color]
  return decorationNames.zip
    ((found.zip usualDecoration).map fun (value, usual) => [value.getD usual])

def joinDecoration (_ : Targets) : List (List Spaced) → Option Spaced
  | [[line], [thickness], [style], [color]] =>
    if line == plain "none" then some line
    else
      some (present [line, unusual (plain "auto") thickness, unusual (plain "solid") style,
        unusual (Spaced.ofColor .current) color])
  | _ => none

def emphasisStyle : Grammar Spaced :=
  keyword ["none"] <|> string <|> do
    match ← someOrder [word ["filled", "open"],
        word ["dot", "circle", "double-circle", "triangle", "sesame"]] with
    | [fill, shape] =>
      let shownFill := fill.filter fun fill => fill == "open" || shape.isNone
      return Spaced.words ((shownFill.toList ++ shape.toList).map plain)
    | _ => Grammar.fail

def emphasis : Grammar Fields := do
  match ← anyOrder [emphasisStyle, color] with
  | [style, color] =>
    return [("text-emphasis-style", [style.getD (plain "none")]),
      ("text-emphasis-color", [color.getD (Spaced.ofColor .current)])]
  | _ => Grammar.fail

def joinEmphasis (_ : Targets) : List (List Spaced) → Option Spaced
  | [[style], [color]] =>
    some (if style == plain "none" then style
      else present [style, unusual (Spaced.ofColor .current) color])
  | _ => none

/-- Where marks on text stand; the usual side is left out. -/
def emphasisPosition : Grammar Spaced := do
  match ← someOrder [word ["over", "under"], word ["left", "right"]] with
  | [some height, side] =>
    return plain (height ++ if side == some "left" then " left" else "")
  | _ => Grammar.fail

def decorations : List Property :=
  [(single "text-decoration-line" decorationLine).withPrefixes [.webkit, .moz],
    (single "text-decoration-style" decorationStyle).withPrefixes [.webkit, .moz],
    (single "text-decoration-color" color).withPrefixes [.webkit, .moz],
    single "text-decoration-thickness" thickness,
    (several "text-decoration" decoration).withPrefixes [.webkit, .moz],
    (single "text-emphasis-style" emphasisStyle).withPrefixes [.webkit],
    (single "text-emphasis-color" color).withPrefixes [.webkit],
    (several "text-emphasis" emphasis).withPrefixes [.webkit],
    (single "text-emphasis-position" emphasisPosition).withPrefixes [.webkit]]

/-- Lines along text are written together; only new kinds of lines need prefixes. -/
def decorationBundle : Bundle :=
  let whole : Step := .free fun targets all =>
    let isNew := Held.first? "text-decoration-style" all != some (plain "solid") ||
      Held.first? "text-decoration-color" all != some (Spaced.ofColor .current)
    let (written, left) := Step.join targets "text-decoration" decorationNames joinDecoration all
    let needed := written.map fun one =>
      if isNew || !one.prefixes.contains .plain then one
      else { one with prefixes := [.plain] }
    (needed, left)
  Bundle.ofSteps (decorations.map Property.name)
    [whole, .single "text-decoration-line", .single "text-decoration-style",
      .single "text-decoration-color", .single "text-decoration-thickness",
      .joined "text-emphasis" ["text-emphasis-style", "text-emphasis-color"] joinEmphasis,
      .single "text-emphasis-style", .single "text-emphasis-color",
      .single "text-emphasis-position"]

def counters : List String :=
  ["decimal", "decimal-leading-zero", "arabic-indic", "armenian", "upper-armenian",
    "lower-armenian", "bengali", "cambodian", "khmer", "cjk-decimal", "devanagari", "georgian",
    "gujarati", "gurmukhi", "hebrew", "kannada", "lao", "malayalam", "mongolian", "myanmar",
    "oriya", "persian", "lower-roman", "upper-roman", "tamil", "telugu", "thai", "tibetan",
    "lower-alpha", "lower-latin", "upper-alpha", "upper-latin", "lower-greek", "hiragana",
    "hiragana-iroha", "katakana", "katakana-iroha", "disc", "circle", "square",
    "disclosure-open", "disclosure-closed", "cjk-earthly-branch", "cjk-heavenly-stem",
    "japanese-informal", "japanese-formal", "korean-hangul-formal", "korean-hanja-informal",
    "korean-hanja-formal", "simp-chinese-informal", "simp-chinese-formal",
    "trad-chinese-informal", "trad-chinese-formal", "ethiopic-numeric"]

def marker : Grammar Spaced := keyword ("none" :: counters) <|> string <|> ownName

def listNames : List String := ["list-style-position", "list-style-image", "list-style-type"]

/-- All about a list; a `none` is meant for what is not said. -/
def list : Grammar Fields := do
  let known (grammar : Grammar Spaced) : Grammar Spaced :=
    Grammar.such grammar (· != plain "none")
  match ← someOrder [keyword ["none"], keyword ["none"], keyword ["inside", "outside"],
      known Image.orNone, known marker] with
  | [first, second, position, image, kind] =>
    let said := [first, second, image, kind].filter Option.isSome
    if 2 < said.length then Grammar.fail
    let usual := if first.isSome && kind.isNone then plain "none" else plain "disc"
    return listNames.zip
      [[position.getD (plain "outside")], [image.getD (plain "none")], [kind.getD usual]]
  | _ => Grammar.fail

def joinList (_ : Targets) : List (List Spaced) → Option Spaced
  | [[position], [image], [kind]] =>
    let shown := present
      [unusual (plain "outside") position, unusual (plain "none") image,
        unusual (plain "disc") kind]
    some (if shown.isEmpty then position else shown)
  | _ => none

def lists : List Property :=
  [chosen "list-style-position" ["inside", "outside"], single "list-style-image" Image.orNone,
    single "list-style-type" marker, several "list-style" list]

def listBundle : Bundle :=
  Bundle.ofSteps (lists.map Property.name)
    (.joined "list-style" listNames joinList :: listNames.map Step.single)

def shadow : Grammar Spaced := do
  match ← anyOrder [Box.shadowText <$> Box.shadowLengths, Box.shadowColor] with
  | [some lengths, color] => return present [lengths, color.getD []]
  | _ => Grammar.fail

def transform : Grammar Spaced := do
  match ← someOrder [keyword ["none", "uppercase", "lowercase", "capitalize"],
      keyword ["full-width"], keyword ["full-size-kana"]] with
  | [case, width, kana] =>
    let forms := width.toList ++ kana.toList
    let case := case.filter fun case => case != plain "none" || forms.isEmpty
    return Spaced.words (case.toList ++ forms)
  | _ => Grammar.fail

def indent : Grammar Spaced := do
  match ← anyOrder [lengthOrShare, keyword ["hanging"], keyword ["each-line"]] with
  | [some amount, hanging, each] => return present [amount, hanging.getD [], each.getD []]
  | _ => Grammar.fail

def others : List Property :=
  [layered "text-shadow" shadow, single "text-transform" transform,
    single "text-indent" indent,
    chosen "white-space" ["normal", "pre", "nowrap", "pre-wrap", "break-spaces", "pre-line"],
    (single "tab-size" (number <|> length)).withPrefixes [.moz, .o],
    chosen "word-break" ["normal", "keep-all", "break-all", "break-word"],
    chosen "line-break" ["auto", "loose", "normal", "strict", "anywhere"],
    (chosen "hyphens" ["none", "manual", "auto"]).withPrefixes [.webkit, .moz, .ms],
    chosen "overflow-wrap" ["normal", "break-word", "anywhere"],
    chosen "word-wrap" ["normal", "break-word", "anywhere"],
    chosen "text-align"
      ["start", "end", "left", "right", "center", "justify", "match-parent", "justify-all"],
    (chosen "text-align-last"
      ["auto", "start", "end", "left", "right", "center", "justify", "match-parent"]).withPrefixes
      [.moz],
    chosen "text-justify" ["auto", "none", "inter-word", "inter-character"],
    single "word-spacing" (keyword ["normal"] <|> length),
    single "letter-spacing" (keyword ["normal"] <|> length),
    (chosen "text-decoration-skip-ink" ["auto", "none", "all"]).withPrefixes [.webkit],
    (single "text-size-adjust"
      (keyword ["auto", "none"] <|>
        ((plain ∘ Numeric.percentage) <$> Quantity.shareValue))).withPrefixes [.webkit, .moz, .ms],
    chosen "direction" ["ltr", "rtl"],
    chosen "unicode-bidi"
      ["normal", "embed", "isolate", "bidi-override", "isolate-override", "plaintext"],
    (chosen "box-decoration-break" ["slice", "clone"]).withPrefixes [.webkit],
    single "vertical-align"
      (sized ["baseline", "sub", "super", "top", "text-top", "middle", "bottom", "text-bottom"]),
    chosen "marker-side" ["match-self", "match-parent"],
    single "font-palette" ((plain ∘ Written.name) <$> dashedName)]

def properties : List Property := fonts ++ decorations ++ lists ++ others

end StyleInline.Stylesheet.Property.Text
