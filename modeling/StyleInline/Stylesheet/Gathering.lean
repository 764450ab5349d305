import StyleInline.Stylesheet.Direction
import StyleInline.Stylesheet.Property.Drawing
import StyleInline.Stylesheet.Property.Flex
import StyleInline.Stylesheet.Property.Grid
import StyleInline.Stylesheet.Property.Text
import StyleInline.Stylesheet.Version

/-!
# Gathered declarations

The declarations of a block are read, taken apart and put together again in as few as possible.
Properties that belong together are held back until all are known; then they are written behind
the others, in an order of their own.
-/

namespace StyleInline.Stylesheet

namespace Property

def all : List Property :=
  Background.properties ++ Border.properties ++ Flex.properties ++ Flex.alignments ++
    Grid.properties ++ Box.properties ++ Text.properties ++ Motion.properties ++
    Drawing.properties

def find? (name : String) : Option Property := all.find? (·.name == name)

/-- The prefix of a name and the property, if the property may have that prefix. -/
def ofName? (name : String) : Option (Prefix × Property) :=
  match find? name with
  | some property => some (.plain, property)
  | none =>
    let (before, rest) := Prefix.split name
    match find? rest with
    | some property => if property.prefixes.contains before then some (before, property) else none
    | none => none

def rawNames : List String := ["mask", "all"]

def isKnown (name : String) : Bool := (find? name).isSome || rawNames.contains name

end Property

namespace Bundle

def all : List Bundle :=
  [Property.Background.bundle, Property.Border.bundle, Property.Border.radiusBundle,
    Property.Border.outlineBundle, Property.Flex.bundle, Property.Grid.bundle,
    Property.Flex.alignmentBundle, Property.Box.sizeBundle,
    Property.Box.aroundBundle "margin" "margin-" (some .logicalPairs),
    Property.Box.aroundBundle "padding" "padding-" (some .logicalPairs),
    Property.Box.aroundBundle "scroll-margin" "scroll-margin-" none,
    Property.Box.aroundBundle "scroll-padding" "scroll-padding-" none,
    Property.Text.fontBundle, Property.Text.decorationBundle, Property.Text.listBundle,
    Property.Motion.transitionBundle, Property.Motion.animationBundle,
    ofSteps ["display"] [.free display], ofSteps ["position"] [.free position],
    Property.Box.insetBundle, Property.Box.overflowBundle, Property.Motion.transformBundle,
    Property.Box.shadowBundle, Property.Drawing.maskBundle, Property.Drawing.containerBundle]
where
  spelled (name : String) (prefixing : Prefixing) (spellings : List (Prefix × String))
      (targets : Targets) (all : List Held) : List Declaration × List Held :=
    match Held.find? name all with
    | none => ([], all)
    | some held =>
      let usual := (spellings.lookup .plain).map Spaced.ofText
      let words :=
        if held.layers.getLast? == usual then
          (prefixing.neededBy targets).filterMap fun before => spellings.lookup before
        else []
      let values :=
        if words.isEmpty then held.layers
        else held.layers.dropLast ++ words.map Spaced.ofText
      let one (value : Spaced) : Declaration :=
        ⟨name, [.plain], value, [(name, [value])], false⟩
      (values.map one, Held.without [name] all)
  display (targets : Targets) (all : List Held) : List Declaration × List Held :=
    let isInline := Held.first? "display" all == some (Spaced.ofText "inline-flex")
    let spellings : List (Prefix × String) :=
      if isInline then
        [(.webkit, "-webkit-inline-flex"), (.ms, "-ms-inline-flexbox"), (.plain, "inline-flex")]
      else [(.webkit, "-webkit-flex"), (.ms, "-ms-flexbox"), (.plain, "flex")]
    spelled "display" Prefixing.flex spellings targets all
  position : Targets → List Held → List Declaration × List Held :=
    spelled "position" Prefixing.sticky [(.webkit, "-webkit-sticky"), (.plain, "sticky")]

def of? (property : String) : Option Bundle := all.find? (·.members.contains property)

/-- A property belongs to a bundle that is written before sizes are. -/
def isBeforeSizes (property : String) : Bool :=
  (all.takeWhile (·.members != Property.Box.sizeBundle.members)).any (·.members.contains property)

end Bundle

namespace Declaration

def ofRaw (before : Prefix) (property : String) (value : Spaced) : Declaration :=
  ⟨property, [before], value, [], false⟩

/-- What a known property means by some parts, or the parts as they are. -/
def ofKnown (before : Prefix) (property : Property) (parts : List Part) :
    Except Fault Declaration :=
  match property.grammar.whole? parts with
  | some fields =>
    let value :=
      match fields with
      | [(_, layers)] => Spaced.listed layers
      | _ => []
    .ok ⟨property.name, [before], value, fields, false⟩
  | none => return ofRaw before property.name (← Raw.ofParts parts)

def ofParts (name : String) (parts : List Part) : Except Fault Declaration := do
  if name.startsWith "--" then return ofRaw .plain name (← Raw.ofParts parts)
  else
    match Property.ofName? name.toLower with
    | some (before, property) => ofKnown before property parts
    | none =>
      let known := Property.rawNames.contains name.toLower
      return ofRaw .plain (if known then name.toLower else name) (← Raw.ofParts parts)

end Declaration

/-- Declarations that are written, and values that are held back. -/
structure Gathering where
  written : List Declaration
  held : List Held
  /-- The direction of the text, which is written behind all that is not held. -/
  directions : List Declaration
  /-- Backgrounds with prefixes in their images, which are written in front of the last one. -/
  stopgaps : List Declaration
  directed : List Directed
  dark : List Declaration
  deriving Inhabited

namespace Gathering

def empty : Gathering := ⟨[], [], [], [], [], []⟩

/-- Writes declarations as targets understand them. -/
def write (targets : Targets) (gathering : Gathering) (declarations : List Declaration) :
    Gathering :=
  let (found, directed) := Direction.lowered targets declarations
  { gathering with
    written := found.foldl (fun written one => written ++ one.versionsBehind targets written)
      gathering.written
    directed := gathering.directed ++ directed }

def flush (targets : Targets) (bundle : Bundle) (gathering : Gathering) : Gathering :=
  let (mine, others) := gathering.held.partition fun held => bundle.members.contains held.name
  { gathering with held := others }.write targets (Step.runAll targets bundle.steps mine)

def isLogical (name : String) : Bool :=
  name.startsWith "inset-" || name.startsWith "border-start" || name.startsWith "border-end" ||
    ["block", "inline"].any fun axis =>
      (name.toList.splitOn '-').any fun word => String.ofList word == axis

/-- A new value cannot take the place of what is held: both are needed. -/
def conflicts (targets : Targets) (held : List Held) (prefixes : List Prefix) (name : String)
    (layers : List Spaced) : Bool :=
  match Held.find? name held with
  | some before =>
    before.layers != layers &&
      (!prefixes.all before.prefixes.contains ||
        (!targets.isEmpty && !layers.all (·.isUnderstood targets)))
  | none => false

def alikeDisplays : List (List String) :=
  [["flex", "-webkit-flex", "-ms-flexbox", "-webkit-box", "-moz-box"],
    ["inline-flex", "-webkit-inline-flex", "-ms-inline-flexbox", "-webkit-inline-box",
      "-moz-inline-box"]]

/-- The values of `display` to be written when one more comes behind others. -/
def displays (targets : Targets) (before : List Spaced) (value : Spaced) : List Spaced :=
  let isOne (words : List String) (value : Spaced) : Bool :=
    words.any fun word => value == Spaced.ofText word
  let isPlain := isOne ["flex", "inline-flex"]
  match before.getLast? with
  | none => [value]
  | some last =>
    let areAlike := alikeDisplays.any fun words => isOne words last && isOne words value
    if last == value || !areAlike then before.dropLast ++ [value]
    else if !targets.isEmpty && isPlain value then [value]
    else if targets.isEmpty || !isPlain last then before ++ [value]
    else before.dropLast ++ [value]

def hold (targets : Targets) (held : List Held) (prefixes : List Prefix) (name : String)
    (layers : List Spaced) : List Held :=
  match Held.find? name held with
  | some before =>
    let layers :=
      if name == "display" then displays targets before.layers (Spaced.listed layers) else layers
    held.map fun one =>
      if one.name == name then ⟨name, layers, Prefix.inOrder (one.prefixes ++ prefixes)⟩ else one
  | none => held ++ [⟨name, layers, prefixes⟩]

def isPrefixedImage (image : Spaced) : Bool :=
  match image.head? with
  | some (.text name) => name.startsWith "-"
  | _ => false

def endsPrefixed (held : List Held) : Bool :=
  (Held.find? "background-image" held).any fun one => one.layers.any isPrefixedImage

/-- Keeps a background whose image has a prefix, unless it is the last one; what was kept before
is not needed where targets tell which prefixes are. -/
def keepStopgap (targets : Targets) (bundle : Bundle) (gathering : Gathering)
    (declaration : Declaration) : Gathering :=
  match declaration.fields.lookup "background-image" with
  | none => gathering
  | some images =>
    if images.any isPrefixedImage then
      let held := declaration.fields.map fun (name, layers) => (⟨name, layers, [.plain]⟩ : Held)
      { gathering with
        stopgaps := gathering.stopgaps ++ Step.runAll targets bundle.steps held }
    else if targets.isEmpty then gathering
    else { gathering with stopgaps := [] }

def writeStopgaps (gathering : Gathering) : Gathering :=
  let found :=
    if endsPrefixed gathering.held then gathering.stopgaps.dropLast else gathering.stopgaps
  { gathering with written := gathering.written ++ found, stopgaps := [] }

def bundled (targets : Targets) (bundle : Bundle) (gathering : Gathering)
    (declaration : Declaration) : Gathering :=
  if declaration.fields.isEmpty then
    let gathering := gathering.flush targets bundle
    let prefixes :=
      Declaration.prefixesFor targets declaration.property declaration.prefixes
    gathering.write targets [{ declaration with prefixes }]
  else
    let kept := gathering.held.filter fun held =>
      !(bundle.members.contains held.name && bundle.voids declaration.property held.name)
    let mine := kept.filter fun held => bundle.members.contains held.name
    let turns := declaration.fields.any fun (name, _) =>
      mine.any fun held => isLogical held.name != isLogical name
    let clashes := declaration.fields.any fun (name, layers) =>
      conflicts targets mine declaration.prefixes name layers
    let gathering := { gathering with held := kept }.keepStopgap targets bundle declaration
    let gathering := if turns || clashes then gathering.flush targets bundle else gathering
    { gathering with
      held := declaration.fields.foldl
        (fun held (name, layers) => hold targets held declaration.prefixes name layers)
        gathering.held }

/-- Properties whose later declaration takes the place of an earlier one. -/
def replacing : List String :=
  ["color", "text-shadow", "filter", "backdrop-filter", "fill", "stroke", "caret-color", "caret"]

/-- Properties whose declarations with the same value become one with several prefixes. -/
def prefixed : List String :=
  ["transform-origin", "transform-style", "backface-visibility", "perspective",
    "perspective-origin", "box-sizing", "tab-size", "hyphens", "text-align-last",
    "text-decoration-skip-ink", "text-overflow", "user-select", "appearance", "clip-path",
    "box-decoration-break", "text-size-adjust", "print-color-adjust"]

def change? (property : String) (change : Declaration → Option Declaration) :
    List Declaration → Option (List Declaration)
  | [] => none
  | first :: rest =>
    match change? property change rest with
    | some rest => some (first :: rest)
    | none =>
      if first.property == property && !rest.any (·.property == property) then
        (change first).map (· :: rest)
      else none

def put (change : Declaration → Option Declaration) (gathering : Gathering)
    (declaration : Declaration) : Gathering :=
  match change? declaration.property change gathering.written with
  | some written => { gathering with written }
  | none => { gathering with written := gathering.written ++ [declaration] }

/-- All that came before is void, but for custom properties and the direction of the text. -/
def reset (gathering : Gathering) (declaration : Declaration) : Gathering :=
  { gathering with
    written := gathering.written.filter Declaration.isCustom ++ [declaration]
    held := [] }

/-- Writes the sizes that are held in front of a known property whose value is not understood,
unless it belongs to a bundle that is written before sizes are. -/
def settleSizes (targets : Targets) (gathering : Gathering) (declaration : Declaration) :
    Gathering :=
  let property := declaration.property
  if declaration.fields.isEmpty && Property.isKnown property && !Bundle.isBeforeSizes property then
    gathering.flush targets Property.Box.sizeBundle
  else gathering

/-- A custom property whose value is a word or, if that is empty, a blank. -/
def customWord (name word : String) : Declaration :=
  .ofRaw .plain name (if word.isEmpty then [.either "" " "] else Spaced.ofText word)

/-- Adds the themes that a block may have.  Where targets do not know colours that depend on the
theme, two custom properties tell which theme holds. -/
def putScheme (targets : Targets) (gathering : Gathering) (declaration : Declaration) :
    Gathering :=
  let switch (light dark : String) : List Declaration :=
    [customWord "--lightningcss-light" light, customWord "--lightningcss-dark" dark]
  let has (word : String) : Bool := declaration.value.contains (.text word)
  let isDark := !declaration.fields.isEmpty && has "dark"
  let isLight := !declaration.fields.isEmpty && has "light"
  let (switches, dark) :=
    if targets.understand .lightDark then ([], [])
    else if isLight then
      (switch "initial" "", if isDark then switch "" "initial" else [])
    else if isDark then (switch "" "initial", [])
    else ([], [])
  { gathering with
    written := gathering.written ++ switches ++ [declaration]
    dark := gathering.dark ++ dark }

/-- Adds a declaration in the place of an earlier one of the same property, if all targets
understand it or its meaning is not known. -/
def replaced (targets : Targets) (gathering : Gathering) (declaration : Declaration) :
    Gathering :=
  let isUnderstood :=
    targets.isEmpty || declaration.fields.isEmpty || declaration.value.isUnderstood targets
  match change? declaration.property
      (fun _ => if isUnderstood then some declaration else none) gathering.written with
  | some written => { gathering with written }
  | none =>
    { gathering with
      written := gathering.written ++ declaration.versionsBehind targets gathering.written }

/-- Adds a declaration. -/
def add (targets : Targets) (gathering : Gathering) (declaration : Declaration) : Gathering :=
  let gathering := gathering.settleSizes targets declaration
  let property := declaration.property
  let prefixes := Declaration.prefixesFor targets property declaration.prefixes
  match Bundle.of? property with
  | some bundle =>
    if property == "position" && declaration.fields.isEmpty then
      { gathering with written := gathering.written ++ [declaration] }
    else bundled targets bundle gathering declaration
  | none =>
    if replacing.contains property then replaced targets gathering { declaration with prefixes }
    else if prefixed.contains property then
      let changed (before : Declaration) : Option Declaration :=
        if before.value == declaration.value || before.prefixes == declaration.prefixes then
          some { declaration with
            prefixes := Declaration.prefixesFor targets property
              (before.prefixes ++ declaration.prefixes) }
        else none
      put changed gathering { declaration with prefixes }
    else if property == "direction" || property == "unicode-bidi" then
      { gathering with
        directions := (gathering.directions.filter (·.property != property)) ++ [declaration] }
    else if property == "color-scheme" then putScheme targets gathering declaration
    else if property == "all" then reset gathering declaration
    else if declaration.isCustom then put (fun _ => some declaration) gathering declaration
    else { gathering with written := gathering.written ++ [declaration] }

def finish (targets : Targets) (gathering : Gathering) : Gathering :=
  let ordered := ["direction", "unicode-bidi"].flatMap fun name =>
    gathering.directions.filter (·.property == name)
  let start : Gathering :=
    { gathering with written := gathering.written ++ ordered }.writeStopgaps
  Bundle.all.foldl (fun found bundle => flush targets bundle found) start

end Gathering

structure Settled where
  declarations : List Declaration
  directed : List Directed
  dark : List Declaration
  /-- Those for browsers that know the colours of a level. -/
  guarded : List (ColorLevel × Declaration)
  deriving BEq, Repr, Inhabited

namespace Declaration

/-- Declarations in as few as possible. -/
def gather (targets : Targets) (declarations : List Declaration) : Gathering :=
  (declarations.foldl (Gathering.add targets) Gathering.empty).finish targets

/-- The declarations of a block in as few as possible, with what they leave for other rules:
important ones come last. -/
def together (targets : Targets) (declarations : List Declaration) : Settled :=
  let (important, usual) := declarations.partition Declaration.isImportant
  let (usual, important) := (gather targets usual, gather targets important)
  ⟨usual.written ++ important.written.map ({ · with isImportant := true }),
    usual.directed ++ important.directed, usual.dark ++ important.dark, []⟩

def tidy (targets : Targets) (declarations : List Declaration) : List Declaration :=
  (together targets declarations).declarations

/-- The declarations of a style rule; colours in values that are kept token by token are written
at several levels. -/
def settle (targets : Targets) (declarations : List Declaration) : Settled :=
  let (important, usual) := declarations.partition Declaration.isImportant
  let found := (important ++ usual).map (lowered targets)
  { together targets (found.map Prod.fst) with guarded := found.flatMap Prod.snd }

end Declaration

end StyleInline.Stylesheet
