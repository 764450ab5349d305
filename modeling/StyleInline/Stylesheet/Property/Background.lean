import StyleInline.Stylesheet.Property

/-!
# Backgrounds

A background has layers, each with an image, its place, its size and its repetition, and one
colour behind them all.
-/

namespace StyleInline.Stylesheet.Property.Background

open StyleInline.Stylesheet.Grammar (keyword perhaps)

/-- A size of an image; a height that follows from the width is left out. -/
def size : Grammar Spaced :=
  keyword ["cover", "contain"] <|> do
    let width ← sized ["auto"]
    let height := (← perhaps (sized ["auto"])).getD (plain "auto")
    return if height == plain "auto" then width else Spaced.words [width, height]

def repetition : Grammar Spaced :=
  keyword ["repeat-x", "repeat-y"] <|> do
    let words := keyword ["repeat", "space", "round", "no-repeat"]
    let x ← words
    let y := (← perhaps words).getD x
    if x == plain "repeat" && y == plain "no-repeat" then return plain "repeat-x"
    else if x == plain "no-repeat" && y == plain "repeat" then return plain "repeat-y"
    else return pairText x y

def attachment : Grammar Spaced := keyword ["scroll", "fixed", "local"]

def origin : Grammar Spaced := keyword ["border-box", "padding-box", "content-box"]

def clip : Grammar Spaced := keyword ["border-box", "padding-box", "content-box", "border", "text"]

def position : Grammar Spaced := Position.text <$> Position.grammar

def names : List String :=
  ["background-color", "background-image", "background-position", "background-position-x",
    "background-position-y", "background-repeat", "background-size", "background-attachment",
    "background-origin", "background-clip"]

def layerNames : List String :=
  ["background-image", "background-position", "background-size", "background-repeat",
    "background-attachment", "background-origin", "background-clip"]

def transparent : Spaced := Spaced.ofColor (.usual ⟨0, 0, 0, 0⟩)

def layer : Grammar (Spaced × List Spaced) := do
  let one (grammar : Grammar Spaced) : Grammar (List Spaced) := (fun found => [found]) <$> grammar
  let placed : Grammar (List Spaced) := do
    let found ← Position.grammar
    let size ← perhaps (Grammar.slash *> size)
    return [if found.isZero then plain "0 0" else found.text, size.getD (plain "auto")]
  match ← anyOrder
      [one color, placed, one Image.orNone, one repetition, one attachment, one origin,
        one clip] with
  | [color, placed, image, mode, attachment, origin, clip] =>
    let clip := clip.orElse fun _ => origin
    let values :=
      [image.getD [plain "none"], placed.getD [plain "0 0", plain "auto"],
        mode.getD [plain "repeat"], attachment.getD [plain "scroll"],
        origin.getD [plain "padding-box"], clip.getD [plain "border-box"]].flatten
    return ((color.bind List.head?).getD transparent, values)
  | _ => Grammar.fail

def background : Grammar Fields := do
  let layers ← Grammar.listed layer
  let column (index : Nat) : List Spaced := layers.filterMap fun (_, values) => values[index]?
  let color := ((layers.getLast?).map Prod.fst).getD transparent
  return ("background-color", [color]) ::
    layerNames.zipIdx.map fun (name, index) => (name, column index)

def layerText (color : Spaced) : List Spaced → Spaced
  | [image, position, size, mode, attachment, origin, clip] =>
    let isBox := clip != plain "text" && clip != plain "border"
    let hasOrigin := origin != plain "padding-box" || (clip != plain "border-box" && isBox)
    let hasClip := if hasOrigin then clip != origin else clip != plain "border-box"
    let placed :=
      if size != plain "auto" then position ++ Spaced.slash ++ size
      else if position == plain "0 0" then [] else position
    let shown := present
      [unusual transparent color, unusual (plain "none") image, placed,
        unusual (plain "repeat") mode, unusual (plain "scroll") attachment,
        if hasOrigin then origin else [], if hasClip then clip else []]
    if shown.isEmpty then [.either "none" "0 0"] else shown
  | _ => []

/-- The layers with their values, if all properties have as many. -/
def layersOf? (columns : List (List Spaced)) : Option (List (List Spaced)) :=
  match columns with
  | [] => none
  | first :: rest =>
    if rest.all fun column => column.length == first.length then
      some ((List.range first.length).map fun index =>
        columns.filterMap fun column => column[index]?)
    else none

/-- Writes a colour and layers as one; a cut by text needs prefixes and stays by itself. -/
def join (_ : Targets) : List (List Spaced) → Option Spaced
  | [color] :: columns => do
    let layers ← layersOf? columns
    let transparentButLast := List.replicate (layers.length - 1) transparent ++ [color]
    return Spaced.listed ((transparentButLast.zip layers).map fun (color, layer) =>
      layerText color layer)
  | _ => none

def properties : List Property :=
  let along (ends : String × String) : Grammar Spaced :=
    Coordinate.text ends <$> Coordinate.grammar ends
  let horizontal := along Coordinate.horizontal
  let vertical := along Coordinate.vertical
  [single "background-color" color, layered "background-image" Image.orNone,
    layered "background-position" position, layered "background-position-x" horizontal,
    layered "background-position-y" vertical, layered "background-repeat" repetition,
    layered "background-size" size, layered "background-attachment" attachment,
    layered "background-origin" origin,
    (layered "background-clip" clip).withPrefixes [.webkit, .moz],
    several "background" background]

/-- Backgrounds are written together. -/
def bundle : Bundle :=
  let members := "background-color" :: layerNames
  let whole : Step := .free fun targets all =>
    let isPlain := (Held.find? "background-clip" all).all fun held => held.prefixes == [.plain]
    if isPlain then Step.join targets "background" members join all else ([], all)
  Bundle.ofSteps (properties.map Property.name) (whole :: names.map Step.single)

end StyleInline.Stylesheet.Property.Background
