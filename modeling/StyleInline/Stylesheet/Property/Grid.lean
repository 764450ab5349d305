import StyleInline.Stylesheet.Property

/-!
# Grids

The rows and columns of a grid, the areas with names in it, and the places of boxes in it.

The tracks of a grid are kept as layers: the names of a line and the size of the track behind it
take turns, and the names of the last line come last.
-/

namespace StyleInline.Stylesheet.Property.Grid

open StyleInline.Stylesheet.Grammar (keyword word perhaps)

def breadth : Grammar Spaced :=
  keyword ["auto", "min-content", "max-content"] <|>
  (Grammar.leaf fun
    | .dimension value unit =>
      if unit.toLower == "fr" && 0 ≤ value.single then
        some (plain (Numeric.dimension value.single "fr")) else none
    | _ => none) <|>
  lengthOrShare

def trackSize : Grammar Spaced :=
  (Spaced.call "minmax" <$> Grammar.call "minmax" do
    let least ← breadth
    Grammar.comma
    return least ++ Spaced.comma ++ (← breadth)) <|>
  (Spaced.call "fit-content" <$> Grammar.call "fit-content" lengthOrShare) <|>
  breadth

def lineNames : Grammar Spaced := do
  let names ← Grammar.bracketed .square (Grammar.atLeastOne ownName)
  return plain "[" ++ Spaced.words names ++ plain "]"

def namesOrNone : Grammar Spaced := (·.getD []) <$> perhaps lineNames

def tracksOf (track : Grammar Spaced) : Grammar (List Spaced) := do
  let pair : Grammar (Spaced × Spaced) := do
    let names ← namesOrNone
    return (names, ← track)
  let pairs ← Grammar.atLeastOne pair
  return (pairs.flatMap fun (names, size) => [names, size]) ++ [← namesOrNone]

/-- Tracks as they are written: around names no blank is needed. -/
def tracksText : List Spaced → Spaced
  | [] => []
  | [last] => last
  | names :: size :: rest =>
    let behind :=
      match rest with
      | [] => []
      | [[]] => []
      | [] :: _ => Spaced.blank
      | _ => [.gap]
    names ++ (if names.isEmpty then [] else [.gap]) ++ size ++ behind ++ tracksText rest

def repeated : Grammar Spaced :=
  Spaced.call "repeat" <$> Grammar.call "repeat" do
    let count ← keyword ["auto-fill", "auto-fit"] <|>
      ((fun value => plain (toString value)) <$> Grammar.such Grammar.integer (0 < ·))
    Grammar.comma
    return count ++ Spaced.comma ++ tracksText (← tracksOf trackSize)

def tracks : Grammar (List Spaced) :=
  ((fun only => [only]) <$> keyword ["none"]) <|> tracksOf (repeated <|> trackSize)

def noTracks : List Spaced := [plain "none"]

def areExplicit (layers : List Spaced) : Bool :=
  !layers.any fun layer => layer.head? == some (.text "repeat(")

def sizes : Grammar Spaced := Spaced.words <$> Grammar.atLeastOne trackSize

def autoFlow : Grammar Spaced := do
  match ← someOrder [word ["row", "column"], word ["dense"]] with
  | [direction, dense] =>
    if dense.isNone then return plain (direction.getD "row")
    else if direction == some "column" then return plain "column dense"
    else return [.either "row dense" "dense"]
  | _ => Grammar.fail

/-- The cells of a row of areas; a cell without a name is a row of points. -/
def cellsOf (text : String) : List (Option String) :=
  let words := (text.toList.splitOnP Lexer.isBlank).filter (!·.isEmpty)
  words.flatMap fun chars => cellsWithin (chars.length + 1) chars
where
  cellsWithin : Nat → List Char → List (Option String)
    | 0, _ => []
    | _, [] => []
    | fuel + 1, c :: rest =>
      if c == '.' then none :: cellsWithin fuel (rest.dropWhile (· == '.'))
      else
        let (name, behind) := rest.span (· != '.')
        some (String.ofList (c :: name)) :: cellsWithin fuel behind

/-- A row of areas as it is written; beside a point no blank is needed. -/
def rowText (cells : List (Option String)) : Spaced :=
  plain "\"" ++ cellsText none cells ++ plain "\""
where
  cellsText (before : Option (Option String)) : List (Option String) → Spaced
    | [] => []
    | cell :: rest =>
      let blank : Spaced :=
        match before with
        | none => []
        | some before => if before.isSome == cell.isSome then Spaced.blank else [.gap]
      blank ++ plain ((cell.map Written.name).getD ".") ++ cellsText (some cell) rest

def areas : Grammar (List Spaced) :=
  (keyword ["none"] *> pure noTracks) <|>
  (do
    let rows ← Grammar.atLeastOne Grammar.string
    let cells := rows.map cellsOf
    let isTable := cells.all fun row =>
      !row.isEmpty && some row.length == cells.head?.map List.length
    if isTable then return cells.map rowText else Grammar.fail)

def areasText (rows : List Spaced) : Spaced :=
  Spaced.joined [.row "grid-template-areas: ".length] rows

/-- A line of a grid: its number or a name, or a span up to it. -/
def line : Grammar Spaced :=
  let number : Grammar Spaced :=
    (fun value => plain (toString value)) <$> Grammar.such Grammar.integer (· != 0)
  let named : Grammar Spaced := Grammar.such ownName fun name =>
    name != plain "span" && name != plain "auto"
  keyword ["auto"] <|>
  (do
    match ← someOrder [word ["span"] *> pure [], number, named] with
    | [some _, count, name] =>
      if count.isNone && name.isNone then Grammar.fail
      let shown := (count.filter fun count => count != plain "1" || name.isNone).getD []
      return present [plain "span", shown, name.getD []]
    | [none, count, name] => return present [count.getD [], name.getD []]
    | _ => Grammar.fail)

def isArea (line : Spaced) : Bool :=
  match line with
  | [.text name] => name != "auto" && Written.isPlainName name
  | _ => false

/-- The line that is meant if the end behind a start is left out. -/
def endBehind (start : Spaced) : Spaced := if isArea start then start else plain "auto"

def edges (name : String) : Property :=
  several name do
    let start ← line
    let stop ← perhaps (Grammar.slash *> line)
    return [(name ++ "-start", [start]), (name ++ "-end", [stop.getD (endBehind start)])]

def joinEdges (_ : Targets) : List (List Spaced) → Option Spaced
  | [[start], [stop]] =>
    some (if stop == endBehind start then start else start ++ Spaced.slash ++ stop)
  | _ => none

def edgeNames : List String :=
  ["grid-row-start", "grid-column-start", "grid-row-end", "grid-column-end"]

def area : Property :=
  let behindSlash : Grammar (Option Spaced) := perhaps (Grammar.slash *> line)
  several "grid-area" do
    let top ← line
    let left := (← behindSlash).getD (endBehind top)
    let bottom := (← behindSlash).getD (endBehind top)
    let right := (← behindSlash).getD (endBehind left)
    return edgeNames.zip [[top], [left], [bottom], [right]]

def joinArea (_ : Targets) : List (List Spaced) → Option Spaced
  | [[top], [left], [bottom], [right]] =>
    let hidesRight := right == endBehind left
    let hidesBottom := hidesRight && bottom == endBehind top
    let hidesLeft := hidesBottom && left == endBehind top
    let shown :=
      [top] ++ (if hidesLeft then [] else [left]) ++ (if hidesBottom then [] else [bottom]) ++
        if hidesRight then [] else [right]
    some (Spaced.joined Spaced.slash shown)
  | _ => none

def namesIn (line : Spaced) : List Spaced :=
  (line.filter fun piece => piece != .text "[" && piece != .text "]" && piece != .text " ").map
    ([·])

def bracketed (names : List Spaced) : Spaced :=
  if names.isEmpty then [] else plain "[" ++ Spaced.words names ++ plain "]"

def tableText (column : Nat) (isFirst : Bool) : List Spaced → List Spaced → Spaced
  | [], names :: _ => if names.isEmpty then [] else .gap :: names
  | [], [] => []
  | row :: rows, tracks =>
    let (names, size, tracks) :=
      match tracks with
      | names :: size :: tracks => (names, size, tracks)
      | [names] => (names, [], [])
      | [] => ([], [], [])
    let start : Spaced :=
      match namesIn names with
      | [before, behind] =>
        if isFirst then bracketed [before, behind] ++ [.gap]
        else
          [.fitted ([.gap] ++ bracketed [before] ++ [.row column] ++ bracketed [behind] ++ [.gap])
            names]
      | found =>
        (if isFirst then [] else [.row column]) ++ bracketed found ++
          if found.isEmpty then [] else [.gap]
    let shownSize : Spaced :=
      if size.isEmpty || size == plain "auto" then [] else .gap :: size
    start ++ row ++ shownSize ++ tableText column false rows tracks

/-- Rows, columns and areas as one value behind a name of some width. -/
def templateText? (column : Nat) (rows columns areas : List Spaced) : Option Spaced :=
  if areas == noTracks then
    if rows == noTracks && columns == noTracks then some (plain "none")
    else some (tracksText rows ++ Spaced.slash ++ tracksText columns)
  else if !areExplicit rows || !areExplicit columns || rows == noTracks then none
  else
    let shown := tableText column true areas rows
    some (shown ++
      if columns == noTracks then [] else [.row column, .text "/", .gap] ++ tracksText columns)

def joinTemplate (_ : Targets) : List (List Spaced) → Option Spaced
  | [rows, columns, areas] => templateText? "grid-template: ".length rows columns areas
  | _ => none

def table : Grammar (List Spaced × List Spaced) := do
  let row : Grammar (Spaced × List (Option String) × Spaced × Spaced) := do
    let before ← namesOrNone
    let cells ← cellsOf <$> Grammar.string
    let size ← perhaps trackSize
    return (before, cells, size.getD (plain "auto"), ← namesOrNone)
  let rows ← Grammar.atLeastOne row
  let width := rows.head?.map fun (_, cells, _) => cells.length
  if !rows.all fun (_, cells, _) => !cells.isEmpty && some cells.length == width then Grammar.fail
  let merge (a b : Spaced) : Spaced := bracketed (namesIn a ++ namesIn b)
  let (pending, tracks) := rows.foldl
    (fun (pending, tracks) (before, _, size, behind) =>
      (behind, tracks ++ [merge pending before, size]))
    (([] : Spaced), ([] : List Spaced))
  return (tracks ++ [pending], rows.map fun (_, cells, _) => rowText cells)

def template : Grammar (List Spaced × List Spaced × List Spaced) :=
  Grammar.toEnd (keyword ["none"] *> pure (noTracks, noTracks, noTracks)) <|>
  (do
    let (rows, areas) ← table
    let columns ← perhaps (Grammar.slash *> tracksOf trackSize)
    return (rows, columns.getD noTracks, areas)) <|>
  (do
    let rows ← tracks
    Grammar.slash
    return (rows, ← tracks, noTracks))

def templateNames : List String :=
  ["grid-template-rows", "grid-template-columns", "grid-template-areas"]

def wholeNames : List String :=
  templateNames ++ ["grid-auto-rows", "grid-auto-columns", "grid-auto-flow"]

def usualSize : List Spaced := [plain "auto"]

def usualFlow : List Spaced := [plain "row"]

/-- The way in which a grid is filled, and whether holes are filled, too. -/
def fillingOf (flow : List Spaced) : Bool × Bool :=
  (flow == [plain "column"] || flow == [plain "column dense"],
    flow == [plain "column dense"] || flow == [[.either "row dense" "dense"]])

def joinWhole (_ : Targets) : List (List Spaced) → Option Spaced
  | [rows, columns, areas, autoRows, autoColumns, flow] =>
    let isExplicit := autoRows == usualSize && autoColumns == usualSize && flow == usualFlow
    let (isColumn, isDense) := fillingOf flow
    let head := plain (if isDense then "auto-flow dense" else "auto-flow")
    let sizes (values : List Spaced) : Spaced :=
      if values == usualSize then [] else Spaced.words values
    match if isExplicit then templateText? "grid: ".length rows columns areas else none with
    | some template => some template
    | none =>
      if areas != noTracks then none
      else if !isColumn && rows == noTracks && autoColumns == usualSize then
        some (present [head, sizes autoRows] ++ Spaced.slash ++ tracksText columns)
      else if isColumn && columns == noTracks && autoRows == usualSize then
        some (tracksText rows ++ Spaced.slash ++ present [head, sizes autoColumns])
      else none
  | _ => none

def whole : Grammar Fields :=
  let flowing : Grammar Bool := do
    match ← someOrder [word ["auto-flow"], word ["dense"]] with
    | [some _, dense] => return dense.isSome
    | _ => Grammar.fail
  let fields (rows columns areas autoRows autoColumns flow : List Spaced) : Fields :=
    wholeNames.zip [rows, columns, areas, autoRows, autoColumns, flow]
  let sizesOr : Grammar (List Spaced) :=
    (fun found => [found.getD (plain "auto")]) <$> perhaps sizes
  (do
    let (rows, columns, areas) ← Grammar.toEnd template
    return fields rows columns areas usualSize usualSize usualFlow) <|>
  (do
    let rows ← tracks
    Grammar.slash
    let isDense ← flowing
    return fields rows noTracks noTracks usualSize (← sizesOr)
      [plain (if isDense then "column dense" else "column")]) <|>
  (do
    let isDense ← flowing
    let autoRows ← sizesOr
    Grammar.slash
    return fields noTracks (← tracks) noTracks autoRows usualSize
      [if isDense then [.either "row dense" "dense"] else plain "row"])

def properties : List Property :=
  let kept (name : String) (grammar : Grammar (List Spaced)) : Property :=
    several name ((fun layers => [(name, layers)]) <$> grammar)
  [kept "grid-template-rows" tracks, kept "grid-template-columns" tracks,
    kept "grid-template-areas" areas,
    several "grid-template"
      ((fun (rows, columns, areas) => templateNames.zip [rows, columns, areas]) <$> template),
    several "grid" whole, single "grid-auto-rows" sizes, single "grid-auto-columns" sizes,
    single "grid-auto-flow" autoFlow, edges "grid-row", edges "grid-column", area] ++
  edgeNames.map (single · line)

def alone (name : String) (text : List Spaced → Spaced) : Step :=
  .joined name [name] fun _ layers =>
    match layers with
    | [only] => some (text only)
    | _ => none

/-- Grids are written together. -/
def bundle : Bundle :=
  Bundle.ofSteps (properties.map Property.name)
    [.joined "grid" wholeNames joinWhole, .joined "grid-template" templateNames joinTemplate,
      .joined "grid-area" edgeNames joinArea,
      .joined "grid-row" ["grid-row-start", "grid-row-end"] joinEdges,
      .joined "grid-column" ["grid-column-start", "grid-column-end"] joinEdges,
      alone "grid-template-rows" tracksText, alone "grid-template-columns" tracksText,
      alone "grid-template-areas" areasText, .single "grid-auto-rows",
      .single "grid-auto-columns", .single "grid-auto-flow", .single "grid-row-start",
      .single "grid-row-end", .single "grid-column-start", .single "grid-column-end"]

end StyleInline.Stylesheet.Property.Grid
