import StyleInline.Stylesheet.Property

/-!
# Flexible boxes and alignment

How boxes share the room along a line, and where they stand in the room that is left.
-/

namespace StyleInline.Stylesheet.Property.Flex

open StyleInline.Stylesheet.Grammar (keyword word perhaps)

def direction : Grammar Spaced := keyword ["row", "row-reverse", "column", "column-reverse"]

def wrap : Grammar Spaced := keyword ["nowrap", "wrap", "wrap-reverse"]

/-- A direction and a wrap; the usual direction is left out if the wrap is not the usual one. -/
def joinFlow (_ : Targets) : List (List Spaced) → Option Spaced
  | [[direction], [wrap]] =>
    let shownWrap := unusual (plain "nowrap") wrap
    let shownDirection :=
      if shownWrap.isEmpty then direction else unusual (plain "row") direction
    some (present [shownDirection, shownWrap])
  | _ => none

def flow : Grammar Fields := do
  match ← anyOrder [direction, wrap] with
  | [direction, wrap] =>
    return [("flex-direction", [direction.getD (plain "row")]),
      ("flex-wrap", [wrap.getD (plain "nowrap")])]
  | _ => Grammar.fail

def basis : Grammar Spaced := sized ["auto"]

def fields (grow shrink basis : Spaced) : Fields :=
  [("flex-grow", [grow]), ("flex-shrink", [shrink]), ("flex-basis", [basis])]

def flex : Grammar Fields :=
  (word ["none"] *> pure (fields (plain "0") (plain "0") (plain "auto"))) <|> do
    let factors : Grammar (List Spaced) := do
      let grow ← number
      let shrink ← perhaps number
      return [grow, shrink.getD (plain "1")]
    match ← anyOrder [factors, (fun found => [found]) <$> basis] with
    | [factors, basis] =>
      match factors.getD [plain "1", plain "1"], basis.getD [plain "0%"] with
      | [grow, shrink], [basis] => return fields grow shrink basis
      | _, _ => Grammar.fail
    | _ => Grammar.fail

def joinFlex (_ : Targets) : List (List Spaced) → Option Spaced
  | [[grow], [shrink], [basis]] =>
    let (zero, one) := (plain "0", plain "1")
    if basis == plain "auto" && grow == zero && shrink == zero then some (plain "none")
    else if basis == plain "auto" && grow == one && shrink == one then some basis
    else
      let isLength := basis == zero
      let isShare := basis == plain "0%"
      let hasShrink := shrink != one || isLength
      let hasGrow := grow != one || shrink != one || isLength || isShare
      some (present ((if hasGrow then [grow] else []) ++
        (if hasShrink then [shrink] else []) ++ if isShare then [] else [basis]))
  | _ => none

def properties : List Property :=
  [(single "flex-direction" direction).withPrefixes [.webkit, .ms],
    (single "flex-wrap" wrap).withPrefixes [.webkit, .ms],
    (several "flex-flow" flow).withPrefixes [.webkit, .ms],
    (single "flex-grow" number).withPrefixes [.webkit],
    (single "flex-shrink" number).withPrefixes [.webkit],
    (single "flex-basis" basis).withPrefixes [.webkit],
    (several "flex" flex).withPrefixes [.webkit, .ms],
    (single "order" integer).withPrefixes [.webkit]]

def bundle : Bundle :=
  Bundle.ofSteps (properties.map Property.name)
    [.joined "flex-flow" ["flex-direction", "flex-wrap"] joinFlow, .single "flex-direction",
      .single "flex-wrap", .joined "flex" ["flex-grow", "flex-shrink", "flex-basis"] joinFlex,
      .single "flex-grow", .single "flex-shrink", .single "flex-basis", .single "order"]

def baseline : Grammar Spaced :=
  keyword ["baseline"] <|> (word ["first"] *> keyword ["baseline"]) <|>
  (word ["last"] *> word ["baseline"] *> pure (plain "last baseline"))

def position (words : List String) : Grammar Spaced := do
  let care ← perhaps (keyword ["unsafe", "safe"])
  return present [care.getD [], ← keyword words]

def distributions : List String := ["space-between", "space-around", "space-evenly", "stretch"]

def contentPositions : List String := ["center", "start", "end", "flex-start", "flex-end"]

def selfPositions : List String :=
  ["center", "start", "end", "self-start", "self-end", "flex-start", "flex-end"]

def hands : List String := ["left", "right"]

def alignContent : Grammar Spaced :=
  keyword ["normal"] <|> baseline <|> keyword distributions <|> position contentPositions

def justifyContent : Grammar Spaced :=
  keyword ("normal" :: distributions) <|> position (contentPositions ++ hands)

def alignSelf : Grammar Spaced :=
  keyword ["auto", "normal", "stretch"] <|> baseline <|> position selfPositions

def justifySelf : Grammar Spaced :=
  keyword ["auto", "normal", "stretch"] <|> baseline <|> position (selfPositions ++ hands)

def alignItems : Grammar Spaced :=
  keyword ["normal", "stretch"] <|> baseline <|> position selfPositions

def justifyItems : Grammar Spaced :=
  keyword ["normal", "stretch"] <|> baseline <|> position (selfPositions ++ hands) <|> do
    let _ ← word ["legacy"]
    let hand ← perhaps (keyword ["left", "right", "center"])
    return present [plain "legacy", hand.getD []]

def gap : Grammar Spaced := sized ["normal"]

/-- Both alignments; the second one is like the first if it is left out, unless `usual` says
otherwise. -/
def placed (name align justify : String) (first second : Grammar Spaced)
    (usual : Spaced → Spaced) : Property :=
  several name do
    let across ← first
    let along ← perhaps second
    return [(align, [across]), (justify, [along.getD (usual across)])]

/-- A start where the other direction follows the base line. -/
def startForBaseline (across : Spaced) : Spaced :=
  if across == plain "baseline" || across == plain "last baseline" then plain "start" else across

/-- A position with care for what is reachable is written twice. -/
def isCareful (value : Spaced) : Bool :=
  value.head? == some (.text "safe") || value.head? == some (.text "unsafe")

def joinPlaces (hidesAuto : Bool) (targets : Targets) : List (List Spaced) → Option Spaced
  | [[across], [along]] =>
    if !targets.understand .placement then none
    else if (hidesAuto && along == plain "auto") || (along == across && !isCareful along) then
      some across
    else some (Spaced.words [across, along])
  | _ => none

def alignments : List Property :=
  [(single "align-content" alignContent).withPrefixes [.webkit],
    (single "justify-content" justifyContent).withPrefixes [.webkit],
    placed "place-content" "align-content" "justify-content" alignContent justifyContent
      startForBaseline,
    (single "align-self" alignSelf).withPrefixes [.webkit],
    single "justify-self" justifySelf,
    placed "place-self" "align-self" "justify-self" alignSelf justifySelf id,
    (single "align-items" alignItems).withPrefixes [.webkit],
    single "justify-items" justifyItems,
    placed "place-items" "align-items" "justify-items" alignItems justifyItems id,
    single "row-gap" gap, single "column-gap" gap, pair "gap" ["row-gap", "column-gap"] gap]

/-- Alignments are written together. -/
def alignmentBundle : Bundle :=
  Bundle.ofSteps (alignments.map Property.name)
    [.joined "place-content" ["align-content", "justify-content"] (joinPlaces false),
      .single "align-content", .single "justify-content",
      .joined "place-self" ["align-self", "justify-self"] (joinPlaces true),
      .single "align-self", .single "justify-self",
      .joined "place-items" ["align-items", "justify-items"] (joinPlaces false),
      .single "align-items", .single "justify-items",
      .joined "gap" ["row-gap", "column-gap"] joinPair, .single "row-gap", .single "column-gap"]

end StyleInline.Stylesheet.Property.Flex
