import StyleInline.Stylesheet.Property

/-!
# Motion

Transitions between values, animations over time and transformations of boxes.
-/

namespace StyleInline.Stylesheet.Property.Motion

open StyleInline.Stylesheet.Grammar (keyword word perhaps)

/-- A course that has a name of its own: its name and the points of its curve. -/
def curves : List (String × List Float32) :=
  [("ease", [0.25, 0.1, 0.25, 1]), ("ease-in", [0.42, 0, 1, 1]),
    ("ease-out", [0, 0, 0.58, 1]), ("ease-in-out", [0.42, 0, 0.58, 1])]

def steps : Grammar Spaced := do
  let count ← Grammar.such Grammar.integer (0 < ·)
  let place ← perhaps
    (Grammar.comma *> word ["start", "end", "jump-start", "jump-end", "jump-none", "jump-both"])
  let place :=
    match place with
    | none | some "jump-end" => "end"
    | some "jump-start" => "start"
    | some other => other
  if count == 1 && place == "start" then return plain "step-start"
  else if count == 1 && place == "end" then return plain "step-end"
  else
    return Spaced.call "steps"
      (plain (toString count) ++ if place == "end" then [] else Spaced.comma ++ plain place)

def curve : Grammar Spaced := do
  let points ← Grammar.listed Quantity.numberValue
  if points.length != 4 then Grammar.fail
  match curves.find? fun (_, known) => known == points with
  | some (name, _) => return plain name
  | none => return Spaced.call "cubic-bezier" (Spaced.listed (points.map numberText))

def courseWords : List String :=
  ["linear", "ease", "ease-in", "ease-out", "ease-in-out", "step-start", "step-end"]

def course : Grammar Spaced :=
  keyword courseWords <|>
  (Grammar.mapped (Grammar.callOf ["steps"]) fun (_, inner) => steps.whole? inner) <|>
  (Grammar.mapped (Grammar.callOf ["cubic-bezier"]) fun (_, inner) => curve.whole? inner)

def time : Grammar Spaced := Quantity.text <$> Quantity.time

def noTime : Spaced := plain "0s"

def usualCourse : Spaced := plain "ease"

/-- A property that changes; all of them have a name, too. -/
def changing : Grammar Spaced := (plain ∘ Written.name) <$> (lowerKnown <$> Grammar.ident)
where
  /-- Names of custom properties keep their letters. -/
  lowerKnown (name : String) : String := if name.startsWith "--" then name else name.toLower

def transitionNames : List String :=
  ["transition-property", "transition-duration", "transition-delay",
    "transition-timing-function"]

def transition : Grammar (List Spaced) := do
  match ← anyOrder [time, course, time, changing] with
  | [duration, course, delay, property] =>
    return [property.getD (plain "all"), duration.getD noTime, delay.getD noTime,
      course.getD usualCourse]
  | _ => Grammar.fail

def columns (names : List String) (rows : List (List Spaced)) : Fields :=
  names.zipIdx.map fun (name, index) => (name, rows.filterMap fun row => row[index]?)

def transitionText (property duration delay course : Spaced) : Spaced :=
  let hasDelay := delay != noTime
  present [property, if duration != noTime || hasDelay then duration else [],
    unusual usualCourse course, if hasDelay then delay else []]

/-- A value for an index; values are used again from the first one on. -/
def cycled (values : List Spaced) (index : Nat) (usual : Spaced) : Spaced :=
  (values[index % max 1 values.length]?).getD usual

/-- Writes transitions: there are as many as properties that change. -/
def joinTransition (_ : Targets) : List (List Spaced) → Option Spaced
  | [properties, durations, delays, courses] =>
    some (Spaced.listed (properties.zipIdx.map fun (property, index) =>
      transitionText property (cycled durations index noTime) (cycled delays index noTime)
        (cycled courses index usualCourse)))
  | _ => none

def transitions : List Property :=
  [layered "transition-property" changing, layered "transition-duration" time,
    layered "transition-delay" time, layered "transition-timing-function" course,
    several "transition" (columns transitionNames <$> Grammar.listed transition)].map
    (withPrefixes [.webkit, .moz, .ms])

def transitionBundle : Bundle :=
  Bundle.ofSteps (transitions.map Property.name)
    (.joined "transition" transitionNames joinTransition :: transitionNames.map Step.single)

def count : Grammar Spaced := keyword ["infinite"] <|> number

def directions : List String := ["normal", "reverse", "alternate", "alternate-reverse"]

def fills : List String := ["none", "forwards", "backwards", "both"]

def states : List String := ["running", "paused"]

/-- A name in quotes that would be read as a word without them. -/
def reserved : List String :=
  ["none", "initial", "inherit", "unset", "default", "revert", "revert-layer"]

def animationName : Grammar Spaced :=
  keyword ["none"] <|>
  ((fun name => plain (if reserved.contains name.toLower then Written.text name
    else Written.name name)) <$> Grammar.string) <|>
  ownName

/-- The axes along which a box is scrolled or seen; the first one is the usual one. -/
def scrollAxis : Grammar Spaced :=
  unusual (plain "block") <$> keyword ["block", "inline", "x", "y"]

def scrolled : Grammar Spaced := do
  let scroller : Grammar Spaced :=
    unusual (plain "nearest") <$> keyword ["root", "nearest", "self"]
  match ← anyOrder [scroller, scrollAxis] with
  | [scroller, axis] => return present [scroller.getD [], axis.getD []]
  | _ => Grammar.fail

def seen : Grammar Spaced := do
  match ← anyOrder [scrollAxis, unusual (plain "auto") <$> twofold (sized ["auto"])] with
  | [axis, inset] => return present [axis.getD [], inset.getD []]
  | _ => Grammar.fail

def timeline : Grammar Spaced :=
  keyword ["auto", "none"] <|> ((plain ∘ Written.name) <$> dashedName) <|>
  Spaced.call "scroll" <$> Grammar.call "scroll" scrolled <|>
  Spaced.call "view" <$> Grammar.call "view" seen

def usualTimeline : Spaced := plain "auto"

/-- A place on what an animation follows: the usual one, a length or one of some names, maybe with
an offset. -/
structure RangePlace where
  name : Spaced
  offset : Spaced
  deriving BEq

namespace RangePlace

def usual : RangePlace := ⟨plain "normal", []⟩

def isNamed (place : RangePlace) : Bool := !place.offset.isEmpty

def names : List String :=
  ["cover", "contain", "entry", "exit", "entry-crossing", "exit-crossing"]

def grammar (share : Spaced) : Grammar RangePlace :=
  (fun name => ⟨name, []⟩) <$> sized ["normal"] <|> do
    let name ← keyword names
    return ⟨name, (← perhaps lengthOrShare).getD share⟩

def text (share : Spaced) (place : RangePlace) : Spaced :=
  present [place.name, unusual share place.offset]

end RangePlace

def rangeStart : Spaced := plain "0%"

def rangeEnd : Spaced := plain "100%"

def range : Grammar (List Spaced) := do
  let start ← RangePlace.grammar rangeStart
  let stop ← perhaps (RangePlace.grammar rangeEnd)
  let implied : RangePlace := if start.isNamed then ⟨start.name, rangeEnd⟩ else .usual
  return [start.text rangeStart, (stop.getD implied).text rangeEnd]

def rangeNames : List String := ["animation-range-start", "animation-range-end"]

def placeName (place : Spaced) : Spaced := place.takeWhile (· != .text " ")

/-- Writes where animations start and end; an end that follows from the start is left out. -/
def joinRange (_ : Targets) : List (List Spaced) → Option Spaced
  | [starts, stops] =>
    let one (start stop : Spaced) : Spaced :=
      let isNamed := (RangePlace.names.map plain).contains (placeName start)
      let isImplied := if isNamed then stop == placeName start else stop == plain "normal"
      if isImplied then start else Spaced.words [start, stop]
    if starts.length == stops.length then
      some (Spaced.listed ((starts.zip stops).map fun (start, stop) => one start stop))
    else none
  | _ => none

def courseNames : List String :=
  ["animation-name", "animation-duration", "animation-timing-function",
    "animation-iteration-count", "animation-direction", "animation-play-state",
    "animation-delay", "animation-fill-mode"]

def animationNames : List String := courseNames ++ ["animation-timeline"]

def animation : Grammar (List Spaced) := do
  match ← anyOrder [time, course, time, count, keyword directions, keyword fills, keyword states,
      animationName, timeline] with
  | [duration, course, delay, count, direction, fill, state, name, timeline] =>
    return [name.getD (plain "none"), duration.getD noTime, course.getD usualCourse,
      count.getD (plain "1"), direction.getD (plain "normal"), state.getD (plain "running"),
      delay.getD noTime, fill.getD (plain "none"), timeline.getD usualTimeline]
  | _ => Grammar.fail

def wordOf (text : Spaced) : String :=
  match text with
  | [.text word] => word.toLower
  | _ => ""

/-- An animation as it is written: what is usual is left out unless its name would be taken for
it. -/
def animationText : List Spaced → Spaced
  | [name, duration, course, count, direction, state, delay, fill, timeline] =>
    let word := wordOf name
    if name == plain "none" then name
    else
      let hasDelay := delay != noTime
      let part (isShown : Bool) (text : Spaced) : Spaced := if isShown then text else []
      present
        [part (duration != noTime || hasDelay) duration,
          part (course != usualCourse || courseWords.contains word) course, part hasDelay delay,
          part (count != plain "1" || word == "infinite") count,
          part (direction != plain "normal" || directions.contains word) direction,
          part (fill != plain "none" || (word != "none" && fills.contains word)) fill,
          part (state != plain "running" || states.contains word) state, name,
          unusual usualTimeline timeline]
  | _ => []

/-- Writes animations, if all properties have as many values; what they follow is written behind
them where the whole cannot name it. -/
def writeAnimations (targets : Targets) (all : List Held) : List Declaration × List Held :=
  let name := "animation-timeline"
  let all := all.map fun held =>
    if held.name == name then { held with prefixes := [.plain] } else held
  match courseNames.mapM fun name => Held.find? name all with
  | none => ([], all)
  | some found =>
    let shared := Prefix.all.filter fun one => found.all (·.prefixes.contains one)
    let count := ((found.head?).map fun held => held.layers.length).getD 0
    let timelines :=
      match Held.find? name all with
      | some held => held.layers
      | none => if shared.contains .plain then [] else List.replicate count usualTimeline
    let columns := found.map Held.layers
    if shared.isEmpty || !(timelines :: columns).all (·.length == count) then ([], all)
    else
      let isApart := timelines.any (· != usualTimeline) &&
        (shared != [.plain] || !targets.understand .animationTimelines)
      let shown := if isApart then List.replicate count usualTimeline else timelines
      let columns := columns ++ [shown]
      let value := Spaced.listed ((List.range count).map fun index =>
        animationText (columns.filterMap fun column => column[index]?))
      let fields := animationNames.zip columns
      let prefixes := Declaration.prefixesFor targets "animation" shared
      let apart : List Declaration :=
        if isApart then [⟨name, [.plain], Spaced.listed timelines, [(name, timelines)], false⟩]
        else []
      let left := (Held.without [name] all).map fun held =>
        if courseNames.contains held.name then
          { held with prefixes := held.prefixes.filter (!shared.contains ·) }
        else held
      (⟨"animation", prefixes, value, fields, false⟩ :: apart,
        left.filter (!·.prefixes.isEmpty))

def animations : List Property :=
  [layered "animation-name" animationName, layered "animation-duration" time,
    layered "animation-timing-function" course, layered "animation-iteration-count" count,
    layered "animation-direction" (keyword directions),
    layered "animation-play-state" (keyword states), layered "animation-delay" time,
    layered "animation-fill-mode" (keyword fills),
    several "animation" (columns animationNames <$> Grammar.listed animation)].map
    (withPrefixes [.webkit, .moz, .o]) ++
  [layered "animation-timeline" timeline,
    layered "animation-range-start" (RangePlace.text rangeStart <$> RangePlace.grammar rangeStart),
    layered "animation-range-end" (RangePlace.text rangeEnd <$> RangePlace.grammar rangeEnd),
    several "animation-range" (columns rangeNames <$> Grammar.listed range)]

/-- Animations are written together; a declaration of them all makes their ranges void. -/
def animationBundle : Bundle where
  members := animations.map Property.name
  voids declared held := declared == "animation" && rangeNames.contains held
  steps :=
    .free writeAnimations :: animationNames.map Step.single ++
      (.joined "animation-range" rangeNames joinRange :: rangeNames.map Step.single)

def zero : Spaced := plain "0"

def angle : Grammar Spaced :=
  (fun found => if found.isZero then zero else found.text) <$> Quantity.angleOrZero

/-- A call written wide and, under another name or with other arguments, narrow. -/
def fitted (name : String) (arguments : List Spaced) (narrow : Option (String × List Spaced)) :
    Spaced :=
  let wide := Spaced.call name (Spaced.listed arguments)
  match narrow with
  | none => wide
  | some (name, arguments) => [.fitted wide (Spaced.call name (Spaced.listed arguments))]

def shift? (name : String) (values : List Spaced) : Option Spaced :=
  match name, values with
  | "translate", [x] => some (fitted name [x] none)
  | "translate", [x, y] =>
    some (if y == zero then fitted name [x] none
      else fitted name [x, y] (if x == zero then some ("translateY", [y]) else none))
  | "translatex", [x] => some (fitted "translateX" [x] (some ("translate", [x])))
  | "translatey", [y] => some (fitted "translateY" [y] none)
  | "translatez", [z] => some (fitted "translateZ" [z] none)
  | "translate3d", [x, y, z] =>
    let narrow :=
      match x == zero, y == zero, z == zero with
      | false, true, true => some ("translate", [x])
      | true, false, true => some ("translateY", [y])
      | true, true, false => some ("translateZ", [z])
      | _, _, true => some ("translate", [x, y])
      | _, _, _ => none
    some (fitted "translate3d" [x, y, z] narrow)
  | _, _ => none

def scale? (name : String) (values : List Float32) : Option Spaced :=
  let shown (name : String) (values : List Float32) (narrow : Option (String × List Float32)) :
      Spaced :=
    fitted name (values.map numberText)
      (narrow.map fun (name, values) => (name, values.map numberText))
  match name, values with
  | "scale", [x] => some (shown name [x] none)
  | "scale", [x, y] =>
    some (if x == y then shown name [x] none
      else if x == 1 then shown name [x, y] (some ("scaleY", [y]))
      else if y == 1 then shown name [x, y] (some ("scaleX", [x]))
      else shown name [x, y] none)
  | "scalex", [x] => some (shown "scaleX" [x] none)
  | "scaley", [y] => some (shown "scaleY" [y] none)
  | "scalez", [z] => some (shown "scaleZ" [z] none)
  | "scale3d", [x, y, z] =>
    let narrow :=
      if z == 1 && x == y then some ("scale", [x])
      else if x != 1 && y == 1 && z == 1 then some ("scaleX", [x])
      else if x == 1 && y != 1 && z == 1 then some ("scaleY", [y])
      else if x == 1 && y == 1 && z != 1 then some ("scaleZ", [z])
      else if z == 1 then some ("scale", [x, y])
      else none
    some (shown "scale3d" [x, y, z] narrow)
  | _, _ => none

def turn? (name : String) (values : List Spaced) : Option Spaced :=
  match name, values with
  | "rotate", [angle] => some (fitted name [angle] none)
  | "rotatex", [angle] => some (fitted "rotateX" [angle] none)
  | "rotatey", [angle] => some (fitted "rotateY" [angle] none)
  | "rotatez", [angle] => some (fitted "rotateZ" [angle] (some ("rotate", [angle])))
  | "skew", [x] => some (fitted name [x] none)
  | "skew", [x, y] =>
    some (if y == zero then fitted name [x] none
      else fitted name [x, y] (if x == zero then some ("skewY", [y]) else none))
  | "skewx", [x] => some (fitted "skewX" [x] (some ("skew", [x])))
  | "skewy", [y] => some (fitted "skewY" [y] none)
  | _, _ => none

def turnAround : Grammar Spaced := do
  let axis ← (do
    let x ← Quantity.numberValue
    Grammar.comma
    let y ← Quantity.numberValue
    Grammar.comma
    return [x, y, ← Quantity.numberValue])
  Grammar.comma
  let angle ← angle
  let narrow :=
    match axis with
    | [x, y, z] =>
      if x == 1 && y == 0 && z == 0 then some ("rotateX", [angle])
      else if x == 0 && y == 1 && z == 0 then some ("rotateY", [angle])
      else if x == 0 && y == 0 && z == 1 then some ("rotate", [angle])
      else none
    | _ => none
  return fitted "rotate3d" (axis.map numberText ++ [angle]) narrow

def transformation : Grammar Spaced := Grammar.mapped Grammar.next fun
  | .block ⟨.function name, _⟩ inner _ =>
    let name := name.toLower
    let listed {α : Type} (grammar : Grammar α) : Option (List α) :=
      (Grammar.listed grammar).whole? inner
    if name.startsWith "translate" then (listed lengthOrShare).bind (shift? name)
    else if name.startsWith "scale" then (listed Quantity.numberOrShareValue).bind (scale? name)
    else if name == "rotate3d" then turnAround.whole? inner
    else if name.startsWith "rotate" || name.startsWith "skew" then (listed angle).bind (turn? name)
    else if name == "perspective" then (Spaced.call name) <$> length.whole? inner
    else if name == "matrix" || name == "matrix3d" then do
      let values ← listed number
      if values.length == (if name == "matrix" then 6 else 16) then
        some (Spaced.call name (Spaced.listed values))
      else none
    else none
  | _ => none

def transform : Grammar Spaced :=
  keyword ["none"] <|> (List.flatten <$> Grammar.atLeastOne transformation)

def translate : Grammar Spaced :=
  keyword ["none"] <|> do
    let x ← lengthOrShare
    let y := (← perhaps lengthOrShare).getD zero
    let z := (← perhaps length).getD zero
    return Spaced.words ([x] ++ (if y == zero && z == zero then [] else [y]) ++
      if z == zero then [] else [z])

def scale : Grammar Spaced :=
  keyword ["none"] <|> do
    let x ← Quantity.numberOrShareValue
    let y := (← perhaps Quantity.numberOrShareValue).getD x
    let z := (← perhaps Quantity.numberOrShareValue).getD 1
    return Spaced.words ([numberText x] ++
      (if y == x && z == 1 then [] else [numberText y]) ++ if z == 1 then [] else [numberText z])

def axis : Grammar (List Float32) :=
  (word ["x"] *> pure [1, 0, 0]) <|> (word ["y"] *> pure [0, 1, 0]) <|>
  (word ["z"] *> pure [0, 0, 1]) <|> do
    let x ← Quantity.numberValue
    let y ← Quantity.numberValue
    return [x, y, ← Quantity.numberValue]

def rotateText (axis : List Float32) (angle : Quantity) : Spaced :=
  if axis == [0, 0, 1] && angle.isZero then plain "none"
  else
    let shown :=
      if axis == [1, 0, 0] then [plain "x"]
      else if axis == [0, 1, 0] then [plain "y"]
      else if axis == [0, 0, 1] then []
      else axis.map numberText
    Spaced.words (shown ++ [angle.text])

def rotate : Grammar Spaced :=
  keyword ["none"] <|> do
    let before ← perhaps Quantity.angle
    let axis := (← perhaps axis).getD [0, 0, 1]
    match before with
    | some angle => return rotateText axis angle
    | none => return rotateText axis (← Quantity.angle)

def position : Grammar Spaced := Position.text <$> Position.grammar

def transformPrefixes : List Prefix := [.webkit, .moz, .ms, .o]

def transformations : List Property :=
  [(single "transform" transform).withPrefixes transformPrefixes, single "translate" translate,
    single "rotate" rotate, single "scale" scale]

/-- Transformations are written together. -/
def transformBundle : Bundle :=
  Bundle.ofSteps (transformations.map Property.name)
    ((transformations.map Property.name).map Step.single)

def properties : List Property :=
  transitions ++ animations ++ transformations ++
    [(single "transform-origin" position).withPrefixes transformPrefixes,
      (chosen "transform-style" ["flat", "preserve-3d"]).withPrefixes [.webkit, .moz],
      chosen "transform-box" ["content-box", "border-box", "fill-box", "stroke-box", "view-box"],
      (chosen "backface-visibility" ["visible", "hidden"]).withPrefixes [.webkit, .moz],
      (single "perspective" (keyword ["none"] <|> length)).withPrefixes [.webkit, .moz],
      (single "perspective-origin" position).withPrefixes [.webkit, .moz],
      layered "animation-composition" (keyword ["replace", "add", "accumulate"])]

end StyleInline.Stylesheet.Property.Motion
