import StyleInline.Stylesheet.Grammar

/-!
# Quantities

Numbers, percentages and numbers with units, and sums, products and comparisons of them.  A
calculation is carried out as far as its units allow.
-/

namespace StyleInline.Stylesheet

inductive Measure where
  | length
  | angle
  | time
  | resolution
  | share
  deriving DecidableEq, Repr, Inhabited

namespace Measure

def lengthUnits : List String :=
  ["px", "in", "cm", "mm", "q", "pt", "pc", "em", "rem", "ex", "rex", "ch", "rch", "cap", "rcap",
    "ic", "ric", "lh", "rlh", "vw", "lvw", "svw", "dvw", "cqw", "vh", "lvh", "svh", "dvh", "cqh",
    "vi", "svi", "lvi", "dvi", "cqi", "vb", "svb", "lvb", "dvb", "cqb", "vmin", "svmin", "lvmin",
    "dvmin", "cqmin", "vmax", "svmax", "lvmax", "dvmax", "cqmax"]

def ofUnit? (unit : String) : Option Measure :=
  if lengthUnits.contains unit then some .length
  else if ["deg", "grad", "rad", "turn"].contains unit then some .angle
  else if ["s", "ms"].contains unit then some .time
  else if ["dpi", "dpcm", "dppx", "x"].contains unit then some .resolution
  else if unit == "fr" then some .share
  else none

end Measure

/-- Where a value between two steps is rounded to. -/
inductive Rounding where
  | nearest
  | up
  | down
  | toZero
  deriving DecidableEq, Repr, Inhabited

namespace Rounding

def words : List (String × Rounding) :=
  [("nearest", .nearest), ("up", .up), ("down", .down), ("to-zero", .toZero)]

def text? (rounding : Rounding) : Option String :=
  if rounding == .nearest then none else (words.find? (·.2 == rounding)).map Prod.fst

def whole (rounding : Rounding) (value : Float32) : Float32 :=
  match rounding with
  | nearest => value.round
  | up => value.ceil
  | down => value.floor
  | toZero => if value < 0 then value.ceil else value.floor

def apply (rounding : Rounding) (value step : Float32) : Float32 :=
  rounding.whole (value / step) * step

end Rounding

inductive Quantity where
  | number (value : Float32)
  /-- A share of something else. -/
  | percentage (share : Float32)
  | measured (measure : Measure) (value : Float32) (unit : String)
  | sum (left right : Quantity)
  | product (factor : Float32) (inner : Quantity)
  | function (name : String) (arguments : List Quantity)
  | rounded (rounding : Rounding) (value step : Quantity)
  deriving BEq, Repr, Inhabited

namespace Quantity

/-- A length in pixels, if its unit has a fixed size. -/
def pixels? (value : Float32) (unit : String) : Option Float32 :=
  if unit == "px" then some value
  else if unit == "in" then some (value * 96)
  else if unit == "cm" then some (value * (96 / 2.54))
  else if unit == "mm" then some (value * (96 / 25.4))
  else if unit == "q" then some (value * (96 / 101.6))
  else if unit == "pt" then some (value * (96 / 72))
  else if unit == "pc" then some (value * 16)
  else none

def halfTurn : Float32 := 3.14159265358979

def degrees (value : Float32) (unit : String) : Float32 :=
  if unit == "grad" then value * 180 / 200
  else if unit == "rad" then value * 180 / halfTurn
  else if unit == "turn" then value * 360
  else value

def radians (value : Float32) (unit : String) : Float32 :=
  if unit == "rad" then value else degrees value unit * halfTurn / 180

def seconds (value : Float32) (unit : String) : Float32 :=
  if unit == "ms" then value / 1000 else value

/-- Two quantities of one kind in a common unit: its name, and both values. -/
def common? : Quantity → Quantity → Option (Quantity × Float32 × Float32)
  | number a, number b => some (number 0, a, b)
  | percentage a, percentage b => some (percentage 0, a, b)
  | measured kind a unit, measured kind' b unit' =>
    if kind != kind' then none
    else if unit == unit' then some (measured kind 0 unit, a, b)
    else
      match kind with
      | .length => do
        return (measured .length 0 "px", ← pixels? a unit, ← pixels? b unit')
      | .angle => some (measured .angle 0 "deg", degrees a unit, degrees b unit')
      | .time =>
        if unit == "s" then some (measured .time 0 "s", a, seconds b unit')
        else some (measured .time 0 "ms", a, b * 1000)
      | _ => none
  | _, _ => none

def withValue (value : Float32) : Quantity → Quantity
  | number _ => number value
  | percentage _ => percentage value
  | measured kind _ unit => measured kind value unit
  | other => other

def value? : Quantity → Option Float32
  | number value | percentage value | measured _ value _ => some value
  | _ => none

def isMeasured : Quantity → Bool
  | percentage _ | measured _ _ _ => true
  | _ => false

def isZero (quantity : Quantity) : Bool :=
  quantity.isMeasured && quantity.value?.any (· == 0)

mutual

def isNegative? : Quantity → Option Bool
  | number value | percentage value | measured _ value _ =>
    some (Text.Shortest.isNegativeSingle value)
  | sum _ _ => none
  | product factor inner =>
    inner.isNegative?.map (· != Text.Shortest.isNegativeSingle factor)
  | function name arguments =>
    if name == "abs" then some false
    else if name == "hypot" then none
    else allNegative? arguments
  | rounded _ value step => do
    let isNegative ← value.isNegative?
    if isNegative == (← step.isNegative?) then return isNegative else none

def allNegative? : List Quantity → Option Bool
  | [] => none
  | [only] => only.isNegative?
  | first :: rest =>
    match first.isNegative?, allNegative? rest with
    | some a, some b => if a == b then some a else none
    | _, _ => none

end

mutual

def times (factor : Float32) (quantity : Quantity) : Quantity :=
  if factor == 1 then quantity
  else
    match quantity with
    | number value => number (value * factor)
    | percentage value => percentage (value * factor)
    | measured kind value unit => measured kind (value * factor) unit
    | sum left right => sum (left.times factor) (right.times factor)
    | product other inner => if other * factor == 1 then inner else product (other * factor) inner
    | function name arguments =>
      if name == "calc" then function name (timesAll factor arguments)
      else product factor (function name arguments)
    | rounded rounding value step => product factor (rounded rounding value step)

def timesAll (factor : Float32) : List Quantity → List Quantity
  | [] => []
  | first :: rest => first.times factor :: timesAll factor rest

end

/-- Two quantities as a sum; a zero does not count, and a positive one comes first. -/
def join (left right : Quantity) : Quantity :=
  if left.isZero then right
  else if right.isZero then left
  else if left.isNegative? == some true && right.isNegative? == some false then sum right left
  else sum left right

/-- The sum of two quantities, if one of the terms of the first has a common unit with one of the
second. -/
def merged? (fuel : Nat) (left right : Quantity) : Option Quantity :=
  match fuel with
  | 0 => none
  | fuel + 1 =>
    match left with
    | sum a b =>
      match merged? fuel a right with
      | some found => some (join found b)
      | none => (merged? fuel b right).map (join a ·)
    | left =>
      if !left.isMeasured then none
      else
        match right with
        | sum a b =>
          match merged? fuel left a with
          | some found => some (join found b)
          | none => (merged? fuel left b).map (join a ·)
        | right =>
          if !right.isMeasured then none
          else (common? left right).map fun (unit, a, b) => unit.withValue (a + b)

def extent : Quantity → Nat
  | sum left right => left.extent + right.extent + 1
  | product _ inner => inner.extent + 1
  | _ => 1

def plus : Quantity → Quantity → Quantity
  | number a, number b => number (a + b)
  | sum (number a) b, number c => sum (number (a + c)) b
  | sum a (number b), number c => sum a (number (b + c))
  | number a, sum (number b) c => sum (number (a + b)) c
  | number a, sum b (number c) => sum b (number (a + c))
  | number a, right => sum (number a) right
  | left, number b => sum left (number b)
  | product k a, right => sum (product k a) right
  | left, product k b => sum left (product k b)
  | function f a, right => sum (function f a) right
  | left, function f b => sum left (function f b)
  | rounded way a step, right => sum (rounded way a step) right
  | left, rounded way b step => sum left (rounded way b step)
  | left, right =>
    match merged? (left.extent + right.extent + 1) left right with
    | some found => found
    | none => join left right

def less? (left right : Quantity) : Option Bool :=
  (common? left right).map fun (_, a, b) => a < b

/-- Puts a quantity among those that may be the extreme one; `better` compares two of them. -/
def among (better : Quantity → Quantity → Option Bool) (quantity : Quantity) :
    List Quantity → List Quantity
  | [] => [quantity]
  | first :: rest =>
    match better quantity first with
    | some true => quantity :: rest
    | some false => first :: rest
    | none => first :: among better quantity rest

def extreme (name : String) (better : Quantity → Quantity → Option Bool)
    (arguments : List Quantity) : Quantity :=
  match arguments.foldl (fun kept quantity => among better quantity kept) [] with
  | [only] => only
  | kept => function name kept

def least (arguments : List Quantity) : Quantity := extreme "min" less? arguments

def greatest (arguments : List Quantity) : Quantity :=
  extreme "max" (fun a b => less? b a) arguments

/-- A quantity between two others; the lower bound wins. -/
def clamped (low middle high : Quantity) : Quantity :=
  let (middle, high?) :=
    match less? high middle with
    | some true => (high, none)
    | some false => (middle, none)
    | none => (middle, some high)
  let (middle, low?) :=
    match less? middle low with
    | some true => (low, none)
    | some false => (middle, none)
    | none => (middle, some low)
  match low?, high? with
  | none, none => middle
  | some low, none => function "max" [low, middle]
  | none, some high => function "min" [middle, high]
  | some low, some high => function "clamp" [low, middle, high]

/-- A time as it is written: a tenth of a second is shorter than a hundred thousandths. -/
def timeText (value : Float32) (unit : String) : String :=
  if unit == "s" then
    if 0 < value && value < 0.1 then Numeric.dimension (value * 1000) "ms"
    else Numeric.dimension value "s"
  else if value == 0 || 100 ≤ value then Numeric.dimension (value / 1000) "s"
  else Numeric.dimension value "ms"

def unitFeature? (unit : String) : Option Feature :=
  let isAmong (units : List String) : Bool := units.contains unit
  if isAmong ["px", "in", "cm", "mm", "pt", "pc", "em", "rem", "ex", "ch"] then none
  else if unit == "q" then some .quarterUnits
  else if isAmong ["vw", "vh", "vmin"] then some .windowUnits
  else if unit == "vmax" then some .longerSideUnits
  else if isAmong ["lh", "rlh"] then some .lineUnits
  else if isAmong ["cap", "rcap"] then some .capitalUnits
  else if isAmong ["ic", "ric"] then some .ideogramUnits
  else if isAmong ["rex", "rch"] then some .rootLetterUnits
  else if unit.startsWith "cq" then some .containerUnits
  else some .changingWindowUnits

def functionFeature? (name : String) : Option Feature :=
  [("calc", Feature.calculation), ("min", .extremes), ("max", .extremes), ("rem", .rounding),
    ("mod", .rounding), ("abs", .signs), ("sign", .signs), ("hypot", .diagonals)].lookup name

def needing (feature : Option Feature) (text : Spaced) : Spaced :=
  match feature with
  | some feature => [.only feature text]
  | none => text

def measuredText (kind : Measure) (value : Float32) (unit : String) : Spaced :=
  match kind with
  | .time => Spaced.ofText (timeText value unit)
  | .angle =>
    if unit == "rad" then Spaced.ofText (Numeric.dimension (degrees value unit) "deg")
    else Spaced.ofText (Numeric.dimension value unit)
  | .resolution =>
    if unit == "dppx" || unit == "x" then
      [.choice .shortResolution (Spaced.ofText (Numeric.dimension value "x"))
        (Spaced.ofText (Numeric.dimension value "dppx"))]
    else Spaced.ofText (Numeric.dimension value unit)
  | .length => needing (unitFeature? unit) (Spaced.ofText (Numeric.dimension value unit))
  | .share => Spaced.ofText (Numeric.dimension value unit)

mutual

/-- A quantity inside a calculation as it is written, or its negative. -/
def inner (isNegated : Bool) : Quantity → Spaced
  | number value => Spaced.ofText (Numeric.text (if isNegated then -value else value))
  | percentage share => Spaced.ofText (Numeric.percentage (if isNegated then -share else share))
  | measured kind value unit => measuredText kind (if isNegated then -value else value) unit
  | sum left right =>
    if (right.isNegative?.map (· != isNegated)) == some true then
      left.inner isNegated ++ Spaced.ofText " - " ++ right.inner (!isNegated)
    else left.inner isNegated ++ Spaced.ofText " + " ++ right.inner isNegated
  | product factor quantity =>
    let factor := if isNegated then -factor else factor
    if factor == 1 then quantity.inner false
    else if factor.abs < 1 then
      quantity.inner false ++ Spaced.slash ++ Spaced.ofText (Numeric.text (1 / factor))
    else Spaced.ofText (Numeric.text factor) ++ [.gap, .text "*", .gap] ++ quantity.inner false
  | function "clamp" [low, middle, high] =>
    let (low, middle, high) := (low.inner false, middle.inner false, high.inner false)
    let modern := Spaced.call "clamp" (Spaced.listed [low, middle, high])
    let plain :=
      Spaced.call "max" (Spaced.listed [low, Spaced.call "min" (Spaced.listed [middle, high])])
    let shown := needing (some .clamp) [.choice .clamp modern plain]
    if isNegated then Spaced.ofText "-1" ++ [.gap, .text "*", .gap] ++ shown else shown
  | function name arguments =>
    let isInside := isNegated && name == "calc"
    let shown := needing (functionFeature? name) (Spaced.call name (listed isInside arguments))
    if isNegated && !isInside then Spaced.ofText "-1" ++ [.gap, .text "*", .gap] ++ shown else shown
  | rounded rounding value step =>
    let words := (rounding.text?.map Spaced.ofText).toList
    let shown := needing (some .rounding)
      (Spaced.call "round" (Spaced.listed (words ++ [value.inner false, step.inner false])))
    if isNegated then Spaced.ofText "-1" ++ [.gap, .text "*", .gap] ++ shown else shown

def listed (isNegated : Bool) : List Quantity → Spaced
  | [] => []
  | [only] => only.inner isNegated
  | first :: rest => first.inner isNegated ++ Spaced.comma ++ listed isNegated rest

end

/-- A quantity as it is written; a length of zero needs no unit. -/
def text : Quantity → Spaced
  | measured .length value unit =>
    if value == 0 then Spaced.ofText "0" else measuredText .length value unit
  | quantity => quantity.inner false

def ofToken? : Token → Option Quantity
  | .dimension value unit => do
    let unit := unit.toLower
    return measured (← Measure.ofUnit? unit) value.single unit
  | _ => none

structure Domain where
  measures : List Measure
  hasShares : Bool
  /-- A number stands for as many pixels. -/
  hasNumbers : Bool
  deriving DecidableEq, Repr, Inhabited

def leaf (domain : Domain) : Grammar Quantity := Grammar.leaf fun token =>
  match token with
  | .percentage value =>
    if domain.hasShares then some (percentage ((value.double / 100).toFloat32)) else none
  | token => (ofToken? token).filter fun quantity =>
    match quantity with
    | measured kind _ _ => domain.measures.contains kind
    | _ => false

def ofCall? (name : String) (arguments : List Quantity) : Option Quantity :=
  match name, arguments with
  | "calc", [only] =>
    match only with
    | sum _ _ | product _ _ | rounded _ _ _ => some (function "calc" [only])
    | function inner arguments =>
      some (if inner == "calc" then function inner arguments else function "calc" [only])
    | only => some only
  | "min", first :: rest => some (least (first :: rest))
  | "max", first :: rest => some (greatest (first :: rest))
  | "clamp", [low, middle, high] => some (clamped low middle high)
  | _, _ => none

def constants : List (String × Float32) :=
  [("e", 2.71828182845905), ("pi", halfTurn), ("infinity", 1 / 0), ("-infinity", -1 / 0)]

open Grammar in
def plainNumber : Grammar Quantity :=
  (Grammar.leaf fun
    | .number value => some (number value.single)
    | _ => none) <|>
  (number <$> mapped lower (List.lookup · constants))

def combined? (f : Float32 → Float32 → Float32) (left right : Quantity) : Option Quantity :=
  (common? left right).map fun (unit, a, b) => unit.withValue (f a b)

/-- A function of a quantity; a share of something else is not known well enough. -/
def changed? (f : Float32 → Float32) : Quantity → Option Quantity
  | number value => some (number (f value))
  | measured kind value unit => some (measured kind (f value) unit)
  | _ => none

/-- What is left of a value behind as many whole steps as fit into it. -/
def remainder (value step : Float32) : Float32 :=
  let (value, step) := (value.toFloat, step.toFloat)
  let count := value / step
  (value - step * (if count < 0 then count.ceil else count.floor)).toFloat32

/-- The same, with the sign of the step. -/
def modulus (value step : Float32) : Float32 := remainder (remainder value step + step) step

def diagonal (a b : Float32) : Float32 := (a * a + b * b).sqrt

def signOf (value : Float32) : Float32 :=
  if value == 0 then value else if value < 0 then -1 else 1

def diagonal? : List Quantity → Option Quantity
  | [] => none
  | [only] => some only
  | [first, second] => combined? diagonal first second
  | first :: rest => do
    let start ← changed? (fun value => value * value) first
    let total ← rest.foldlM (combined? fun sum value => sum + value * value) start
    changed? Float32.sqrt total

def number? : Quantity → Option Float32
  | number value => some value
  | _ => none

def numeric : List (String × (Float32 → Float32)) :=
  [("sqrt", Float32.sqrt), ("exp", Float32.exp), ("log", Float32.log)]

def ofAngle : List (String × (Float32 → Float32)) :=
  [("sin", Float32.sin), ("cos", Float32.cos), ("tan", Float32.tan)]

def toAngle : List (String × (Float32 → Float32)) :=
  [("asin", Float32.asin), ("acos", Float32.acos), ("atan", Float32.atan)]

/-- A number in radians, or a number that is no angle at all. -/
def angleOf (value : Float32) : Quantity :=
  if value.isNaN then number value else measured .angle value "rad"

def trigonometric? (name : String) (argument : Quantity) : Option Quantity :=
  match ofAngle.lookup name, toAngle.lookup name, argument with
  | some f, _, measured .angle value unit => some (number (f (radians value unit)))
  | some f, _, number value => some (number (f value))
  | _, some f, number value => some (angleOf (f value))
  | _, _, _ => none

def numeric? (name : String) (arguments : List Quantity) : Option Quantity := do
  match name, ← arguments.mapM number? with
  | "pow", [base, exponent] => some (number (base.pow exponent))
  | "log", [value, base] => some (number (value.log / base.log))
  | name, [value] => (numeric.lookup name).map fun f => number (f value)
  | _, _ => none

def measured? (name : String) (arguments : List Quantity) : Option Quantity :=
  match name, arguments with
  | "rem", [value, step] =>
    some ((combined? remainder value step).getD (function name [value, step]))
  | "mod", [value, step] =>
    some ((combined? modulus value step).getD (function name [value, step]))
  | "abs", [value] => some ((changed? Float32.abs value).getD (function name [value]))
  | "sign", [value] =>
    some (((changed? signOf value).bind value?).elim (function name [value]) number)
  | "hypot", first :: rest =>
    some ((diagonal? (first :: rest)).getD (function name (first :: rest)))
  | name, arguments => ofCall? name arguments

def round (rounding : Rounding) (value step : Quantity) : Quantity :=
  (combined? rounding.apply value step).getD (rounded rounding value step)

/-- The kinds of quantities of which two may span an angle. -/
def spanning : List Domain :=
  [⟨[.length], false, false⟩, ⟨[], true, false⟩, ⟨[.angle], false, false⟩,
    ⟨[.time], false, false⟩]

def spanned? : List Quantity → Option Quantity
  | [first, second] => (common? first second).map fun (_, a, b) => angleOf (a.atan2 b)
  | _ => none

def functions : List String :=
  ["calc", "min", "max", "clamp", "round", "rem", "mod", "abs", "sign", "hypot", "pow", "atan2"] ++
    (numeric ++ ofAngle ++ toAngle).map Prod.fst

def sign? : List Part → Option (Bool × List Part)
  | .leaf ⟨.comment _, _⟩ :: rest => sign? rest
  | .leaf ⟨.blank _, _⟩ :: rest =>
    match Part.dropBlank rest with
    | .leaf ⟨.delim '+', _⟩ :: rest => some (false, rest)
    | .leaf ⟨.delim '-', _⟩ :: rest => some (true, rest)
    | _ => none
  | _ => none

mutual

def sumWithin : Nat → Domain → Grammar Quantity
  | 0, _ => Grammar.fail
  | fuel + 1, domain => do
    let first ← productWithin fuel domain
    termsWithin fuel domain first

def termsWithin : Nat → Domain → Quantity → Grammar Quantity
  | 0, _, total => return total
  | fuel + 1, domain, total => do
    match sign? (← get) with
    | some (isNegative, rest) =>
      set rest
      let term ← productWithin fuel domain
      termsWithin fuel domain (total.plus (if isNegative then term.times (-1) else term))
    | none => return total

def productWithin : Nat → Domain → Grammar Quantity
  | 0, _ => Grammar.fail
  | fuel + 1, domain => do
    let first ← factorWithin fuel domain
    factorsWithin fuel domain first

def factorsWithin : Nat → Domain → Quantity → Grammar Quantity
  | 0, _, total => return total
  | fuel + 1, domain, total => do
    match Part.dropBlank (← get) with
    | .leaf ⟨.delim '*', _⟩ :: rest =>
      set rest
      match total, ← factorWithin fuel domain with
      | total, .number factor => factorsWithin fuel domain (total.times factor)
      | .number factor, other => factorsWithin fuel domain (other.times factor)
      | _, _ => Grammar.fail
    | .leaf ⟨.delim '/', _⟩ :: rest =>
      set rest
      match ← factorWithin fuel domain with
      | .number divisor =>
        if divisor == 0 then Grammar.fail
        else factorsWithin fuel domain (total.times (1 / divisor))
      | _ => Grammar.fail
    | _ => return total

def factorWithin : Nat → Domain → Grammar Quantity
  | 0, _ => Grammar.fail
  | fuel + 1, domain => do
    match ← Grammar.perhaps (functionWithin fuel domain) with
    | some (.function "calc" [only]) => return only
    | some found => return found
    | none =>
      Grammar.bracketed .paren (sumWithin fuel domain) <|> plainNumber <|> leaf domain

def functionWithin : Nat → Domain → Grammar Quantity
  | 0, _ => Grammar.fail
  | fuel + 1, domain => do
    let (name, arguments) ← Grammar.callOf functions
    let listed (domain : Domain) : Option (List Quantity) :=
      Grammar.whole? (Grammar.listed (sumWithin fuel domain)) arguments
    let angle (found : Option Quantity) : Option Quantity :=
      found.filter fun
        | measured _ _ _ => domain.measures.contains .angle
        | _ => true
    let found : Option Quantity :=
      if name == "atan2" then
        angle (spanning.findSome? fun domain => (listed domain).bind spanned?)
      else if (ofAngle ++ toAngle).any (·.1 == name) then do
        match ← listed ⟨[.angle], false, false⟩ with
        | [only] => angle (trigonometric? name only)
        | _ => none
      else if name == "pow" || numeric.any (·.1 == name) then
        (listed ⟨[], false, false⟩).bind (numeric? name)
      else if name == "round" then
        Grammar.whole? (do
          let way ← Grammar.perhaps
            (Grammar.mapped Grammar.lower (List.lookup · Rounding.words) <* Grammar.comma)
          match ← Grammar.listed (sumWithin fuel domain) with
          | [value, step] => return round (way.getD .nearest) value step
          | _ => Grammar.fail) arguments
      else (listed domain).bind (measured? name)
    match found with
    | some quantity => return quantity
    | none => Grammar.fail

end

def calculated (domain : Domain) : Grammar Quantity := do
  functionWithin (8 * Part.count (← get) + 8) domain

/-- A quantity: a calculation, a number with a unit, or where that is allowed a percentage or a
number. -/
def grammar (domain : Domain) : Grammar Quantity :=
  calculated domain <|> leaf domain <|>
    Grammar.leaf fun
      | .number value =>
        if domain.hasNumbers then some (measured .length value.single "px") else none
      | _ => none

def length : Grammar Quantity := grammar ⟨[.length], false, true⟩

def lengthOrShare : Grammar Quantity := grammar ⟨[.length], true, true⟩

def settled (domain : Domain) : Grammar Quantity :=
  Grammar.such (grammar domain) fun quantity => quantity.value?.isSome

def time : Grammar Quantity := Grammar.such (settled ⟨[.time], false, false⟩) isMeasured

def angle : Grammar Quantity := Grammar.such (settled ⟨[.angle], false, false⟩) isMeasured

/-- An angle, or a zero without a unit. -/
def angleOrZero : Grammar Quantity :=
  angle <|> Grammar.leaf fun
    | .number value => if value.single == 0 then some (measured .angle 0 "deg") else none
    | _ => none

def angleOrShare : Grammar Quantity := grammar ⟨[.angle], true, false⟩

def resolution : Grammar Quantity := Grammar.such (settled ⟨[.resolution], false, false⟩) isMeasured

def numberValue : Grammar Float32 :=
  Grammar.mapped
    (calculated ⟨[], false, false⟩ <|> Grammar.leaf fun
      | .number value => some (number value.single)
      | _ => none)
    fun
      | number value => some value
      | _ => none

def shareValue : Grammar Float32 :=
  Grammar.mapped (grammar ⟨[], true, false⟩) fun
    | percentage share => some share
    | _ => none

def numberOrShareValue : Grammar Float32 := numberValue <|> shareValue

end Quantity

end StyleInline.Stylesheet
