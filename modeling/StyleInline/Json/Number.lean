import StyleInline.Json.Value
import StyleInline.Text.Shortest

/-!
# JSON numbers

The value of a number from its digits.  Integers of 64 bits are exact; anything else is a
double, computed from at most the digits that fit into 64 bits.
-/

namespace StyleInline.Json.Number

/-- The parts of a number as it is written. -/
structure Written where
  isNegative : Bool
  whole : List Char
  fraction : Option (List Char)
  exponent : Option Int

/-- The digits of a significand, taken while they fit into 64 bits, and how many were taken. -/
def significand (digits : List Char) : Nat × Nat :=
  let step (state : Nat × Nat × Bool) (c : Char) : Nat × Nat × Bool :=
    let (value, taken, isFull) := state
    let next := value * 10 + (c.toNat - 48)
    if isFull || Nat.pow 2 64 ≤ next then (value, taken, true) else (next, taken + 1, false)
  let (value, taken, _) := digits.foldl step (0, 0, false)
  (value, taken)

def power (exponent : Nat) : Float := Float.ofScientific 1 false exponent

/-- A double from a significand and a power of ten, if it is finite; `fuel` bounds the division. -/
def scaled? : Nat → Float → Int → Option Float
  | 0, value, _ => some value
  | fuel + 1, value, exponent =>
    if exponent.natAbs ≤ 308 then
      let result :=
        if 0 ≤ exponent then value * power exponent.natAbs else value / power exponent.natAbs
      if result.isFinite then some result else none
    else if value == 0.0 then some value
    else if 0 ≤ exponent then none
    else scaled? fuel (value / power 308) (exponent + 308)

def double? (written : Written) : Option Float :=
  let fraction := written.fraction.getD []
  let (value, taken) := significand (written.whole ++ fraction)
  let exponent : Int := (written.whole.length : Int) - taken + written.exponent.getD 0
  let start := (UInt64.ofNat value).toFloat
  let magnitude? := scaled? (exponent.natAbs / 308 + 2) start exponent
  magnitude?.map fun magnitude => if written.isNegative then -magnitude else magnitude

def value? (written : Written) : Option Value :=
  let asReal := (double? written).map fun double => Value.real (Text.Shortest.ofFloat double)
  match written.fraction, written.exponent with
  | none, none =>
    let (value, taken) := significand written.whole
    if taken < written.whole.length then asReal
    else if !written.isNegative then some (.integer value)
    else if value = 0 || Nat.pow 2 63 < value then asReal
    else some (.integer (-(value : Int)))
  | _, _ => asReal

end StyleInline.Json.Number
