import StyleInline.Stylesheet.Token
import StyleInline.Text.Shortest

/-!
# Numbers in stylesheets

A number is computed in double precision from its digits and kept in single precision.  It is
written with at most six digits that count, and without a zero in front of its point.
-/

namespace StyleInline.Stylesheet

namespace Number

def natOf (digits : List Char) : Nat :=
  digits.foldl (fun value c => 10 * value + (c.toNat - '0'.toNat)) 0

/-- Digits behind a point, each a tenth of the one before it. -/
def fractionOf (digits : List Char) : Float :=
  (digits.foldl (fun (value, factor) c =>
    (value + Float.ofNat (c.toNat - '0'.toNat) * factor, factor * 0.1)) (0.0, 0.1)).1

def wholeOf (digits : List Char) : Float :=
  digits.foldl (fun value c => value * 10.0 + Float.ofNat (c.toNat - '0'.toNat)) 0.0

def double (number : Number) : Float :=
  let magnitude := wholeOf number.whole + fractionOf number.fraction
  let value := if number.sign == some '-' then -magnitude else magnitude
  match number.exponent with
  | none => value
  | some exponent => value * Float.pow 10.0 (Float.ofInt exponent)

def single (number : Number) : Float32 := number.double.toFloat32

/-- A number without a point and an exponent. -/
def isWhole (number : Number) : Bool := number.fraction.isEmpty && number.exponent.isNone

/-- The greatest whole number that is kept exactly. -/
def wholeLimit : Int := 2147483647

def int? (number : Number) : Option Int :=
  if !number.isWhole then none
  else
    let magnitude : Int := natOf number.whole
    if number.sign == some '-' then some (max (-wholeLimit - 1) (-magnitude))
    else some (min wholeLimit magnitude)

end Number

namespace Numeric

def precision : Nat := 6

/-- A decimal with no more digits than count; a half goes up. -/
def rounded (decimal : Nat × Int) : Nat × Int :=
  let (digits, exponent) := decimal
  let length := (Nat.toDigits 10 digits).length
  if length ≤ precision then decimal
  else
    let dropped := length - precision
    let unit := Nat.pow 10 dropped
    let kept := digits / unit + (if 5 * Nat.pow 10 (dropped - 1) ≤ digits % unit then 1 else 0)
    (kept, exponent + dropped)

/-- A positive decimal; far from its point it has an exponent, which `point` decides by the place
of the point in the exact number. -/
def layout (digits : Nat) (exponent point : Int) : String :=
  let (digits, exponent) := Text.Shortest.dropZeros 20 (digits, exponent)
  let text := Nat.toDigits 10 digits
  if 21 < point || point ≤ -6 then
    let tail := text.drop 1
    String.ofList (text.take 1) ++ (if tail.isEmpty then "" else "." ++ String.ofList tail) ++
      "e" ++ toString ((text.length : Int) + exponent - 1)
  else Text.Shortest.positional digits exponent

def full (value : Float32) : String :=
  let (digits, exponent) := Text.Shortest.singleDecimal value
  if digits == 0 then "0"
  else
    let point := ((Nat.toDigits 10 digits).length : Int) + exponent
    let (digits, exponent) := rounded (digits, exponent)
    let sign := if Text.Shortest.isNegativeSingle value then "-" else ""
    sign ++ layout digits exponent point

def text (value : Float32) : String :=
  match (full value).toList with
  | '0' :: '.' :: rest => String.ofList ('.' :: rest)
  | '-' :: '0' :: '.' :: rest => String.ofList ('-' :: '.' :: rest)
  | chars => String.ofList chars

def dimension (value : Float32) (unit : String) : String := text value ++ unit

def percentage (share : Float32) : String :=
  let written := full (share * 100)
  let short := if share.abs < 0.01 then text (share * 100) else written
  short ++ "%"

def told (value : Float32) : String := Text.Shortest.ofFloat32 value

end Numeric

end StyleInline.Stylesheet
