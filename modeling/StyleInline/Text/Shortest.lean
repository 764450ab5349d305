/-!
# Shortest decimals

The decimal with the fewest digits that reads back as a given binary number, in exact
arithmetic: a number stands for the interval of the values that round to it, and the
shortest decimal is searched in that interval.
-/

namespace StyleInline.Text.Shortest

/-- A positive value `num / den` and the ends of the interval of what rounds to it, over the same
denominator. -/
structure Interval where
  den : Nat
  low : Nat
  num : Nat
  high : Nat
  isClosed : Bool

/-- A binary format: how many bits a mantissa has, and the power of two of its last bit in the
smallest numbers. -/
structure Format where
  mantissaBits : Nat
  leastPower : Int

def Format.double : Format := ⟨52, -1074⟩

def Format.single : Format := ⟨23, -149⟩

/-- The interval of a positive finite number, from its mantissa and exponent fields. -/
def Interval.ofFields (format : Format) (mantissa exponent : Nat) : Interval :=
  -- four times the value is the integer `4 * m` times a power of two
  let m := if exponent = 0 then mantissa else Nat.pow 2 format.mantissaBits + mantissa
  let power : Int := (if exponent = 0 then 1 else (exponent : Int)) + format.leastPower - 3
  let isNarrow := mantissa = 0 && 1 < exponent
  let scale := Nat.pow 2 power.toNat
  { den := Nat.pow 2 (-power).toNat
    low := (4 * m - (if isNarrow then 1 else 2)) * scale
    num := 4 * m * scale
    high := (4 * m + 2) * scale
    isClosed := m % 2 = 0 }

def Interval.holds (interval : Interval) (num den : Nat) : Bool :=
  let value := num * interval.den
  let low := interval.low * den
  let high := interval.high * den
  if interval.isClosed then low ≤ value && value ≤ high else low < value && value < high

/-- The exponent of the first digit of `num / den`, searched from `start` down by at most `fuel`
steps. -/
def leading (num den : Nat) : Nat → Int → Int
  | 0, start => start
  | fuel + 1, start =>
    if den * Nat.pow 10 start.toNat ≤ num * Nat.pow 10 (-start).toNat then start
    else leading num den fuel (start - 1)

/-- The decimal of a number of digits that is nearest to the value, if it lies in the interval. -/
def candidate? (interval : Interval) (first : Int) (digits : Nat) : Option (Nat × Int) :=
  let exponent := first - (digits : Int) + 1
  let up := Nat.pow 10 exponent.toNat
  let down := Nat.pow 10 (-exponent).toNat
  let below := interval.num * down / (interval.den * up)
  let hitsBelow := 0 < below && interval.holds (below * up) down
  let hitsAbove := interval.holds ((below + 1) * up) down
  let doubled := 2 * interval.num * down
  let isLower := doubled ≤ (2 * below + 1) * (interval.den * up)
  if hitsBelow && (isLower || !hitsAbove) then some (below, exponent)
  else if hitsAbove then some (below + 1, exponent)
  else none

def dropZeros : Nat → Nat × Int → Nat × Int
  | 0, decimal => decimal
  | fuel + 1, (digits, exponent) =>
    if digits % 10 = 0 && digits != 0 then dropZeros fuel (digits / 10, exponent + 1)
    else (digits, exponent)

/-- Digits and exponent of the shortest decimal of a positive finite number. -/
def decimal (format : Format) (mantissa exponent : Nat) : Nat × Int :=
  let interval := Interval.ofFields format mantissa exponent
  let first := leading interval.num interval.den 700 330
  let found := (List.range 17).findSome? fun n => candidate? interval first (n + 1)
  dropZeros 20 (found.getD (0, 0))

/-- A decimal: positional while the point is near its digits, with an exponent otherwise. -/
def layout (digits : Nat) (exponent : Int) : String :=
  let text := (Nat.toDigits 10 digits)
  let length : Int := text.length
  let point := length + exponent
  if 0 ≤ exponent && point ≤ 16 then
    String.ofList (text ++ List.replicate exponent.toNat '0') ++ ".0"
  else if 0 < point && point ≤ 16 then
    String.ofList (text.take point.toNat) ++ "." ++ String.ofList (text.drop point.toNat)
  else if -5 < point && point ≤ 0 then
    "0." ++ String.ofList (List.replicate (-point).toNat '0' ++ text)
  else
    let tail := text.drop 1
    String.ofList (text.take 1) ++ (if tail.isEmpty then "" else "." ++ String.ofList tail) ++
      "e" ++ toString (point - 1)

/-- Digits and exponent of the shortest decimal of a finite number of single precision without its
sign; zero has the digit zero. -/
def singleDecimal (value : Float32) : Nat × Int :=
  let bits := value.toBits.toNat
  let exponent := bits / Nat.pow 2 23 % Nat.pow 2 8
  let mantissa := bits % Nat.pow 2 23
  if exponent = 0 && mantissa = 0 then (0, 0) else decimal .single mantissa exponent

def isNegativeSingle (value : Float32) : Bool := value.toBits.toNat / Nat.pow 2 31 == 1

def ofFloat32 (value : Float32) : String :=
  let sign := if isNegativeSingle value then "-" else ""
  let (digits, power) := singleDecimal value
  sign ++ if digits = 0 then "0.0" else layout digits power

/-- The text of a finite double. -/
def ofFloat (value : Float) : String :=
  let bits := value.toBits.toNat
  let sign := if bits / Nat.pow 2 63 = 1 then "-" else ""
  let exponent := bits / Nat.pow 2 52 % Nat.pow 2 11
  let mantissa := bits % Nat.pow 2 52
  if exponent = 0 && mantissa = 0 then sign ++ "0.0"
  else
    let (digits, power) := decimal .double mantissa exponent
    sign ++ layout digits power

/-- A decimal without an exponent, and without a point if it is whole. -/
def positional (digits : Nat) (exponent : Int) : String :=
  let text := Nat.toDigits 10 digits
  let point := (text.length : Int) + exponent
  if 0 ≤ exponent then String.ofList (text ++ List.replicate exponent.toNat '0')
  else if 0 < point then
    String.ofList (text.take point.toNat) ++ "." ++ String.ofList (text.drop point.toNat)
  else "0." ++ String.ofList (List.replicate (-point).toNat '0' ++ text)

def withoutExponent (value : Float) : String :=
  let bits := value.toBits.toNat
  let exponent := bits / Nat.pow 2 52 % Nat.pow 2 11
  let mantissa := bits % Nat.pow 2 52
  if exponent = 2047 then "inf"
  else if exponent = 0 && mantissa = 0 then "0"
  else
    let (digits, power) := decimal .double mantissa exponent
    positional digits power

end StyleInline.Text.Shortest
