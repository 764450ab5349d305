import StyleInline.Stylesheet.Quantity

/-!
# Positions

A position in a box is given along both axes: a side and maybe a distance from it, the centre, or
a distance from the left or the top.
-/

namespace StyleInline.Stylesheet

inductive Coordinate where
  | center
  | distance (length : Quantity)
  /-- The first side of an axis is left or top. -/
  | side (isFirst : Bool) (offset : Option Quantity)
  deriving BEq, Repr, Inhabited

structure Position where
  x : Coordinate
  y : Coordinate
  deriving BEq, Repr, Inhabited

namespace Coordinate

open StyleInline.Stylesheet.Grammar (word perhaps oneOf)

def horizontal : String × String := ("left", "right")

def vertical : String × String := ("top", "bottom")

def sideOf (axis : String × String) : Grammar Bool :=
  (· == axis.1) <$> word [axis.1, axis.2]

def grammar (axis : String × String) : Grammar Coordinate :=
  (word ["center"] *> pure .center) <|> (.distance <$> Quantity.lengthOrShare) <|> do
    let isFirst ← sideOf axis
    return .side isFirst (← perhaps Quantity.lengthOrShare)

def half : Quantity := .percentage 0.5

def isCenter : Coordinate → Bool
  | .center => true
  | .distance length => length == half
  | .side _ _ => false

def isZero : Coordinate → Bool
  | .distance length => length.isZero
  | _ => false

def ofSide (isFirst : Bool) : Quantity :=
  if isFirst then .measured .length 0 "px" else .percentage 1

def sideText (axis : String × String) (isFirst : Bool) : Spaced :=
  Spaced.ofText (if isFirst then axis.1 else axis.2)

def text (axis : String × String) : Coordinate → Spaced
  | .center => [.either "center" "50%"]
  | .distance length => length.text
  | .side isFirst none => sideText axis isFirst
  | .side isFirst (some offset) => Spaced.words [sideText axis isFirst, offset.text]

/-- The distance from the left or the top, if it is known. -/
def length? : Coordinate → Option Quantity
  | .center => some half
  | .distance length => some length
  | .side true offset => some (offset.getD (ofSide true))
  | .side false _ => none

end Coordinate

namespace Position

open StyleInline.Stylesheet.Coordinate (horizontal vertical sideOf sideText)
open StyleInline.Stylesheet.Grammar (word perhaps)

def behindSide (isFirst : Bool) (offset : Option Quantity) : Grammar Position :=
  (do
    let _ ← word ["center"]
    return ⟨.side isFirst offset, .center⟩) <|>
  (do
    let isTop ← sideOf vertical
    let below ← perhaps Quantity.lengthOrShare
    return ⟨.side isFirst offset, .side isTop below⟩) <|>
  pure ⟨.side isFirst none,
    match offset with
    | none => .center
    | some length => .distance length⟩

def behindDistance (length : Quantity) : Grammar Position :=
  (do
    let isTop ← sideOf vertical
    return ⟨.distance length, .side isTop none⟩) <|>
  (do
    let below ← Quantity.lengthOrShare
    return ⟨.distance length, .distance below⟩) <|>
  (do
    let _ ← perhaps (word ["center"])
    return ⟨.distance length, .center⟩)

def behindCenter : Grammar Position :=
  (do
    let y ← Coordinate.grammar vertical
    return ⟨.center, y⟩) <|>
  (do
    let x ← perhaps (Coordinate.grammar horizontal)
    return ⟨x.getD .center, .center⟩)

def fromVertical : Grammar Position := do
  let isTop ← sideOf vertical
  let withX : Grammar Position := do
    let below ← perhaps Quantity.lengthOrShare
    let x ←
      (do
        let isLeft ← sideOf horizontal
        return Coordinate.side isLeft (← perhaps Quantity.lengthOrShare)) <|>
      (word ["center"] *> pure .center)
    return ⟨x, .side isTop below⟩
  withX <|> pure ⟨.center, .side isTop none⟩

def grammar : Grammar Position :=
  (do
    match ← Coordinate.grammar horizontal with
    | .center => behindCenter
    | .distance length => behindDistance length
    | .side isFirst offset => behindSide isFirst offset) <|>
  fromVertical

def isZero (position : Position) : Bool := position.x.isZero && position.y.isZero

/-- A position as it is written, the shorter the better. -/
def text (position : Position) : Spaced :=
  let ⟨x, y⟩ := position
  let both (a b : Spaced) : Spaced := Spaced.words [a, b]
  match x, y with
  | .side false (some _), .distance below =>
    Spaced.words [x.text horizontal, Spaced.ofText "top", below.text]
  | .distance length, .side false (some _) =>
    Spaced.words [Spaced.ofText "left", length.text, y.text vertical]
  | x, y =>
    if y.isCenter then
      match x with
      | .side false (some _) => both (x.text horizontal) (Spaced.ofText "center")
      | .side isFirst none => (Coordinate.ofSide isFirst).text
      | .distance length => length.text
      | .center => x.text horizontal
      | .side true (some offset) => both offset.text Coordinate.half.text
    else
      match x, y with
      | .side isLeft none, .side isTop none =>
        both (Coordinate.ofSide isLeft).text (Coordinate.ofSide isTop).text
      | x, y =>
        match x.isCenter, y with
        | true, .side _ none => y.text vertical
        | _, _ =>
          match x.length?, y.length? with
          | some a, some b => both a.text b.text
          | _, _ => both (x.text horizontal) (y.text vertical)

end Position

end StyleInline.Stylesheet
