import StyleInline.Stylesheet.Gathering

/-!
# Kinds of values

A property of the author's own tells which kinds of values it has: any value, or one of several
kinds, of which a value may have to stand once, several times, or several times between commas.
-/

namespace StyleInline.Stylesheet

inductive Kind where
  | named (name : String)
  | word (content : String)
  deriving DecidableEq, Repr, Inhabited

inductive Repetition where
  | once
  | several
  | listed
  deriving DecidableEq, Repr, Inhabited

inductive Kinds where
  | anything
  | oneOf (options : List (Kind × Repetition))
  deriving DecidableEq, Repr, Inhabited

namespace Kinds

open StyleInline.Stylesheet.Property (plain)

def grammars : List (String × Grammar Spaced) :=
  let quantity (grammar : Grammar Quantity) : Grammar Spaced := Quantity.text <$> grammar
  [("length", Property.length), ("number", Property.number),
    ("percentage", (plain ∘ Numeric.percentage) <$> Quantity.shareValue),
    ("length-percentage", Property.lengthOrShare), ("color", Property.color),
    ("image", Image.grammar), ("url", Image.addressText <$> address),
    ("integer", Property.integer), ("angle", quantity Quantity.angle),
    ("time", quantity Quantity.time), ("resolution", quantity Quantity.resolution),
    ("transform-function", Property.Motion.transformation),
    ("transform-list",
      (List.flatten : List Spaced → Spaced) <$> Grammar.atLeastOne Property.Motion.transformation),
    ("custom-ident", Property.ownName), ("string", Property.string)]

def startsWord (c : Char) : Bool := c.isAlpha || 0x80 ≤ c.toNat || c == '_'

def isInWord (c : Char) : Bool := startsWord c || c.isDigit || c == '-'

def kind? : List Char → Option (Kind × List Char)
  | '<' :: rest =>
    match rest.span (· != '>') with
    | (name, _ :: behind) =>
      let name := (String.ofList name).toLower
      if (grammars.lookup name).isSome then some (.named name, behind) else none
    | (_, []) => none
  | c :: rest =>
    if startsWord c then
      let (word, behind) := (c :: rest).span isInWord
      some (.word (String.ofList word), behind)
    else none
  | [] => none

/-- A kind with its repetition at the start of a text, and the text behind it; a list of
transformations is not repeated. -/
def option? (chars : List Char) : Option ((Kind × Repetition) × List Char) := do
  let (kind, rest) ← kind? (chars.dropWhile Lexer.isBlank)
  match rest with
  | '+' :: behind =>
    return if kind == .named "transform-list" then ((kind, .once), rest)
      else ((kind, .several), behind)
  | '#' :: behind =>
    return if kind == .named "transform-list" then ((kind, .once), rest)
      else ((kind, .listed), behind)
  | _ => return ((kind, .once), rest)

def options? : Nat → List Char → Option (List (Kind × Repetition))
  | 0, _ => none
  | fuel + 1, chars => do
    let (first, rest) ← option? chars
    match rest.dropWhile Lexer.isBlank with
    | [] => return [first]
    | '|' :: behind => return first :: (← options? fuel behind)
    | _ => none

def ofText? (text : String) : Option Kinds :=
  let chars := ((text.toList.dropWhile Lexer.isBlank).reverse.dropWhile Lexer.isBlank).reverse
  if chars == ['*'] then some .anything
  else Kinds.oneOf <$> options? (chars.length + 1) chars

def optionText (option : Kind × Repetition) : String :=
  let kind :=
    match option.1 with
    | .named name => "<" ++ name ++ ">"
    | .word content => content
  let mark :=
    match option.2 with
    | .once => ""
    | .several => "+"
    | .listed => "#"
  kind ++ mark

def text (kinds : Kinds) : Spaced :=
  let inner : Spaced :=
    match kinds with
    | anything => plain "*"
    | oneOf options =>
      Spaced.joined [.gap, .text "|", .gap] (options.map fun option => plain (optionText option))
  plain "\"" ++ inner ++ plain "\""

/-- A value of one kind; what stands behind a single one does not count. -/
def valueOf (option : Kind × Repetition) : Grammar Spaced :=
  let single : Grammar Spaced :=
    match option.1 with
    | .named name => (grammars.lookup name).getD Grammar.fail
    | .word content => (plain ∘ Written.name) <$> Grammar.such Grammar.ident (· == content)
  match option.2 with
  | .once => single
  | .several => Grammar.toEnd (Spaced.words <$> Grammar.atLeastOne single)
  | .listed => Spaced.listed <$> Grammar.listed single

/-- A value of the first kind that it has. -/
def value (kinds : Kinds) (stop : Place) (parts : List Part) : Except Fault Spaced :=
  match kinds with
  | anything => Raw.ofParts parts
  | oneOf options =>
    match (Grammar.oneOf (options.map valueOf)).run parts with
    | some (found, _) => .ok found
    | none => .error (Fault.behindNext stop parts)

end Kinds

end StyleInline.Stylesheet
