/-!
# Faults in patterns

Why a text is no pattern, the stretch of the text at which this shows, and the message that
points at it.
-/

namespace StyleInline.Pattern

/-- A place in a text; lines and columns count from one. -/
structure Place where
  line : Nat
  column : Nat
  deriving DecidableEq, Repr, Inhabited

namespace Place

def after (place : Place) (c : Char) : Place :=
  if c = '\n' then ⟨place.line + 1, 1⟩ else ⟨place.line, place.column + 1⟩

def less (left right : Place) : Bool :=
  left.line < right.line || (left.line == right.line && left.column < right.column)

end Place

/-- A stretch of a text: where it starts, and the place behind it. -/
structure Span where
  start : Place
  stop : Place
  deriving DecidableEq, Repr, Inhabited

namespace Span

def isOneLine (span : Span) : Bool := span.start.line == span.stop.line

def less (left right : Span) : Bool :=
  left.start.less right.start || (left.start == right.start && left.stop.less right.stop)

end Span

inductive Cause where
  | classEscape
  | classRangeOrder
  | classRangeBound
  | classUnclosed
  | numberInvalid
  | codeEmpty
  | codeInvalid
  | codeDigit
  | escapeUnfinished
  | escapeUnknown
  | flagDangling
  | flagTwice
  | flagNegatedTwice
  | flagMissing
  | flagUnknown
  | nameTwice
  | nameEmpty
  | nameInvalid
  | nameUnclosed
  | groupUnclosed
  | groupUnopened
  | tooDeep (limit : Nat)
  | countOrder
  | countEmpty
  | countUnclosed
  | nothingToRepeat
  | boundaryUnclosed
  | boundaryUnknown
  | boundaryUnfinished
  | propertyInvalid
  | backreference
  | lookAround
  | unicodeOff
  | notUnicode
  | propertyUnknown
  | propertyValueUnknown
  deriving DecidableEq, Repr, Inhabited

namespace Cause

def message : Cause → String
  | .classEscape => "invalid escape sequence found in character class"
  | .classRangeOrder => "invalid character class range, the start must be <= the end"
  | .classRangeBound => "invalid range boundary, must be a literal"
  | .classUnclosed => "unclosed character class"
  | .numberInvalid => "decimal literal invalid"
  | .codeEmpty => "hexadecimal literal empty"
  | .codeInvalid => "hexadecimal literal is not a Unicode scalar value"
  | .codeDigit => "invalid hexadecimal digit"
  | .escapeUnfinished => "incomplete escape sequence, reached end of pattern prematurely"
  | .escapeUnknown => "unrecognized escape sequence"
  | .flagDangling => "dangling flag negation operator"
  | .flagTwice => "duplicate flag"
  | .flagNegatedTwice => "flag negation operator repeated"
  | .flagMissing => "expected flag but got end of regex"
  | .flagUnknown => "unrecognized flag"
  | .nameTwice => "duplicate capture group name"
  | .nameEmpty => "empty capture group name"
  | .nameInvalid => "invalid capture group character"
  | .nameUnclosed => "unclosed capture group name"
  | .groupUnclosed => "unclosed group"
  | .groupUnopened => "unopened group"
  | .tooDeep limit =>
    "exceed the maximum number of nested parentheses/brackets (" ++ toString limit ++ ")"
  | .countOrder => "invalid repetition count range, the start must be <= the end"
  | .countEmpty => "repetition quantifier expects a valid decimal"
  | .countUnclosed => "unclosed counted repetition"
  | .nothingToRepeat => "repetition operator missing expression"
  | .boundaryUnclosed =>
    "special word boundary assertion is either unclosed or contains an invalid character"
  | .boundaryUnknown =>
    "unrecognized special word boundary assertion, valid choices are: start, end, " ++
      "start-half or end-half"
  | .boundaryUnfinished =>
    "found either the beginning of a special word boundary or a bounded repetition on a \\b " ++
      "with an opening brace, but no closing brace"
  | .propertyInvalid => "invalid Unicode character class"
  | .backreference => "backreferences are not supported"
  | .lookAround => "look-around, including look-ahead and look-behind, is not supported"
  | .unicodeOff => "Unicode not allowed here"
  | .notUnicode => "pattern can match invalid UTF-8"
  | .propertyUnknown => "Unicode property not found"
  | .propertyValueUnknown => "Unicode property value not found"

end Cause

/-- A reason with the stretch where it shows, and an earlier stretch that it clashes with. -/
structure Fault where
  cause : Cause
  span : Span
  clash : Option Span := none
  deriving DecidableEq, Repr, Inhabited

namespace Fault

/-- The lines of a text; a break at its end starts no line. -/
def linesOf : List Char → List (List Char)
  | [] => []
  | '\n' :: rest => [] :: linesOf rest
  | '\r' :: '\n' :: rest => [] :: linesOf rest
  | c :: rest =>
    match linesOf rest with
    | [] => [[c]]
    | first :: others => (c :: first) :: others

def copies (count : Nat) (c : Char) : String := String.ofList (List.replicate count c)

/-- Carets under the stretches of one line; `column` is the column reached so far, from zero. -/
def carets : List Span → Nat → String
  | [], _ => ""
  | span :: rest, column =>
    let gap := span.start.column - 1 - column
    let width := max 1 (span.stop.column - span.start.column)
    copies gap ' ' ++ copies width '^' ++ carets rest (column + gap + width)

/-- Lines with what stands in front of each, and carets below those that hold a marked stretch. -/
def markedLines (front : Nat → String) (margin : Nat) (marked : List Span) :
    List (List Char × Nat) → String
  | [] => ""
  | (line, number) :: rest =>
    let here := marked.filter (·.start.line == number)
    front number ++ String.ofList line ++ "\n" ++
      (if here.isEmpty then "" else copies margin ' ' ++ carets here 0 ++ "\n") ++
      markedLines front margin marked rest

def padded (width number : Nat) : String :=
  let digits := toString number
  copies (width - digits.length) ' ' ++ digits

def told (span : Span) : String :=
  "on line " ++ toString span.start.line ++ " (column " ++ toString span.start.column ++
    ") through line " ++ toString span.stop.line ++ " (column " ++
    toString (span.stop.column - 1) ++ ")"

def spans (fault : Fault) : List Span :=
  match fault.clash with
  | none => [fault.span]
  | some other => if other.less fault.span then [other, fault.span] else [fault.span, other]

def message (text : String) (fault : Fault) : String :=
  let chars := text.toList
  let lines := linesOf chars
  let count := lines.length + (if chars.getLast? == some '\n' then 1 else 0)
  let marked := fault.spans.filter (·.isOneLine)
  let unmarked := fault.spans.filter (!·.isOneLine)
  let numbered := lines.zipIdx 1
  let ending := "error: " ++ fault.cause.message
  if chars.contains '\n' then
    let width := if count ≤ 1 then 0 else (toString count).length
    let margin := if width == 0 then 4 else 2 + width
    let front (number : Nat) : String := if width == 0 then "    " else padded width number ++ ": "
    let divider := copies 79 '~' ++ "\n"
    "regex parse error:\n" ++ divider ++ markedLines front margin marked numbered ++ divider ++
      (if unmarked.isEmpty then "" else "\n".intercalate (unmarked.map told) ++ "\n") ++ ending
  else
    "regex parse error:\n" ++ markedLines (fun _ => "    ") 4 marked numbered ++ ending

end Fault

end StyleInline.Pattern
