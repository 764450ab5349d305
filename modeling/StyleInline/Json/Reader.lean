import StyleInline.Json.Number

/-!
# Reading JSON text

A reader goes through the text once.  A fault has the place of the last character that was
read, or of the one that was looked at; a fault without a place gets one where the brackets
around it end.  Of the character at fault only the first octet counts, which is the one that
shows that the character does not fit.
-/

namespace StyleInline.Json

/-- A place in a text: a line, and the number of octets on it. -/
structure Place where
  line : Nat
  column : Nat
  deriving DecidableEq, Repr, Inhabited

structure Cursor where
  chars : List Char
  place : Place
  deriving Inhabited

structure Fault where
  reason : Reason
  place : Option Place
  deriving DecidableEq, Repr, Inhabited

def Fault.message (fault : Fault) : String :=
  fault.reason.message ++
    match fault.place with
    | none => ""
    | some place => " at line " ++ toString place.line ++ " column " ++ toString place.column

/-- A reader; after a fault it still knows how far it has come. -/
abbrev Read (α : Type) := EStateM Fault Cursor α

namespace Read

/-- The place behind a character, of which only `octets` are counted. -/
def behind (place : Place) (c : Char) (octets : Nat) : Place :=
  if c == '\n' then ⟨place.line + 1, 0⟩ else ⟨place.line, place.column + octets⟩

def peek : Read (Option Char) := do return (← get).chars.head?

def next : Read (Option Char) := do
  match ← get with
  | ⟨[], _⟩ => return none
  | ⟨c :: rest, place⟩ =>
    set (⟨rest, behind place c c.utf8Size⟩ : Cursor)
    return some c

def skip : Read Unit := do let _ ← next

/-- Fails at the last character that was read. -/
def failHere {α : Type} (reason : Reason) : Read α := do
  throw ⟨reason, some (← get).place⟩

/-- Fails at the character that was looked at. -/
def failAhead {α : Type} (reason : Reason) : Read α := do
  let cursor ← get
  match cursor.chars with
  | [] => throw ⟨reason, some cursor.place⟩
  | c :: _ => throw ⟨reason, some (behind cursor.place c 1)⟩

/-- Fails at a place that only the brackets around it know. -/
def failSomewhere {α : Type} (reason : Reason) : Read α := throw ⟨reason, none⟩

/-- The number of characters left, which bounds every repetition. -/
def charsLeft : Read Nat := do return (← get).chars.length

def isGap (c : Char) : Bool := c == ' ' || c == '\n' || c == '\t' || c == '\r'

def skipGapWithin : Nat → Read Unit
  | 0 => return
  | fuel + 1 => do
    match ← peek with
    | some c => if isGap c then skip; skipGapWithin fuel
    | none => return

def peekBehindGap : Read (Option Char) := do
  skipGapWithin (← charsLeft)
  peek

/-- Gives a fault without a place the place that `closing` leads to. -/
def placed {α : Type} (closing : Read Unit) (body : Read α) : Read α := fun start =>
  match body start with
  | .ok value cursor =>
    match closing cursor with
    | .ok _ after => .ok value after
    | .error fault after => .error fault after
  | .error fault cursor =>
    match fault.place with
    | some _ => .error fault cursor
    | none =>
      match closing cursor with
      | .ok _ after | .error _ after => .error { fault with place := some after.place } after

/-- The rest of a word whose first letter has been read. -/
def word : List Char → Read Unit
  | [] => return
  | expected :: rest => do
    match ← peek with
    | none => failHere .endOfValue
    | some c =>
      if c != expected then failAhead .wordExpected
      skip
      word rest

def digitsWithin : Nat → Read (List Char)
  | 0 => return []
  | fuel + 1 => do
    match ← peek with
    | some c =>
      if c.isDigit then
        skip
        return c :: (← digitsWithin fuel)
      else return []
    | none => return []

def digits : Read (List Char) := do digitsWithin (← charsLeft)

/-- The digits in front of the point; `isStrict` tells whether the number is needed. -/
def wholeDigits (isStrict : Bool) : Read (List Char) := do
  match ← peek with
  | none => failHere (if isStrict then .endOfValue else .invalidNumber)
  | some '0' =>
    skip
    match ← peek with
    | some d => if d.isDigit then failAhead .invalidNumber
    | none => pure ()
    return ['0']
  | some c => if c.isDigit then digits else failAhead .invalidNumber

def fraction (isStrict : Bool) : Read (Option (List Char)) := do
  if (← peek) != some '.' then return none
  skip
  let found ← digits
  if found.isEmpty then
    let isEnd := (← peek).isNone
    failAhead (if isStrict && isEnd then .endOfValue else .invalidNumber)
  return some found

/-- The largest exponent that is read to its end where it makes a number large. -/
def exponentLimit : Nat := 2147483647

/-- The digits of an exponent, at most `fuel` of them, behind those that spell `value`; one that
makes the number large fails as soon as it passes the limit. -/
def exponentWithin (isEnlarging : Bool) : Nat → Nat → Read Nat
  | 0, value => return value
  | fuel + 1, value => do
    match ← peek with
    | some c =>
      if !c.isDigit then return value
      skip
      let value := value * 10 + (c.toNat - 48)
      if isEnlarging && exponentLimit < value then failHere .numberRange
      exponentWithin isEnlarging fuel value
    | none => return value

/-- The exponent, if there is one; `isZero` tells whether the digits in front of it are zeros. -/
def exponent (isStrict isZero : Bool) : Read (Option Int) := do
  match ← peek with
  | some 'e' | some 'E' =>
    skip
    let isNegative ← do
      match ← peek with
      | some '+' => skip; pure false
      | some '-' => skip; pure true
      | _ => pure false
    match ← peek with
    | none => failHere (if isStrict then .endOfValue else .invalidNumber)
    | some c =>
      if !c.isDigit then failAhead .invalidNumber
      let isEnlarging := isStrict && !isNegative && !isZero
      let value : Int := ← exponentWithin isEnlarging (← charsLeft) 0
      return some (if isNegative then -value else value)
  | _ => return none

def written (isStrict : Bool) : Read Number.Written := do
  let isNegative ← do
    if (← peek) == some '-' then skip; pure true else pure false
  let whole ← wholeDigits isStrict
  let fraction ← fraction isStrict
  let isZero := (whole ++ fraction.getD []).all (· == '0')
  return { isNegative, whole, fraction, exponent := ← exponent isStrict isZero }

def number : Read Value := do
  match Number.value? (← written true) with
  | some value => return value
  | none => failHere .numberRange

def hexValue? (c : Char) : Option Nat :=
  if c.isDigit then some (c.toNat - 48)
  else if 'a' ≤ c && c ≤ 'f' then some (c.toNat - 87)
  else if 'A' ≤ c && c ≤ 'F' then some (c.toNat - 55)
  else none

def hexCode? : List Char → Option Nat
  | a :: b :: c :: d :: _ => do
    return (((← hexValue? a) * 16 + (← hexValue? b)) * 16 + (← hexValue? c)) * 16 + (← hexValue? d)
  | _ => none

/-- The cursor behind so many octets, or behind as many as there are.  A character of which only
some octets are read counts for as many. -/
def passing : Nat → Cursor → Nat × Cursor
  | 0, cursor => (0, cursor)
  | n + 1, ⟨[], place⟩ => (n + 1, ⟨[], place⟩)
  | n + 1, ⟨c :: rest, place⟩ =>
    passing (n + 1 - c.utf8Size) ⟨rest, behind place c (min c.utf8Size (n + 1))⟩
termination_by n => n
decreasing_by
  have := c.utf8Size_pos
  omega

def hexCode : Read Nat := do
  let start ← get
  let (missing, after) := passing 4 start
  set after
  match hexCode? start.chars with
  | some code => return code
  | none => failHere (if missing = 0 then .invalidEscape else .endOfText)

/-- A character after the text has been checked not to end. -/
def nextOfText : Read Char := do
  match ← next with
  | some c => return c
  | none => failHere .endOfText

def peekOfText : Read Char := do
  match ← peek with
  | some c => return c
  | none => failHere .endOfText

def lowSurrogate (high : Nat) : Read Char := do
  if (← peekOfText) != '\\' then failAhead .surrogateExpected
  skip
  if (← peekOfText) != 'u' then failAhead .surrogateExpected
  skip
  let low ← hexCode
  if low < 0xDC00 || 0xDFFF < low then failHere .loneSurrogate
  return Char.ofNat (0x10000 + (high - 0xD800) * 0x400 + (low - 0xDC00))

def escaped (isStrict : Bool) : Read Char := do
  let plain (c : Char) : Read Char := do
    skip
    return c
  match ← peekOfText with
  | '"' => plain '"'
  | '\\' => plain '\\'
  | '/' => plain '/'
  | 'b' => plain '\x08'
  | 'f' => plain '\x0c'
  | 'n' => plain '\n'
  | 'r' => plain '\r'
  | 't' => plain '\t'
  | 'u' =>
    skip
    let code ← hexCode
    if !isStrict then return Char.ofNat code
    if 0xDC00 ≤ code && code ≤ 0xDFFF then failHere .loneSurrogate
    if 0xD800 ≤ code && code ≤ 0xDBFF then lowSurrogate code else return Char.ofNat code
  | _ => failAhead .invalidEscape

/-- The rest of a string, behind its opening quote; `reversed` is what was read so far. -/
def textWithin (isStrict : Bool) : Nat → List Char → Read String
  | 0, _ => failHere .endOfText
  | fuel + 1, reversed => do
    if !isStrict then
      if let some c ← peek then
        if c.toNat < 32 then failHere .controlCharacter
    match ← nextOfText with
    | '"' => return String.ofList reversed.reverse
    | '\\' => textWithin isStrict fuel ((← escaped isStrict) :: reversed)
    | c =>
      if c.toNat < 32 then failHere .controlCharacter
      else textWithin isStrict fuel (c :: reversed)

def text (isStrict : Bool) : Read String := do textWithin isStrict ((← charsLeft) + 1) []

def nextItem (isFirst : Bool) : Read Bool := do
  match ← peekBehindGap with
  | some ']' => return false
  | some c =>
    if isFirst then return true
    if c != ',' then failAhead .listEndExpected
    skip
    match ← peekBehindGap with
    | some ']' => failAhead .trailingComma
    | some _ => return true
    | none => failAhead .endOfValue
  | none => failAhead .endOfList

/-- Moves on to the value of the next member of an object, if there is one, and gives its key. -/
def nextKey (isFirst : Bool) : Read (Option String) := do
  match ← peekBehindGap with
  | some '\x7d' => return none
  | some c =>
    if !isFirst then
      if c != ',' then failAhead .objectEndExpected
      skip
    match ← peekBehindGap with
    | some '"' =>
      skip
      return some (← text true)
    | some '\x7d' => failAhead .trailingComma
    | some _ => failAhead .keyExpected
    | none => failAhead .endOfValue
  | none => failAhead .endOfObject

def colon : Read Unit := do
  match ← peekBehindGap with
  | some ':' => skip
  | some _ => failAhead .colonExpected
  | none => failAhead .endOfObject

def endList : Read Unit := do
  match ← peekBehindGap with
  | some ']' => skip
  | some ',' =>
    skip
    match ← peekBehindGap with
    | some ']' => failAhead .trailingComma
    | some _ => failAhead .trailingCharacters
    | none => failAhead .endOfList
  | some _ => failAhead .trailingCharacters
  | none => failAhead .endOfList

def endObject : Read Unit := do
  match ← peekBehindGap with
  | some '\x7d' => skip
  | some ',' => failAhead .trailingComma
  | some _ => failAhead .trailingCharacters
  | none => failAhead .endOfObject

/-- Reads on inside brackets, if the depth that is left allows it. -/
def nested {α : Type} (depth : Nat) (closing : Read Unit) (body : Nat → Read α) : Read α := do
  if depth ≤ 1 then failAhead .tooDeep
  skip
  placed closing (body (depth - 1))

def itemsWithin {α : Type} (item : Read α) : Nat → Bool → Read (List α)
  | 0, _ => return []
  | fuel + 1, isFirst => do
    if ← nextItem isFirst then
      let first ← item
      return first :: (← itemsWithin item fuel false)
    else return []

def membersWithin {α : Type} (value : Read α) : Nat → Bool → Read (List (String × α))
  | 0, _ => return []
  | fuel + 1, isFirst => do
    match ← nextKey isFirst with
    | some key =>
      colon
      let first ← value
      return (key, first) :: (← membersWithin value fuel false)
    | none => return []

/-- A value whose brackets nest less deeply than `depth`. -/
def value : Nat → Read Value
  | 0 => failAhead .tooDeep
  | depth + 1 => do
    match ← peekBehindGap with
    | none => failAhead .endOfValue
    | some 'n' => skip; word ['u', 'l', 'l']; return .null
    | some 't' => skip; word ['r', 'u', 'e']; return .bool true
    | some 'f' => skip; word ['a', 'l', 's', 'e']; return .bool false
    | some '"' => skip; return .text (← text true)
    | some '[' =>
      nested (depth + 1) endList fun _ => do
        return .list (← itemsWithin (value depth) (← charsLeft) true)
    | some '\x7b' =>
      nested (depth + 1) endObject fun _ => do
        return .ofMembers (← membersWithin (value depth) (← charsLeft) true)
    | some c => if c == '-' || c.isDigit then number else failAhead .valueExpected

inductive Bracket where
  | list
  | object
  deriving DecidableEq

def unneededKey : Read Unit := do
  match ← peekBehindGap with
  | some '"' => skip; let _ ← text false
  | some _ => failAhead .keyExpected
  | none => failAhead .endOfObject
  match ← peekBehindGap with
  | some ':' => skip
  | some _ => failAhead .colonExpected
  | none => failAhead .endOfObject

/-- Closes the brackets that end here and moves on to the next value inside the others, if there
is one. -/
def closeBrackets (isFirst : Bool) : List Bracket → Read (List Bracket)
  | [] => return []
  | bracket :: outer => do
    match ← peekBehindGap, bracket with
    | some ']', .list => skip; closeBrackets false outer
    | some '\x7d', .object => skip; closeBrackets false outer
    | some c, _ =>
      if !isFirst then
        if c == ',' then skip
        else failAhead (if bracket == .list then .listEndExpected else .objectEndExpected)
      if bracket == .object then unneededKey
      return bracket :: outer
    | none, .list => failAhead .endOfList
    | none, .object => failAhead .endOfObject

/-- Reads a value that is not needed, inside the brackets that are open. -/
def unneededWithin : Nat → List Bracket → Read Unit
  | 0, _ => failAhead .endOfValue
  | fuel + 1, open' => do
    let opened? : Option Bracket ← do
      match ← peekBehindGap with
      | none => failAhead .endOfValue
      | some 'n' => skip; word ['u', 'l', 'l']; pure none
      | some 't' => skip; word ['r', 'u', 'e']; pure none
      | some 'f' => skip; word ['a', 'l', 's', 'e']; pure none
      | some '"' => skip; let _ ← text false; pure none
      | some '[' => skip; pure (some .list)
      | some '\x7b' => skip; pure (some .object)
      | some c =>
        if c == '-' || c.isDigit then
          let _ ← written false
          pure none
        else failAhead .valueExpected
    let open' ← closeBrackets opened?.isSome (opened?.toList ++ open')
    if open'.isEmpty then return
    unneededWithin fuel open'

def unneeded : Read Unit := do unneededWithin ((← charsLeft) + 1) []

def whole {α : Type} (reader : Read α) (content : String) : Except Fault α :=
  let checked : Read α := do
    let found ← reader
    match ← peekBehindGap with
    | none => return found
    | some _ => failAhead .trailingCharacters
  match checked ⟨content.toList, ⟨1, 0⟩⟩ with
  | .ok found _ => .ok found
  | .error fault _ => .error fault

end Read

def depthLimit : Nat := 128

def Value.parse (content : String) : Except Fault Value :=
  Read.whole (Read.value depthLimit) content

end StyleInline.Json
