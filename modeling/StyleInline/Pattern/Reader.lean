import StyleInline.Pattern.Tree
import StyleInline.Text.Blank
import StyleInline.Text.Property

/-!
# Reading patterns

A reader walks over the text once, from left to right.  The first fault it meets counts;
only the depth of nesting is checked when the whole pattern has been read.
-/

namespace StyleInline.Pattern

structure Cursor where
  rest : List Char
  place : Place := ⟨1, 1⟩
  flags : Flags := {}
  names : List (String × Span) := []

abbrev Read := StateT Cursor (Except Fault)

namespace Read

def refuse {α : Type} (cause : Cause) (span : Span) : Read α := throw ⟨cause, span, none⟩

def current? : Read (Option Char) := do return (← get).rest.head?

def following? : Read (Option Char) := do return ((← get).rest.drop 1).head?

def isAtEnd : Read Bool := do return (← get).rest.isEmpty

def here : Read Place := do return (← get).place

def since (start : Place) : Read Span := do return ⟨start, ← here⟩

def spot : Read Span := do since (← here)

def charSpan : Read Span := do
  let cursor ← get
  return ⟨cursor.place, cursor.place.after (cursor.rest.headD ' ')⟩

/-- Steps over a character, and tells whether another one follows. -/
def advance : Read Bool := do
  let cursor ← get
  match cursor.rest with
  | [] => return false
  | c :: rest =>
    set { cursor with rest, place := cursor.place.after c }
    return !rest.isEmpty

def accept (word : String) : Read Bool := do
  if word.toList.isPrefixOf (← get).rest then
    for _ in word.toList do let _ ← advance
    return true
  else return false

/-- White space and comments at the start of a text; `inComment` tells that a comment has begun. -/
def skipBlank (inComment : Bool) : List Char → Place → List Char × Place
  | [], place => ([], place)
  | c :: rest, place =>
    if inComment then skipBlank (c != '\n') rest (place.after c)
    else if Text.isBlank c then skipBlank false rest (place.after c)
    else if c == '#' then skipBlank true rest (place.after c)
    else (c :: rest, place)

/-- Steps over white space and comments where they do not count. -/
def settle : Read Unit := do
  let cursor ← get
  if cursor.flags.verbose then
    let (rest, place) := skipBlank false cursor.rest cursor.place
    set { cursor with rest, place }

def proceed : Read Bool := do
  if ← advance then
    settle
    return !(← isAtEnd)
  else return false

/-- The character behind the next one and what does not count. -/
def followingCounted? : Read (Option Char) := do
  let cursor ← get
  match cursor.rest with
  | [] => return none
  | c :: rest =>
    if cursor.flags.verbose then return (skipBlank false rest (cursor.place.after c)).1.head?
    else return rest.head?

/-- Steps over the characters that pass a test; `proceeding` tells to skip what does not count. -/
def takeWhile (test : Char → Bool) (proceeding : Bool) : Nat → List Char → Read (List Char)
  | 0, taken => return taken.reverse
  | fuel + 1, taken => do
    match ← current? with
    | none => return taken.reverse
    | some c =>
      if test c then
        let _ ← if proceeding then proceed else advance
        takeWhile test proceeding fuel (c :: taken)
      else return taken.reverse

def left : Read Nat := do return (← get).rest.length

def run (test : Char → Bool) (proceeding : Bool) : Read (List Char) := do
  takeWhile test proceeding (← left) []

end Read

open Read

def hexValue? (c : Char) : Option Nat :=
  if '0' ≤ c ∧ c ≤ '9' then some (c.toNat - '0'.toNat)
  else if 'a' ≤ c ∧ c ≤ 'f' then some (c.toNat - 'a'.toNat + 10)
  else if 'A' ≤ c ∧ c ≤ 'F' then some (c.toNat - 'A'.toNat + 10)
  else none

def charOfHex? (digits : List Char) : Option Char :=
  let code := (digits.filterMap hexValue?).foldl (fun value digit => 16 * value + digit) 0
  if code.isValidChar then some (Char.ofNat code) else none

/-- Something that stands for itself in a set and outside of one, as far as it is known by then. -/
inductive Primitive where
  | literal (span : Span) (literal : Literal)
  | set (inner : SetTree)
  | look (span : Span) (look : Look)
  deriving Repr, Inhabited

namespace Primitive

def span : Primitive → Span
  | literal span _ | look span _ => span
  | set inner => inner.span

def toTree (flags : Flags) : Primitive → Tree
  | literal span value => .literal flags span value
  | set inner => .set flags inner
  | look span condition => .look flags span condition

def toSet : Primitive → Read SetTree
  | literal span value => return .literal span value
  | set inner => return inner
  | look span _ => refuse .classEscape span

def toBound : Primitive → Read Literal
  | literal _ value => return value
  | other => refuse .classRangeBound other.span

end Primitive

namespace Escape

def isMeta (c : Char) : Bool :=
  ['\\', '.', '+', '*', '?', '(', ')', '|', '[', ']', '{', '}', '^', '$', '#', '&', '-',
    '~'].contains c

/-- The characters that a backslash makes stand for themselves. -/
def isPlain (c : Char) : Bool :=
  isMeta c || (c.toNat < 128 && !c.isAlphanum && c != '<' && c != '>')

def control? : Char → Option Char
  | 'a' => some '\x07'
  | 'f' => some '\x0c'
  | 't' => some '\t'
  | 'n' => some '\n'
  | 'r' => some '\r'
  | 'v' => some '\x0b'
  | _ => none

def look? : Char → Option Look
  | 'A' => some .textStart
  | 'z' => some .textEnd
  | 'b' => some .boundary
  | 'B' => some .noBoundary
  | '<' => some .wordStart
  | '>' => some .wordEnd
  | _ => none

def short? (span : Span) : Char → Option SetTree
  | 'd' => some (.short span .digit false)
  | 'D' => some (.short span .digit true)
  | 's' => some (.short span .space false)
  | 'S' => some (.short span .space true)
  | 'w' => some (.short span .word false)
  | 'W' => some (.short span .word true)
  | _ => none

/-- The number of digits of a character written by its code without braces. -/
def digitsOf : Char → Nat
  | 'x' => 2
  | 'u' => 4
  | _ => 8

def hexDigits : Nat → Bool → List Char → Read (List Char)
  | 0, _, taken => return taken.reverse
  | count + 1, isFirst, taken => do
    if !isFirst then
      if !(← proceed) then refuse .escapeUnfinished (← spot)
    match ← current? with
    | none => refuse .escapeUnfinished (← spot)
    | some c =>
      if (hexValue? c).isNone then refuse .codeDigit (← charSpan)
      hexDigits count false (c :: taken)

def hexUntilBrace : Nat → List Char → Read (List Char)
  | 0, taken => return taken.reverse
  | fuel + 1, taken => do
    if !(← proceed) then return taken.reverse
    match ← current? with
    | none => return taken.reverse
    | some '}' => return taken.reverse
    | some c =>
      if (hexValue? c).isNone then refuse .codeDigit (← charSpan)
      hexUntilBrace fuel (c :: taken)

/-- A character written by its code; the letter in front of the code is the next character. -/
def code (start : Place) (letter : Char) : Read Primitive := do
  if !(← proceed) then refuse .escapeUnfinished (← spot)
  if (← current?) == some '{' then
    let brace ← here
    let first := (← charSpan).stop
    let digits ← hexUntilBrace (← left) []
    if ← isAtEnd then refuse .escapeUnfinished (← since brace)
    let last ← here
    let _ ← proceed
    if digits.isEmpty then refuse .codeEmpty (← since brace)
    match charOfHex? digits with
    | none => refuse .codeInvalid ⟨first, last⟩
    | some c => return .literal (← since start) ⟨c, false⟩
  else
    let first ← here
    let digits ← hexDigits (digitsOf letter) true []
    let _ ← proceed
    match charOfHex? digits with
    | none => refuse .codeInvalid (← since first)
    | some c => return .literal (← since start) ⟨c, letter == 'x'⟩

def splitAt? (separator : List Char) : List Char → Option (List Char × List Char)
  | [] => none
  | c :: rest =>
    if separator.isPrefixOf (c :: rest) then some ([], (c :: rest).drop separator.length)
    else (splitAt? separator rest).map fun (before, behind) => (c :: before, behind)

/-- The signs between the name of a property and its value, in the order in which they are looked
for; the first of them asks for the other values. -/
def valueSigns : List (List Char) := [['!', '='], [':'], ['=']]

/-- What the name of a property between braces says, and whether it asks for the other values. -/
def propertyOf (name : List Char) : PropertyName × Bool :=
  match valueSigns.findSome? fun sign => (splitAt? sign name).map (sign, ·) with
  | some (sign, property, value) =>
    (.valued (String.ofList property) (String.ofList value), sign == ['!', '='])
  | none => (.plain (String.ofList name), false)

def untilBrace : Nat → List Char → Read (List Char)
  | 0, taken => return taken.reverse
  | fuel + 1, taken => do
    if !(← proceed) then return taken.reverse
    match ← current? with
    | none => return taken.reverse
    | some '}' => return taken.reverse
    | some c => untilBrace fuel (c :: taken)

def property (start : Place) (isNegated : Bool) : Read Primitive := do
  if !(← proceed) then refuse .escapeUnfinished (← spot)
  match ← current? with
  | some '{' =>
    let name ← untilBrace (← left) []
    if ← isAtEnd then refuse .escapeUnfinished (← spot)
    let _ ← advance
    let (property, isInverse) := propertyOf name
    return .set (.property (← since start) property (isNegated != isInverse))
  | some '\\' => refuse .propertyInvalid (← charSpan)
  | other =>
    let _ ← proceed
    return .set (.property (← since start) (.plain (String.ofList other.toList)) isNegated)

def boundaryNamed? (name : List Char) : Option Look :=
  if name = "start".toList then some .wordStart
  else if name = "end".toList then some .wordEnd
  else if name = "start-half".toList then some .wordStartHalf
  else if name = "end-half".toList then some .wordEndHalf
  else none

/-- The name in braces behind a word boundary, unless the braces hold a count. -/
def boundaryName (start : Place) : Read (Option Look) := do
  let before ← get
  let brace ← here
  if !(← proceed) then refuse .boundaryUnfinished (← since start)
  let first ← here
  let isNameChar (c : Char) : Bool := c.isAlpha || c == '-'
  match ← current? with
  | none => refuse .boundaryUnfinished (← since start)
  | some c =>
    if !isNameChar c then
      set before
      return none
    let name ← run isNameChar true
    if (← current?) != some '}' then refuse .boundaryUnclosed (← since brace)
    let last ← here
    let _ ← advance
    match boundaryNamed? name with
    | none => refuse .boundaryUnknown ⟨first, last⟩
    | some found => return some found

end Escape

def escape : Read Primitive := do
  let start ← here
  if !(← advance) then refuse .escapeUnfinished (← since start)
  match ← current? with
  | none => refuse .escapeUnfinished (← since start)
  | some c =>
    if c.isDigit then refuse .backreference ⟨start, (← charSpan).stop⟩
    if c == 'x' || c == 'u' || c == 'U' then Escape.code start c
    else if c == 'p' || c == 'P' then Escape.property start (c == 'P')
    else
      let _ ← advance
      let span ← since start
      if Escape.isPlain c then return .literal span ⟨c, false⟩
      if let some inner := Escape.short? span c then return .set inner
      if let some control := Escape.control? c then return .literal span ⟨control, false⟩
      match Escape.look? c with
      | none => refuse .escapeUnknown span
      | some condition =>
        if c == 'b' && (← current?) == some '{' then
          match ← Escape.boundaryName start with
          | none => return .look span condition
          | some named => return .look (← since start) named
        else return .look span condition

namespace SetReader

def primitive : Read Primitive := do
  match ← current? with
  | some '\\' => escape
  | other =>
    let span ← charSpan
    let _ ← advance
    return .literal span ⟨other.getD ' ', false⟩

/-- One item or one range; `opening` is the stretch that opened the set. -/
def itemOrRange (opening : Span) : Read SetTree := do
  let first ← primitive
  settle
  if ← isAtEnd then refuse .classUnclosed opening
  let behind ← followingCounted?
  if (← current?) != some '-' || behind == some ']' || behind == some '-' then first.toSet
  else
    if !(← proceed) then refuse .classUnclosed opening
    let last ← primitive
    let span : Span := ⟨first.span.start, last.span.stop⟩
    let least ← first.toBound
    let greatest ← last.toBound
    if greatest.char < least.char then refuse .classRangeOrder span
    return .range span least greatest

/-- A class with a name between colons, if one stands here. -/
def named? : Read (Option SetTree) := do
  let before ← get
  let start ← here
  let isNamed ← accept "[:"
  if !isNamed || (← isAtEnd) then
    set before
    return none
  let isNegated ← accept "^"
  let name ← run (· != ':') false
  if !(← accept ":]") then
    set before
    return none
  match NamedClass.all.lookup (String.ofList name) with
  | none =>
    set before
    return none
  | some kind => return some (.named (← since start) kind isNegated)

def unite (span : Span) : List SetTree → SetTree
  | [] => .empty span
  | [only] => only
  | first :: rest =>
    let last := (first :: rest).getLast?.getD first
    .union ⟨first.span.start, last.span.stop⟩ (first :: rest)

/-- A set behind an operator that waits for it. -/
def complete (waiting : Option (SetOperator × SetTree)) (right : SetTree) : SetTree :=
  match waiting with
  | none => right
  | some (operator, left) => .combined ⟨left.span.start, right.span.stop⟩ operator left right

/-- Hyphens at the start of a set, which stand for themselves. -/
def hyphens (start : Place) : Nat → List SetTree → Read (List SetTree)
  | 0, found => return found
  | fuel + 1, found => do
    if (← current?) == some '-' then
      let span ← charSpan
      if !(← proceed) then refuse .classUnclosed ⟨start, start⟩
      hyphens start fuel (found ++ [.literal span ⟨'-', false⟩])
    else return found

/-- The start of a set: its stretch, whether it is negated, and the items that belong to it by
their place. -/
def opening : Read (Span × Bool × List SetTree) := do
  let start ← here
  if !(← proceed) then refuse .classUnclosed (← since start)
  let mut isNegated := false
  if (← current?) == some '^' then
    if !(← proceed) then refuse .classUnclosed (← since start)
    isNegated := true
  let mut items ← hyphens start (← left) []
  if items.isEmpty && (← current?) == some ']' then
    let span ← charSpan
    if !(← proceed) then refuse .classUnclosed (← since start)
    items := [.literal span ⟨']', false⟩]
  return (← since start, isNegated, items)

mutual

def bracketed : Nat → Read SetTree
  | 0 => return .empty (← spot)
  | fuel + 1 => do
    let (span, isNegated, found) ← opening
    let inner ← items span none found fuel
    return .bracketed (← since span.start) isNegated inner

/-- The items of a set up to the closing bracket; `found` are those met since the last operator. -/
def items (opening : Span) (waiting : Option (SetOperator × SetTree)) (found : List SetTree) :
    Nat → Read SetTree
  | 0 => return .empty (← spot)
  | fuel + 1 => do
    settle
    if ← isAtEnd then refuse .classUnclosed opening
    let next ← current?
    let behind ← following?
    let operate (operator : SetOperator) (word : String) : Read SetTree := do
      let left := complete waiting (unite (← spot) found)
      let _ ← accept word
      items opening (some (operator, left)) [] fuel
    if next == some '[' then
      match ← named? with
      | some inner => items opening waiting (found ++ [inner]) fuel
      | none =>
        let inner ← bracketed fuel
        items opening waiting (found ++ [inner]) fuel
    else if next == some ']' then
      let inner := complete waiting (unite (← spot) found)
      let _ ← advance
      return inner
    else if next == some '&' && behind == some '&' then operate .intersection "&&"
    else if next == some '-' && behind == some '-' then operate .difference "--"
    else if next == some '~' && behind == some '~' then operate .symmetricDifference "~~"
    else
      let item ← itemOrRange opening
      items opening waiting (found ++ [item]) fuel

end

end SetReader

namespace FlagReader

def isFlag (c : Char) : Bool := ['i', 'm', 's', 'U', 'u', 'R', 'x'].contains c

/-- The marks up to a colon or a parenthesis, each with its stretch. -/
def marks : Nat → List (Char × Span) → Read (List (Char × Span))
  | 0, found => return found
  | fuel + 1, found => do
    match ← current? with
    | none => refuse .flagMissing (← spot)
    | some c =>
      if c == ':' || c == ')' then
        match found.getLast? with
        | some ('-', span) => refuse .flagDangling span
        | _ => return found
      else
        let span ← charSpan
        if c != '-' && !isFlag c then refuse .flagUnknown span
        match found.lookup c with
        | some earlier =>
          throw ⟨if c == '-' then .flagNegatedTwice else .flagTwice, span, some earlier⟩
        | none =>
          if !(← advance) then refuse .flagMissing (← spot)
          marks fuel (found ++ [(c, span)])

def setFlag (flags : Flags) (value : Bool) : Char → Flags
  | 'i' => { flags with ignoreCase := value }
  | 'm' => { flags with multiLine := value }
  | 's' => { flags with dotAll := value }
  | 'u' => { flags with unicode := value }
  | 'R' => { flags with carriageReturns := value }
  | 'x' => { flags with verbose := value }
  | _ => flags

def apply : Bool → List Char → Flags → Flags
  | _, [], flags => flags
  | value, c :: rest, flags =>
    if c == '-' then apply false rest flags else apply value rest (setFlag flags value c)

end FlagReader

inductive GroupStart where
  /-- A change of flags, which is no group. -/
  | flags (flags : Flags) (span : Span)
  | group (flags : Flags) (isCaptured : Bool)

def groupName : Read Unit := do
  if ← isAtEnd then refuse .nameUnclosed (← spot)
  let start ← here
  let isFirstChar (c : Char) : Bool := c == '_' || Text.CharTable.alphabetic.contains c
  let isNameChar (c : Char) : Bool :=
    isFirstChar c || Text.CharTable.numeral.contains c || c == '.' || c == '[' || c == ']'
  let first ← current?
  let name ← run isNameChar false
  if let some c := first then
    if !name.isEmpty && !isFirstChar c then refuse .nameInvalid ⟨start, start.after c⟩
  match ← current? with
  | none => refuse .nameUnclosed (← spot)
  | some '>' =>
    let span ← since start
    let _ ← advance
    if name.isEmpty then refuse .nameEmpty ⟨start, start⟩
    let name := String.ofList name
    match (← get).names.lookup name with
    | some earlier => throw ⟨.nameTwice, span, some earlier⟩
    | none => modify fun cursor => { cursor with names := cursor.names ++ [(name, span)] }
  | some _ => refuse .nameInvalid (← charSpan)

def groupStart (opening : Span) : Read GroupStart := do
  let _ ← advance
  settle
  let looks := ["?=", "?!", "?<=", "?<!"]
  for look in looks do
    if ← accept look then refuse .lookAround (← since opening.start)
  let mark ← spot
  let flags := (← get).flags
  if (← accept "?P<") || (← accept "?<") then
    groupName
    return .group flags true
  else if ← accept "?" then
    if ← isAtEnd then refuse .groupUnclosed opening
    let marks ← FlagReader.marks (← left) []
    let closing ← current?
    let _ ← advance
    let changed := FlagReader.apply true (marks.map Prod.fst) flags
    if closing == some ')' then
      if marks.isEmpty then refuse .nothingToRepeat mark
      return .flags changed (← since opening.start)
    else return .group changed false
  else return .group flags true

/-- A decimal number of at most 32 bits, or the fault that stands in its place. -/
def decimal : Read (Except Fault Nat) := do
  let _ ← run Text.isBlank false
  let start ← here
  let digits ← run Char.isDigit true
  let span ← since start
  let _ ← run Text.isBlank true
  let value := digits.foldl (fun value c => 10 * value + (c.toNat - '0'.toNat)) 0
  if digits.isEmpty then return .error ⟨.countEmpty, span, none⟩
  else if Nat.pow 2 32 ≤ value then return .error ⟨.numberInvalid, span, none⟩
  else return .ok value

/-- A mark behind an operator that asks for the shortest match. -/
def lazyMark : Read Unit := do
  if (← current?) == some '?' then let _ ← advance

def count : Read Count := do
  let start ← here
  if !(← proceed) then refuse .countUnclosed (← since start)
  let first ← decimal
  if ← isAtEnd then refuse .countUnclosed (← since start)
  let found : Count ←
    if (← current?) == some ',' then
      if !(← proceed) then refuse .countUnclosed (← since start)
      if (← current?) == some '}' then pure ⟨← liftExcept first, none⟩
      else
        let least ← liftExcept first
        pure ⟨least, some (← liftExcept (← decimal))⟩
    else
      let least ← liftExcept first
      pure ⟨least, some least⟩
  if (← current?) != some '}' then refuse .countUnclosed (← since start)
  if ← proceed then lazyMark
  if let some most := found.most then
    if most < found.least then refuse .countOrder (← since start)
  return found

def joinParts (span : Span) : List Tree → Tree
  | [] => .empty span
  | [only] => only
  | parts => .sequence span parts

/-- The last part and those before it, if there is one that can be repeated. -/
def lastPart (parts : List Tree) : Read (List Tree × Tree) := do
  match parts.getLast? with
  | none => refuse .nothingToRepeat (← spot)
  | some part =>
    if part.isUnrepeatable then refuse .nothingToRepeat (← spot)
    return (parts.dropLast, part)

/-- Repeats the last part, from an operator whose mark is the next character. -/
def repeatLast (parts : List Tree) (count : Count) : Read (List Tree) := do
  let (before, part) ← lastPart parts
  if ← advance then lazyMark
  return before ++ [.repetition (← since part.span.start) count part]

def leaf : Read Tree := do
  let flags := (← get).flags
  let span ← charSpan
  match ← current? with
  | some '\\' => return (← escape).toTree flags
  | some '.' =>
    let _ ← advance
    return .dot flags span
  | some '^' =>
    let _ ← advance
    return .look flags span .lineStart
  | some '$' =>
    let _ ← advance
    return .look flags span .lineEnd
  | other =>
    let _ ← advance
    return .literal flags span ⟨other.getD ' ', false⟩

mutual

/-- Branches up to a closing parenthesis or the end; `done` are the branches met so far. -/
def branches (start : Place) (done : List Tree) : Nat → Read Tree
  | 0 => return .empty (← spot)
  | fuel + 1 => do
    let branchStart ← here
    let branch ← sequence branchStart [] fuel
    if (← current?) == some '|' then
      let _ ← advance
      branches start (done ++ [branch]) fuel
    else if done.isEmpty then return branch
    else return .alternation (← since start) (done ++ [branch])

/-- The parts of one branch; `done` are the parts met so far. -/
def sequence (start : Place) (done : List Tree) : Nat → Read Tree
  | 0 => return .empty (← spot)
  | fuel + 1 => do
    settle
    match ← current? with
    | none => return joinParts (← since start) done
    | some '|' => return joinParts (← since start) done
    | some ')' => return joinParts (← since start) done
    | some '(' =>
      let part ← group fuel
      sequence start (done ++ [part]) fuel
    | some '[' =>
      let flags := (← get).flags
      let part ← SetReader.bracketed (2 * (← left) + 2)
      sequence start (done ++ [.set flags part]) fuel
    | some '?' => sequence start (← repeatLast done ⟨0, some 1⟩) fuel
    | some '*' => sequence start (← repeatLast done ⟨0, none⟩) fuel
    | some '+' => sequence start (← repeatLast done ⟨1, none⟩) fuel
    | some '{' =>
      let (before, part) ← lastPart done
      let found ← count
      sequence start (before ++ [.repetition (← since part.span.start) found part]) fuel
    | some _ =>
      let part ← leaf
      sequence start (done ++ [part]) fuel

/-- A group, or a change of flags in parentheses. -/
def group : Nat → Read Tree
  | 0 => return .empty (← spot)
  | fuel + 1 => do
    let outer := (← get).flags
    let opening ← charSpan
    match ← groupStart opening with
    | .flags flags span =>
      modify fun cursor => { cursor with flags }
      return .flags span
    | .group flags isCaptured =>
      modify fun cursor => { cursor with flags }
      let inner ← branches (← here) [] fuel
      if ← isAtEnd then refuse .groupUnclosed opening
      modify fun cursor => { cursor with flags := outer }
      let _ ← advance
      return .group (← since opening.start) isCaptured inner

end

def depthLimit : Nat := 250

def whole : Read Tree := do
  let tree ← branches (← here) [] (3 * (← left) + 3)
  if !(← isAtEnd) then refuse .groupUnopened (← charSpan)
  match tree.overflow depthLimit with
  | some span => refuse (.tooDeep depthLimit) span
  | none => return tree

def Tree.ofText (text : String) : Except Fault Tree :=
  (whole.run' { rest := text.toList })

end StyleInline.Pattern
