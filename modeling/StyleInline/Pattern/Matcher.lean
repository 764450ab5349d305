import StyleInline.Pattern.CharSet

/-!
# Matching

A matcher maps the places of a text from which it starts to the places at which it can end.
Places are given by flags: one for the place before each character, and one for the end.
-/

namespace StyleInline.Pattern

open StyleInline.Text (CharTable)

/-- A pattern reduced to what matters for matching. -/
inductive Matcher where
  | nothing
  | set (set : CharTable)
  | look (flags : Flags) (look : Look)
  | sequence (first second : Matcher)
  | choice (left right : Matcher)
  /-- Parentheses may note where a match starts and ends, but do not change what matches. -/
  | group (isCaptured : Bool) (inner : Matcher)
  | repetition (count : Count) (inner : Matcher)
  deriving DecidableEq, Inhabited

abbrev Neighbours := Option Char × Option Char

/-- The places of a text, as flags. -/
abbrev Places := List Bool

namespace Look

def isWord (flags : Flags) : Option Char → Bool
  | none => false
  | some c => (CharSet.ofShort flags .word).contains c

def startsLine (flags : Flags) : Neighbours → Bool
  | (none, _) => true
  | (some '\n', _) => true
  | (some '\r', behind) => flags.carriageReturns && behind != some '\n'
  | _ => false

def endsLine (flags : Flags) : Neighbours → Bool
  | (_, none) => true
  | (before, some '\n') => !(flags.carriageReturns && before == some '\r')
  | (_, some '\r') => flags.carriageReturns
  | _ => false

def holds (flags : Flags) (look : Look) (at_ : Neighbours) : Bool :=
  let before := isWord flags at_.1
  let behind := isWord flags at_.2
  match look with
  | .lineStart => if flags.multiLine then startsLine flags at_ else at_.1.isNone
  | .lineEnd => if flags.multiLine then endsLine flags at_ else at_.2.isNone
  | .textStart => at_.1.isNone
  | .textEnd => at_.2.isNone
  | .boundary => before != behind
  | .noBoundary => before == behind
  | .wordStart => !before && behind
  | .wordEnd => before && !behind
  | .wordStartHalf => !before
  | .wordEndHalf => !behind

end Look

namespace Matcher

def neighbours (chars : List Char) : List Neighbours :=
  (none :: chars.map some).zip (chars.map some ++ [none])

/-- Repeats a step until it changes nothing, but not more often than `fuel` tells. -/
def iterate (step : Places → Places) : Nat → Places → Places
  | 0, places => places
  | fuel + 1, places =>
    let next := step places
    if next == places then places else iterate step fuel next

def either (left right : Places) : Places := List.zipWith (· || ·) left right

/-- The places at which a match can end that starts at one of the given places. -/
def ends (chars : List Char) : Matcher → Places → Places
  | nothing, places => places
  | set accepted, places =>
    false :: List.zipWith (fun c here => here && accepted.contains c) chars places
  | look flags condition, places =>
    List.zipWith (fun at_ here => here && condition.holds flags at_) (neighbours chars) places
  | sequence first second, places => second.ends chars (first.ends chars places)
  | choice left right, places => either (left.ends chars places) (right.ends chars places)
  | group _ inner, places => inner.ends chars places
  | repetition count inner, places =>
    let least := iterate (inner.ends chars) count.least places
    let more :=
      match count.most with
      | none => chars.length + 1
      | some most => most - count.least
    iterate (fun places => either places (inner.ends chars places)) more least

def occursIn (matcher : Matcher) (text : String) : Bool :=
  let chars := text.toList
  (matcher.ends chars (List.replicate (chars.length + 1) true)).any id

def ofLiteral (flags : Flags) (span : Span) (literal : Literal) : Except Fault Matcher :=
  if !flags.unicode && literal.isByte && 128 ≤ literal.char.toNat then
    .error ⟨.notUnicode, span, none⟩
  else .ok (set (CharSet.folded flags (CharTable.single literal.char)))

def ofSet (flags : Flags) (tree : SetTree) : Except Fault Matcher := do
  let found ← CharSet.ofTree flags tree
  if !flags.unicode && CharSet.passesAscii found then .error ⟨.notUnicode, tree.span, none⟩
  else return set found

def ofDot (flags : Flags) (span : Span) : Except Fault Matcher :=
  if !flags.unicode then .error ⟨.notUnicode, span, none⟩
  else if flags.dotAll then .ok (set .everything)
  else if flags.carriageReturns then
    .ok (set (CharTable.complement (.ofRanges [(10, 10), (13, 13)])))
  else .ok (set (CharTable.complement (.single '\n')))

mutual

def ofTree : Tree → Except Fault Matcher
  | .empty _ | .flags _ => .ok nothing
  | .literal flags span literal => ofLiteral flags span literal
  | .dot flags span => ofDot flags span
  | .look flags _ condition => .ok (look flags condition)
  | .set flags inner => ofSet flags inner
  | .repetition _ count inner => do return repetition count (← ofTree inner)
  | .group _ isCaptured inner => do return group isCaptured (← ofTree inner)
  | .alternation _ branches => ofBranches branches
  | .sequence _ parts => ofParts parts

def ofBranches : List Tree → Except Fault Matcher
  | [] => .ok nothing
  | [only] => ofTree only
  | first :: rest => do
    let left ← ofTree first
    return choice left (← ofBranches rest)

def ofParts : List Tree → Except Fault Matcher
  | [] => .ok nothing
  | first :: rest => do
    let left ← ofTree first
    return sequence left (← ofParts rest)

end

end Matcher

end StyleInline.Pattern
