import StyleInline.Pattern.Property
import StyleInline.Text.Case

/-!
# Sets of characters

What the sets in a pattern contain.
-/

namespace StyleInline.Pattern

open StyleInline.Text (CharTable)

namespace CharSet

/-- A set that reaches beyond ASCII within the codes of one byte. -/
def passesAscii (set : CharTable) : Bool :=
  (List.range 128).any fun code => set.containsCode (128 + code)

def plainDigit : CharTable := .ofRanges [(48, 57)]

def plainSpace : CharTable := .ofRanges [(9, 13), (32, 32)]

def plainWord : CharTable := .ofRanges [(48, 57), (65, 90), (95, 95), (97, 122)]

def ofShort (flags : Flags) : ShortClass → CharTable
  | .digit => if flags.unicode then .decimalDigit else plainDigit
  | .space => if flags.unicode then .whiteSpace else plainSpace
  | .word => if flags.unicode then .wordChar else plainWord

def ofNamed : NamedClass → CharTable
  | .alnum => .ofRanges [(48, 57), (65, 90), (97, 122)]
  | .alpha => .ofRanges [(65, 90), (97, 122)]
  | .ascii => .ascii
  | .blank => .ofRanges [(9, 9), (32, 32)]
  | .cntrl => .ofRanges [(0, 31), (127, 127)]
  | .digit => plainDigit
  | .graph => .ofRanges [(33, 126)]
  | .lower => .ofRanges [(97, 122)]
  | .print => .ofRanges [(32, 126)]
  | .punct => .ofRanges [(33, 47), (58, 64), (91, 96), (123, 126)]
  | .space => plainSpace
  | .upper => .ofRanges [(65, 90)]
  | .word => plainWord
  | .xdigit => .ofRanges [(48, 57), (65, 70), (97, 102)]

/-- A set with the letters in the other case, where case does not count. -/
def folded (flags : Flags) (set : CharTable) : CharTable :=
  if !flags.ignoreCase then set
  else if flags.unicode then set.anyCase
  else set.anyPlainCase

def negatedIf (isNegated : Bool) (set : CharTable) : CharTable :=
  if isNegated then set.complement else set

def codeOf (flags : Flags) (span : Span) (literal : Literal) : Except Fault Nat :=
  if flags.unicode || literal.char.toNat < 128 then .ok literal.char.toNat
  else .error ⟨if literal.isByte then .notUnicode else .unicodeOff, span, none⟩

mutual

def ofTree (flags : Flags) : SetTree → Except Fault CharTable
  | .empty _ => .ok .nothing
  | .literal span literal => do
    let code ← codeOf flags span literal
    return .ofRanges [(code, code)]
  | .range span first last => do
    let first ← codeOf flags span first
    let last ← codeOf flags span last
    return .ofRanges [(first, last)]
  | .short _ kind isNegated => .ok (negatedIf isNegated (ofShort flags kind))
  | .named _ kind isNegated => .ok (negatedIf isNegated (folded flags (ofNamed kind)))
  | .property span name isNegated =>
    if !flags.unicode then .error ⟨.unicodeOff, span, none⟩
    else
      match name.table with
      | .error cause => .error ⟨cause, span, none⟩
      | .ok set => .ok (negatedIf isNegated (folded flags set))
  | .bracketed _ isNegated inner => do
    return negatedIf isNegated (folded flags (← ofTree flags inner))
  | .union _ items => ofTrees flags items
  | .combined _ operator left right => do
    let left := folded flags (← ofTree flags left)
    let right := folded flags (← ofTree flags right)
    return match operator with
    | .intersection => left.intersection right
    | .difference => left.difference right
    | .symmetricDifference => left.symmetricDifference right

def ofTrees (flags : Flags) : List SetTree → Except Fault CharTable
  | [] => .ok .nothing
  | first :: rest => do
    let set ← ofTree flags first
    return set.union (← ofTrees flags rest)

end

end CharSet

end StyleInline.Pattern
