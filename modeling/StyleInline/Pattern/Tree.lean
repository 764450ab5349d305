import StyleInline.Pattern.Fault

/-!
# Patterns as they are written

The tree of a pattern.  What the flags in force make of a leaf is noted at the leaf; what a
leaf means is decided elsewhere.
-/

namespace StyleInline.Pattern

structure Flags where
  ignoreCase : Bool := false
  multiLine : Bool := false
  dotAll : Bool := false
  /-- A carriage return belongs to a line break. -/
  carriageReturns : Bool := false
  /-- Classes know all of Unicode. -/
  unicode : Bool := true
  /-- White space and comments in the pattern do not count. -/
  verbose : Bool := false
  deriving DecidableEq, Repr, Inhabited

inductive ShortClass where
  | digit
  | space
  | word
  deriving DecidableEq, Repr, Inhabited

inductive NamedClass where
  | alnum
  | alpha
  | ascii
  | blank
  | cntrl
  | digit
  | graph
  | lower
  | print
  | punct
  | space
  | upper
  | word
  | xdigit
  deriving DecidableEq, Repr, Inhabited

namespace NamedClass

def all : List (String × NamedClass) :=
  [("alnum", .alnum), ("alpha", .alpha), ("ascii", .ascii), ("blank", .blank), ("cntrl", .cntrl),
    ("digit", .digit), ("graph", .graph), ("lower", .lower), ("print", .print),
    ("punct", .punct), ("space", .space), ("upper", .upper), ("word", .word),
    ("xdigit", .xdigit)]

end NamedClass

inductive PropertyName where
  | plain (name : String)
  | valued (name value : String)
  deriving DecidableEq, Repr, Inhabited

/-- A character that stands for itself; `isByte` tells that it was written as two digits. -/
structure Literal where
  char : Char
  isByte : Bool
  deriving DecidableEq, Repr, Inhabited

inductive SetOperator where
  | intersection
  | difference
  | symmetricDifference
  deriving DecidableEq, Repr, Inhabited

inductive SetTree where
  | empty (span : Span)
  | literal (span : Span) (literal : Literal)
  | range (span : Span) (first last : Literal)
  | short (span : Span) (kind : ShortClass) (isNegated : Bool)
  | named (span : Span) (kind : NamedClass) (isNegated : Bool)
  | property (span : Span) (name : PropertyName) (isNegated : Bool)
  | bracketed (span : Span) (isNegated : Bool) (inner : SetTree)
  | union (span : Span) (items : List SetTree)
  | combined (span : Span) (operator : SetOperator) (left right : SetTree)
  deriving Repr, Inhabited

inductive Look where
  | lineStart
  | lineEnd
  | textStart
  | textEnd
  | boundary
  | noBoundary
  | wordStart
  | wordEnd
  | wordStartHalf
  | wordEndHalf
  deriving DecidableEq, Repr, Inhabited

/-- How often something is repeated: at least, and at most if there is a bound. -/
structure Count where
  least : Nat
  most : Option Nat
  deriving DecidableEq, Repr, Inhabited

inductive Tree where
  | empty (span : Span)
  | flags (span : Span)
  | literal (flags : Flags) (span : Span) (literal : Literal)
  | dot (flags : Flags) (span : Span)
  | look (flags : Flags) (span : Span) (look : Look)
  | set (flags : Flags) (set : SetTree)
  | repetition (span : Span) (count : Count) (inner : Tree)
  | group (span : Span) (isCaptured : Bool) (inner : Tree)
  | alternation (span : Span) (branches : List Tree)
  | sequence (span : Span) (parts : List Tree)
  deriving Repr, Inhabited

def SetTree.span : SetTree → Span
  | empty span | literal span _ | range span _ _ | short span _ _ | named span _ _
  | property span _ _ | bracketed span _ _ | union span _ | combined span _ _ _ => span

namespace Tree

def span : Tree → Span
  | empty span | flags span | literal _ span _ | dot _ span | look _ span _ | repetition span _ _
  | group span _ _ | alternation span _ | sequence span _ => span
  | set _ inner => inner.span

def isUnrepeatable : Tree → Bool
  | empty _ | flags _ => true
  | _ => false

end Tree

mutual

/-- The first place at which sets stand inside each other more than `room` deep. -/
def SetTree.overflow (room : Nat) : SetTree → Option Span
  | .bracketed span _ inner => if room = 0 then some span else inner.overflow (room - 1)
  | .union span items => if room = 0 then some span else SetTree.overflowAny (room - 1) items
  | .combined span _ left right =>
    if room = 0 then some span
    else (left.overflow (room - 1)).orElse fun _ => right.overflow (room - 1)
  | _ => none

def SetTree.overflowAny (room : Nat) : List SetTree → Option Span
  | [] => none
  | first :: rest => (first.overflow room).orElse fun _ => SetTree.overflowAny room rest

end

mutual

/-- The first place at which constructs stand inside each other more than `room` deep. -/
def Tree.overflow (room : Nat) : Tree → Option Span
  | .set _ inner => inner.overflow room
  | .repetition span _ inner | .group span _ inner =>
    if room = 0 then some span else inner.overflow (room - 1)
  | .alternation span branches | .sequence span branches =>
    if room = 0 then some span else Tree.overflowAny (room - 1) branches
  | _ => none

def Tree.overflowAny (room : Nat) : List Tree → Option Span
  | [] => none
  | first :: rest => (first.overflow room).orElse fun _ => Tree.overflowAny room rest

end

end StyleInline.Pattern
