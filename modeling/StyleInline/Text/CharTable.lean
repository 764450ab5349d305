/-!
# Sets of characters

A set of characters is given by the codes at which membership changes.  Two sets are combined in
one walk through the bounds of both.
-/

namespace StyleInline.Text

/--
A set of characters as the ascending list of the codes at which membership changes; what lies
before the first of them is outside.
-/
structure CharTable where
  bounds : Array Nat
  deriving DecidableEq, Inhabited

namespace CharTable

/-- Counts the bounds from `low` up to `high` that are at most `code`, by bisection. -/
def boundsUpTo (bounds : Array Nat) (code : Nat) : Nat → Nat → Nat → Nat
  | 0, low, _ => low
  | fuel + 1, low, high =>
    if high ≤ low then low
    else
      let middle := (low + high) / 2
      if bounds.getD middle 0 ≤ code then boundsUpTo bounds code fuel (middle + 1) high
      else boundsUpTo bounds code fuel low middle

/-- A code is inside when membership has changed an odd number of times up to it. -/
def containsCode (table : CharTable) (code : Nat) : Bool :=
  boundsUpTo table.bounds code table.bounds.size 0 table.bounds.size % 2 == 1

def contains (table : CharTable) (c : Char) : Bool := table.containsCode c.toNat

/-- The code behind the last character. -/
def codeEnd : Nat := 0x110000

def nothing : CharTable := ⟨#[]⟩

def everything : CharTable := ⟨#[0]⟩

def ascii : CharTable := ⟨#[0, 128]⟩

def nextBound? : Option Nat → Option Nat → Option Nat
  | some left, some right => some (min left right)
  | some left, none => some left
  | none, right? => right?

/-- Walks through the bounds of two sets behind the first `i` and `j` of them.  The number of
bounds passed tells whether a set is inside, and so does the number of bounds found. -/
def combineWithin (keep : Bool → Bool → Bool) (left right : Array Nat) :
    Nat → Nat → Nat → Array Nat → Array Nat
  | 0, _, _, found => found
  | fuel + 1, i, j, found =>
    match nextBound? left[i]? right[j]? with
    | none => found
    | some code =>
      let i := if left[i]? == some code then i + 1 else i
      let j := if right[j]? == some code then j + 1 else j
      let isInside := keep (i % 2 == 1) (j % 2 == 1)
      let found := if isInside == (found.size % 2 == 1) then found else found.push code
      combineWithin keep left right fuel i j found

/-- The codes for which `keep` holds of the membership in two sets. -/
def combine (keep : Bool → Bool → Bool) (left right : CharTable) : CharTable :=
  let startsEarly := left.bounds[0]? == some 0 || right.bounds[0]? == some 0
  let start := if !startsEarly && keep false false then #[0] else #[]
  ⟨combineWithin keep left.bounds right.bounds (left.bounds.size + right.bounds.size) 0 0 start⟩

def union (left right : CharTable) : CharTable := combine (· || ·) left right

def intersection (left right : CharTable) : CharTable := combine (· && ·) left right

def difference (left right : CharTable) : CharTable := combine (fun l r => l && !r) left right

def symmetricDifference (left right : CharTable) : CharTable := combine (· != ·) left right

def complement (table : CharTable) : CharTable := combine (fun l _ => !l) table nothing

def unions (tables : List CharTable) : CharTable := tables.foldl union nothing

/-- The codes of some ranges, both ends included. -/
def ofRanges (ranges : List (Nat × Nat)) : CharTable :=
  unions (ranges.map fun (first, last) => ⟨#[first, last + 1]⟩)

def single (c : Char) : CharTable := ofRanges [(c.toNat, c.toNat)]

def pushCode (bounds : Array Nat) (code : Nat) : Array Nat :=
  match bounds.back? with
  | some bound =>
    if bound == code + 1 then bounds
    else if bound == code then bounds.pop.push (code + 1)
    else (bounds.push code).push (code + 1)
  | none => #[code, code + 1]

def ofCodes (codes : List Nat) : CharTable := ⟨codes.mergeSort.foldl pushCode #[]⟩

/-- The ranges between bounds; the last range has no end if the number of bounds is odd. -/
def between : List Nat → List (Nat × Nat)
  | [] => []
  | [first] => [(first, codeEnd - 1)]
  | first :: next :: rest => (first, next - 1) :: between rest

def ranges (table : CharTable) : List (Nat × Nat) :=
  (between table.bounds.toList).filter fun (first, last) => first ≤ last

def only? (table : CharTable) : Option Char :=
  match table.ranges with
  | [(first, last)] => if first == last then some (Char.ofNat first) else none
  | _ => none

end CharTable

end StyleInline.Text
