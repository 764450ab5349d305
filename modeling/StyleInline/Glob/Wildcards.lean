/-!
# Patterns of paths with wildcards

`?` stands for one character, `*` for any characters of a name, `[…]` for one character of a
set, and `[!…]` for one outside of it; `**` is a whole component and stands for any number of
directories.  A pattern is checked as a whole before it is used.
-/

namespace StyleInline.Glob.Wildcards

/-- The characters of a set: single ones, and ranges with both ends. -/
inductive SetItem where
  | single (c : Char)
  | range (first last : Char)
  deriving DecidableEq, Repr, Inhabited

inductive Part where
  | char (c : Char)
  | anyChar
  | anyChars
  | anyDirectories
  | set (isNegated : Bool) (items : List SetItem)
  deriving DecidableEq, Repr, Inhabited

inductive Problem where
  | wildcards
  | recursive
  | range
  deriving DecidableEq, Repr, Inhabited

/-- A problem and the place where it was noticed, in characters from zero. -/
structure Fault where
  position : Nat
  problem : Problem
  deriving DecidableEq, Repr, Inhabited

namespace Fault

def message (fault : Fault) : String :=
  let problem :=
    match fault.problem with
    | .wildcards => "wildcards are either regular `*` or recursive `**`"
    | .recursive => "recursive wildcards must form a single path component"
    | .range => "invalid range pattern"
  "Pattern syntax error near position " ++ toString fault.position ++ ": " ++ problem

end Fault

def setItems : List Char → List SetItem
  | first :: '-' :: last :: rest => .range first last :: setItems rest
  | c :: rest => .single c :: setItems rest
  | [] => []

/-- The characters up to a closing bracket that does not come first, and those behind it. -/
def untilBracket : List Char → Option (List Char × List Char)
  | [] => none
  | ']' :: rest => some ([], rest)
  | c :: rest => (untilBracket rest).map fun (inside, behind) => (c :: inside, behind)

/-- A set behind its opening bracket: its part, and the characters behind it. -/
def set? : List Char → Option (Part × List Char)
  | '!' :: first :: rest =>
    (untilBracket rest).map fun (inside, behind) => (.set true (setItems (first :: inside)), behind)
  | ['!'] => none
  | first :: rest =>
    (untilBracket rest).map fun (inside, behind) =>
      (.set false (setItems (first :: inside)), behind)
  | [] => none

/--
The parts of a pattern.  `position` is the place of the next character and `atStart` tells that
it starts a component.
-/
def partsFrom : Nat → Nat → Bool → List Char → Except Fault (List Part)
  | 0, _, _, _ => .ok []
  | _, _, _, [] => .ok []
  | fuel + 1, position, atStart, '*' :: rest =>
    let more := rest.takeWhile (· == '*')
    let behind := rest.drop more.length
    match more.length with
    | 0 => do return .anyChars :: (← partsFrom fuel (position + 1) false behind)
    | 1 =>
      if !atStart then .error ⟨position - 1, .recursive⟩
      else
        match behind with
        | [] => .ok [.anyDirectories]
        | '/' :: behind => do
          return .anyDirectories :: (← partsFrom fuel (position + 3) true behind)
        | _ => .error ⟨position + 2, .recursive⟩
    | _ => .error ⟨position + 2, .wildcards⟩
  | fuel + 1, position, _, '?' :: rest => do
    return .anyChar :: (← partsFrom fuel (position + 1) false rest)
  | fuel + 1, position, _, '[' :: rest =>
    match set? rest with
    | none => .error ⟨position, .range⟩
    | some (part, behind) => do
      return part :: (← partsFrom fuel (position + 1 + (rest.length - behind.length)) false behind)
  | fuel + 1, position, _, c :: rest => do
    return .char c :: (← partsFrom fuel (position + 1) (c == '/') rest)

def parts (pattern : String) : Except Fault (List Part) :=
  partsFrom (pattern.length + 1) 0 true pattern.toList

def SetItem.holds (c : Char) : SetItem → Bool
  | .single other => c == other
  | .range first last => first ≤ c && c ≤ last

def fits : List Part → List Char → Bool
  | [], name => name.isEmpty
  | .char c :: parts, name =>
    match name with
    | other :: rest => c == other && fits parts rest
    | [] => false
  | .anyChar :: parts, name =>
    match name with
    | _ :: rest => fits parts rest
    | [] => false
  | .set isNegated items :: parts, name =>
    match name with
    | c :: rest => (items.any (·.holds c) != isNegated) && fits parts rest
    | [] => false
  | .anyChars :: parts, name => (suffixes name).any (fits parts)
  | .anyDirectories :: parts, name => (suffixes name).any (fits parts)
where
  /-- A name without its first characters, for any number of them. -/
  suffixes : List Char → List (List Char)
    | [] => [[]]
    | c :: rest => (c :: rest) :: suffixes rest

inductive Segment where
  | name (text : String)
  | pattern (parts : List Part)
  | directories
  deriving DecidableEq, Repr, Inhabited

/-- The text of parts that are all written out. -/
def literalOf? : List Part → Option (List Char)
  | [] => some []
  | .char c :: rest => (literalOf? rest).map (c :: ·)
  | _ => none

def Segment.ofParts (parts : List Part) : Segment :=
  match literalOf? parts with
  | some text => .name (String.ofList text)
  | none => if parts = [.anyDirectories] then .directories else .pattern parts

def Segment.fits (name : String) : Segment → Bool
  | .name text => text == name
  | .pattern parts => Wildcards.fits parts name.toList
  | .directories => true

/-- A pattern that starts with a dot, and so can match the special names. -/
def Segment.startsWithDot : Segment → Bool
  | .pattern (.char '.' :: _) => true
  | _ => false

/-- The components of a text, without the empty ones. -/
def componentTexts (chars : List Char) : List (List Char) :=
  let rec split : List Char → List Char → List (List Char)
    | [], current => [current.reverse]
    | c :: rest, current =>
      if c == '/' then current.reverse :: split rest [] else split rest (c :: current)
  (split chars []).filter (!·.isEmpty)

/-- Runs of the pattern for directories count once. -/
def collapse : List Segment → List Segment
  | .directories :: .directories :: rest => collapse (.directories :: rest)
  | segment :: rest => segment :: collapse rest
  | [] => []

/-- The patterns of the components of an absolute pattern; the pattern is checked as a whole
before. -/
def segments (pattern : String) : Except Fault (List Segment) := do
  let _ ← parts pattern
  let found ← (componentTexts pattern.toList).mapM fun text => parts (String.ofList text)
  return collapse (found.map Segment.ofParts)

end StyleInline.Glob.Wildcards
