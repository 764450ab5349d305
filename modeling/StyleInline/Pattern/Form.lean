import StyleInline.Pattern.Matcher

/-!
# The simplified form of a pattern

What a pattern looks like before it is compiled: groups that note nothing are gone, sequences and
choices lie flat, characters behind each other are one text, and a choice between characters is a
set.  The branches of a choice that start with the same parts share these parts.
-/

namespace StyleInline.Pattern

open StyleInline.Text (CharTable)

inductive Form where
  /-- Characters behind each other; none match everywhere. -/
  | text (chars : List Char)
  | set (accepted : CharTable)
  | look (flags : Flags) (look : Look)
  | repetition (count : Count) (inner : Form)
  | capture (inner : Form)
  | sequence (parts : List Form)
  | choice (branches : List Form)
  deriving Inhabited

/-- A condition as the flags in force settle it, with the flag that is left to it. -/
def Look.settled (flags : Flags) : Look → Look × Bool
  | .lineStart =>
    if flags.multiLine then (.lineStart, flags.carriageReturns) else (.textStart, false)
  | .lineEnd => if flags.multiLine then (.lineEnd, flags.carriageReturns) else (.textEnd, false)
  | .textStart => (.textStart, false)
  | .textEnd => (.textEnd, false)
  | other => (other, flags.unicode)

namespace Form

mutual

/-- The least number of octets that a pattern matches, if it can match at all. -/
def least? : Form → Option Nat
  | text chars => some (chars.map Char.utf8Size).sum
  | set accepted => (accepted.ranges.head?).map fun (first, _) => (Char.ofNat first).utf8Size
  | look _ _ => some 0
  | repetition count inner => inner.least?.map (count.least * ·)
  | capture inner => inner.least?
  | sequence parts => leastOfAll? parts
  | choice branches => leastOfAny? branches

def leastOfAll? : List Form → Option Nat
  | [] => some 0
  | first :: rest => do return (← first.least?) + (← leastOfAll? rest)

/-- The least number of octets for one of several branches, if each can match. -/
def leastOfAny? : List Form → Option Nat
  | [] => none
  | [only] => only.least?
  | first :: rest => do return min (← first.least?) (← leastOfAny? rest)

end

mutual

def isEmpty : Form → Bool
  | text chars => chars.isEmpty
  | set _ => false
  | look _ _ => true
  | repetition count inner => inner.isEmpty || count.most == some 0
  | capture inner => inner.isEmpty
  | sequence parts => areEmpty parts
  | choice branches => areEmpty branches

def areEmpty : List Form → Bool
  | [] => true
  | first :: rest => first.isEmpty && areEmpty rest

end

mutual

/-- Two patterns that are written alike; what two groups note differs. -/
def isLike : Form → Form → Bool
  | text left, text right => left == right
  | set left, set right => left.ranges == right.ranges
  | look leftFlags left, look rightFlags right =>
    Look.settled leftFlags left == Look.settled rightFlags right
  | repetition left leftInner, repetition right rightInner =>
    left == right && leftInner.isLike rightInner
  | sequence left, sequence right => areLike left right
  | choice left, choice right => areLike left right
  | _, _ => false

def areLike : List Form → List Form → Bool
  | [], [] => true
  | left :: lefts, right :: rights => left.isLike right && areLike lefts rights
  | _, _ => false

end

def commonLength : List Form → List Form → Nat
  | left :: lefts, right :: rights =>
    if left.isLike right then 1 + commonLength lefts rights else 0
  | _, _ => 0

/-- A set; one of a single character is that character. -/
def ofSet (accepted : CharTable) : Form :=
  match accepted.only? with
  | some c => text [c]
  | none => set accepted

/-- Puts texts behind each other together, and leaves out what is empty. -/
def mergeTexts : List Form → List Form
  | [] => []
  | text chars :: rest =>
    match mergeTexts rest with
    | text more :: others => text (chars ++ more) :: others
    | others => if chars.isEmpty then others else text chars :: others
  | other :: rest => other :: mergeTexts rest

def joined (parts : List Form) : Form :=
  let flat := parts.flatMap fun
    | sequence inner => inner
    | part => [part]
  match mergeTexts flat with
  | [] => text []
  | [only] => only
  | parts => sequence parts

def char? : Form → Option Char
  | text [c] => some c
  | _ => none

def set? : Form → Option CharTable
  | set accepted => some accepted
  | _ => none

def parts? : Form → Option (List Form)
  | sequence parts => some parts
  | _ => none

/-- The set that a choice between characters, or between sets, comes down to. -/
def smashed? (branches : List Form) : Option Form :=
  match branches.mapM char? with
  | some chars => some (ofSet (.ofCodes (chars.map Char.toNat)))
  | none => (branches.mapM set?).map fun sets => ofSet (.unions sets)

/-- The parts that all of several sequences start with, and what each goes on with. -/
def shared? (branches : List Form) : Option (List Form × List Form) := do
  match ← branches.mapM parts? with
  | [] => none
  | first :: rest =>
    let length := rest.foldl (fun length other => min length (commonLength first other))
      first.length
    if length == 0 then none
    else some (first.take length, (first :: rest).map fun parts => joined (parts.drop length))

/-- A choice between patterns; `fuel` bounds how often branches are found to start alike. -/
def chosenWithin : Nat → List Form → Form
  | fuel, branches =>
    let flat := branches.flatMap fun
      | choice inner => inner
      | branch => [branch]
    match flat with
    | [only] => only
    | flat =>
      match smashed? flat with
      | some form => form
      | none =>
        match fuel, shared? flat with
        | fuel + 1, some (front, tails) => joined (front ++ [chosenWithin fuel tails])
        | _, _ => choice flat

def chosen (branches : List Form) : Form := chosenWithin 16 branches

/-- A repetition; what matches nothing is repeated once at most. -/
def repeated (count : Count) (inner : Form) : Form :=
  let count : Count :=
    if inner.isEmpty then ⟨min count.least 1, some (min (count.most.getD 1) 1)⟩ else count
  if count == ⟨0, some 0⟩ then text []
  else if count == ⟨1, some 1⟩ then inner
  else repetition count inner

mutual

def ofMatcher : Matcher → Form
  | .nothing => text []
  | .set accepted => ofSet accepted
  | .look flags condition => look flags condition
  | .sequence first rest => joined (ofMatcher first :: partsOf rest)
  | .choice first rest => chosen (ofMatcher first :: branchesOf rest)
  | .group isCaptured inner => if isCaptured then capture (ofMatcher inner) else ofMatcher inner
  | .repetition count inner => repeated count (ofMatcher inner)

def partsOf : Matcher → List Form
  | .sequence first rest => ofMatcher first :: partsOf rest
  | other => [ofMatcher other]

def branchesOf : Matcher → List Form
  | .choice first rest => ofMatcher first :: branchesOf rest
  | other => [ofMatcher other]

end

end Form

end StyleInline.Pattern
