import StyleInline.Pattern.Form
import Std.Data.HashMap

/-!
# Room

How much room a pattern takes when it is compiled to states that read octets, once for reading
forwards and once for reading backwards.  A set of characters becomes the sequences of octets
that encode its members; read forwards, sequences share what they start with and what they end
with, read backwards only what they start with.  The texts of a choice between texts share what
they are read with first.
-/

namespace StyleInline.Pattern

open StyleInline.Text (CharTable)

/-- The octets between two octets, both included. -/
abbrev OctetRange := Nat × Nat

namespace OctetRange

def greatest : Nat → Nat
  | 1 => 0x7F
  | 2 => 0x7FF
  | _ => 0xFFFF

def octets (code : Nat) : List Nat :=
  if code ≤ 0x7F then [code]
  else if code ≤ 0x7FF then [0xC0 + code / 0x40, 0x80 + code % 0x40]
  else if code ≤ 0xFFFF then
    [0xE0 + code / 0x1000, 0x80 + code / 0x40 % 0x40, 0x80 + code % 0x40]
  else
    [0xF0 + code / 0x40000, 0x80 + code / 0x1000 % 0x40, 0x80 + code / 0x40 % 0x40,
      0x80 + code % 0x40]

/-- The last code of the first part of a range whose codes do not take the same number of octets,
or do not fill the octets behind the first that differ. -/
def split? (first last : Nat) : Option Nat :=
  let byLength := [1, 2, 3].findSome? fun n =>
    if first ≤ greatest n && greatest n < last then some (greatest n) else none
  byLength.orElse fun _ =>
    if last ≤ 0x7F then none
    else
      [0x40, 0x1000, 0x40000].findSome? fun size =>
        if first / size == last / size then none
        else if first % size != 0 then some (first / size * size + size - 1)
        else if last % size != size - 1 then some (last / size * size - 1)
        else none

/-- The sequences of octets for the codes of a range; `fuel` bounds the number of cuts in a row. -/
def sequencesWithin : Nat → Nat → Nat → List (List OctetRange)
  | 0, _, _ => []
  | fuel + 1, first, last =>
    if last < first then []
    else if first < 0xE000 && 0xD7FF < last then
      sequencesWithin fuel first 0xD7FF ++ sequencesWithin fuel 0xE000 last
    else
      match split? first last with
      | some cut => sequencesWithin fuel first cut ++ sequencesWithin fuel (cut + 1) last
      | none => [(octets first).zip (octets last)]

/-- The sequences of octets for the characters of a set, in the order of the characters. -/
def sequences (set : CharTable) : List (List OctetRange) :=
  set.ranges.flatMap fun (first, last) => sequencesWithin 16 first last

/-- Puts sequences behind each other with the same first range together. -/
def byFirst : List (List OctetRange) → List (OctetRange × List (List OctetRange))
  | [] => []
  | [] :: rest => byFirst rest
  | (first :: tail) :: rest =>
    match byFirst rest with
    | (other, tails) :: groups =>
      if other == first then (first, tail :: tails) :: groups
      else (first, [tail]) :: (other, tails) :: groups
    | [] => [(first, [tail])]

end OctetRange

/-- The room of a pattern in bytes, for either direction. -/
structure Room where
  forwards : Nat
  backwards : Nat
  deriving Repr, Inhabited

namespace Room

def add (left right : Room) : Room :=
  ⟨left.forwards + right.forwards, left.backwards + right.backwards⟩

def times (count : Nat) (room : Room) : Room := ⟨count * room.forwards, count * room.backwards⟩

def both (bytes : Nat) : Room := ⟨bytes, bytes⟩

def state : Nat := 32

def step : Nat := 8

def choice : Nat := 4

/-- The states for reading octets forwards: the steps of each, with its number. -/
structure States where
  numbers : Std.HashMap (List (OctetRange × Nat)) Nat := {}
  bytes : Nat := 0

/-- The number of the state from which sequences of octets are read; 0 is the one behind them. -/
def share : Nat → List (List OctetRange) → StateM States Nat
  | 0, _ => return 0
  | depth + 1, sequences => do
    let groups := OctetRange.byFirst sequences
    if groups.isEmpty then return 0
    let steps ← groups.mapM fun (range, tails) => return (range, ← share depth tails)
    match (← get).numbers[steps]? with
    | some number => return number
    | none =>
      modify fun states =>
        { numbers := states.numbers.insert steps (states.numbers.size + 1),
          bytes := states.bytes + state + step * steps.length }
      return (← get).numbers.size

def beginnings : Nat → List (List OctetRange) → Nat
  | 0, _ => 0
  | depth + 1, sequences =>
    ((OctetRange.byFirst sequences).map fun (_, tails) => 1 + beginnings depth tails).sum

def ofSet (set : CharTable) : Room :=
  let ranges := set.ranges
  if ranges.all fun (_, last) => last < 128 then both (2 * state + step * ranges.length)
  else
    let sequences := OctetRange.sequences set
    let (_, states) := (share 4 sequences).run {}
    ⟨state + states.bytes,
      2 * state + choice * sequences.length + state * beginnings 4 sequences⟩

/-- Cuts a list of what may follow at the places where a text ends. -/
def chunks : List (List Nat) → List (List (List Nat))
  | [] => [[]]
  | [] :: rest => [] :: chunks rest
  | text :: rest =>
    match chunks rest with
    | [] => [[text]]
    | chunk :: more => (text :: chunk) :: more

/-- Adds what follows an octet to what follows it in other texts. -/
def addTail (groups : List (Nat × List (List Nat))) (octet : Nat) (tail : List Nat) :
    List (Nat × List (List Nat)) :=
  match groups with
  | [] => [(octet, [tail])]
  | (other, tails) :: rest =>
    if other == octet then (octet, tails ++ [tail]) :: rest
    else (other, tails) :: addTail rest octet tail

def tails (texts : List (List Nat)) : List (Nat × List (List Nat)) :=
  texts.foldl (fun groups text =>
    match text with
    | [] => groups
    | octet :: tail => addTail groups octet tail) []

/-- The room of a state from which texts are read that share what they start with.  Behind a text
that ends here the ones that come later start anew.  The lengths of the texts bound `fuel`. -/
def ofTexts : Nat → List (List Nat) → Nat
  | 0, _ => 0
  | fuel + 1, texts =>
    let ended := texts.dropWhile List.isEmpty
    let texts := if ended.length < texts.length then [] :: ended else texts
    let parts := (chunks texts).map tails
    let ofPart (groups : List (Nat × List (List Nat))) : Nat :=
      let inner := groups.map fun (_, tails) =>
        if tails.all List.isEmpty then 0 else ofTexts fuel tails
      let steps := if groups.length ≤ 1 then 0 else step * groups.length
      if groups.isEmpty then 0 else state + steps + inner.sum
    let filled := (parts.filter (!·.isEmpty)).length
    (parts.map ofPart).sum + state + choice * (filled + parts.length - 1)

def ofBranches (texts : List (List Nat)) : Room :=
  let fuel := (texts.map List.length).foldl max 0
  ⟨state + ofTexts (fuel + 1) texts, state + ofTexts (fuel + 1) (texts.map List.reverse)⟩

end Room

namespace Form

def octets (chars : List Char) : List Nat := chars.flatMap fun c => OctetRange.octets c.toNat

/-- The octets of a pattern that is a text with characters. -/
def octets? : Form → Option (List Nat)
  | text (c :: chars) => some (octets (c :: chars))
  | _ => none

def repeatedRoom (count : Count) (mayBeEmpty : Bool) (room : Room) : Room :=
  let branching := Room.both (Room.state + 2 * Room.choice)
  match count.least, count.most with
  | 0, some 1 => (room.add branching).add (.both Room.state)
  | 0, none =>
    if mayBeEmpty then (room.add (branching.times 2)).add (.both Room.state)
    else room.add branching
  | least, none => (room.times least).add branching
  | least, some most =>
    let required := if least == 0 then .both Room.state else room.times least
    if most == least then required
    else (required.add (.both Room.state)).add ((room.add branching).times (most - least))

mutual

/-- The room that a compiled pattern takes. -/
def room : Form → Room
  | text [] => .both Room.state
  | text chars => .both (Room.state * (octets chars).length)
  | set accepted => .ofSet accepted
  | look _ _ => .both Room.state
  | repetition count inner =>
    repeatedRoom count ((inner.least?.getD 0) == 0) inner.room
  | capture inner => inner.room.add ⟨2 * Room.state, 0⟩
  | sequence parts => roomOfAll parts
  | choice branches =>
    match branches.mapM octets? with
    | some texts => .ofBranches texts
    | none => (roomOfAll branches).add (.both (2 * Room.state + Room.choice * branches.length))

def roomOfAll : List Form → Room
  | [] => .both 0
  | first :: rest => first.room.add (roomOfAll rest)

end

/-- The room of the states around a pattern: those that look for the start of a match, those that
note where it starts and ends, and the last one. -/
def frame : Room :=
  let start := 3 * Room.state + Room.step + 2 * Room.choice
  ⟨start + 3 * Room.state, start + Room.state⟩

end Form

namespace Matcher

/-- A pattern fits into a number of bytes in both directions. -/
def fits (limit : Nat) (matcher : Matcher) : Bool :=
  let room := (Form.ofMatcher matcher).room.add Form.frame
  room.forwards ≤ limit && room.backwards ≤ limit

end Matcher

end StyleInline.Pattern
