import StyleInline.Json.Reader

/-!
# Decoders

A decoder makes something of a JSON value.  It can read the value from a text, where the
first fault counts, be it one of syntax or of meaning, or take a value that has been read.
-/

namespace StyleInline.Json

structure Decoder (α : Type) where
  /-- From a text, with the depth that is left for brackets. -/
  ofText : Nat → Read α
  ofValue : Value → Except Reason α

namespace Decoder

def decodeText {α : Type} (decoder : Decoder α) (content : String) : Except Fault α :=
  Read.whole (decoder.ofText depthLimit) content

def decodeValue {α : Type} (decoder : Decoder α) (value : Value) : Except Fault α :=
  (decoder.ofValue value).mapError fun reason => ⟨reason, none⟩

/-- Fails because a value of another kind is found; brackets are not read. -/
def mismatch {α : Type} (depth : Nat) (expected : String) : Read α := do
  match ← Read.peekBehindGap with
  | some '[' => Read.failHere (.mismatch (Value.list []).described expected)
  | some '\x7b' => Read.failHere (.mismatch (Value.object []).described expected)
  | none => Read.failAhead .endOfValue
  | some _ => Read.failHere (.mismatch (← Read.value depth).described expected)

def text : Decoder String where
  ofText depth := do
    match ← Read.peekBehindGap with
    | some '"' =>
      Read.skip
      Read.text true
    | _ => mismatch depth "a string"
  ofValue
    | .text value => .ok value
    | value => .error (.mismatch value.described "a string")

def flag : Decoder Bool where
  ofText depth := do
    match ← Read.peekBehindGap with
    | some 't' => Read.skip; Read.word ['r', 'u', 'e']; return true
    | some 'f' => Read.skip; Read.word ['a', 'l', 's', 'e']; return false
    | _ => mismatch depth "a boolean"
  ofValue
    | .bool value => .ok value
    | value => .error (.mismatch value.described "a boolean")

def optional {α : Type} (decoder : Decoder α) : Decoder (Option α) where
  ofText depth := do
    match ← Read.peekBehindGap with
    | some 'n' => Read.skip; Read.word ['u', 'l', 'l']; return none
    | _ => return some (← decoder.ofText depth)
  ofValue
    | .null => .ok none
    | value => (decoder.ofValue value).map some

def list {α : Type} (decoder : Decoder α) : Decoder (List α) where
  ofText depth := do
    match ← Read.peekBehindGap with
    | some '[' =>
      Read.nested depth Read.endList fun depth => do
        Read.itemsWithin (decoder.ofText depth) (← Read.charsLeft) true
    | _ => mismatch depth "a sequence"
  ofValue
    | .list values => values.mapM decoder.ofValue
    | value => .error (.mismatch value.described "a sequence")

def pairName : String := "a tuple of size 2"

def pair {α β : Type} (first : Decoder α) (second : Decoder β) : Decoder (α × β) where
  ofText depth := do
    match ← Read.peekBehindGap with
    | some '[' =>
      Read.nested depth Read.endList fun depth => do
        if !(← Read.nextItem true) then Read.failSomewhere (.length 0 pairName)
        let left ← first.ofText depth
        if !(← Read.nextItem false) then Read.failSomewhere (.length 1 pairName)
        return (left, ← second.ofText depth)
    | _ => mismatch depth pairName
  ofValue
    | .list [] => .error (.length 0 pairName)
    | .list [left] => do
      let _ ← first.ofValue left
      .error (.length 1 pairName)
    | .list (left :: right :: rest) => do
      let left ← first.ofValue left
      let right ← second.ofValue right
      if rest.isEmpty then .ok (left, right)
      else .error (.length (rest.length + 2) "fewer elements in array")
    | value => .error (.mismatch value.described pairName)

/-- One of several forms, told apart by the value alone. -/
def oneOf {α : Type} (name : String) (form? : Value → Option α) : Decoder α where
  ofText depth := do
    match form? (← Read.value depth) with
    | some found => return found
    | none => Read.failSomewhere (.noForm name)
  ofValue value :=
    match form? value with
    | some found => .ok found
    | none => .error (.noForm name)

def map {α β : Type} (change : α → β) (decoder : Decoder α) : Decoder β where
  ofText depth := do return change (← decoder.ofText depth)
  ofValue value := (decoder.ofValue value).map change

def checked {α β : Type} (check : α → Except String β) (decoder : Decoder α) : Decoder β where
  ofText depth := do
    match check (← decoder.ofText depth) with
    | .ok found => return found
    | .error message => Read.failSomewhere (.senseless message)
  ofValue value := do
    match check (← decoder.ofValue value) with
    | .ok found => .ok found
    | .error message => .error (.senseless message)

/-- A field of a record: its key, and how its value changes the record. -/
structure Field (σ : Type) where
  key : String
  change : Decoder (σ → σ)

def field {σ α : Type} (key : String) (decoder : Decoder α) (set : α → σ → σ) : Field σ :=
  ⟨key, decoder.map set⟩

/-- The fields of a record from the members of an object; `seen` are the keys met so far. -/
def membersWithin {σ : Type} (fields : List (Field σ)) (depth : Nat) :
    Nat → List String → σ → Read σ
  | 0, _, record => return record
  | fuel + 1, seen, record => do
    match ← Read.nextKey seen.isEmpty with
    | none => return record
    | some key =>
      match fields.find? (·.key == key) with
      | none =>
        Read.colon
        Read.unneeded
        membersWithin fields depth fuel (key :: seen) record
      | some field =>
        if seen.contains key then Read.failSomewhere (.duplicate key)
        Read.colon
        let change ← field.change.ofText depth
        membersWithin fields depth fuel (key :: seen) (change record)

/-- The fields of a record from a list that names no keys; the last ones may be missing. -/
def positions {σ : Type} (depth : Nat) : List (Field σ) → Bool → σ → Read σ
  | [], _, record => return record
  | field :: rest, isFirst, record => do
    if ← Read.nextItem isFirst then
      let change ← field.change.ofText depth
      positions depth rest false (change record)
    else return record

def positionsOf {σ : Type} : List (Field σ) → List Value → σ → Except Reason σ
  | field :: fields, value :: values, record => do
    positionsOf fields values ((← field.change.ofValue value) record)
  | _, _, record => .ok record

def membersOf {σ : Type} (fields : List (Field σ)) :
    List (String × Value) → σ → Except Reason σ
  | [], record => .ok record
  | (key, value) :: rest, record =>
    match fields.find? (·.key == key) with
    | none => membersOf fields rest record
    | some field => do membersOf fields rest ((← field.change.ofValue value) record)

/--
A record: an object with the given fields, or a list of their values in order.  Missing
fields keep the values of `start`, and other members are left out.
-/
def record {σ : Type} (name : String) (fields : List (Field σ)) (start : σ) : Decoder σ where
  ofText depth := do
    match ← Read.peekBehindGap with
    | some '[' =>
      Read.nested depth Read.endList fun depth => positions depth fields true start
    | some '\x7b' =>
      Read.nested depth Read.endObject fun depth => do
        membersWithin fields depth ((← Read.charsLeft) + 1) [] start
    | _ => mismatch depth name
  ofValue
    | .list values => do
      let found ← positionsOf fields values start
      if fields.length < values.length then
        .error (.length values.length "fewer elements in array")
      else .ok found
    | .object members => membersOf fields members start
    | value => .error (.mismatch value.described name)

end Decoder

end StyleInline.Json
