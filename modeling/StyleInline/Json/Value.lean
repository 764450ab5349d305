import StyleInline.Text.Shown

/-!
# JSON values

Values, and the reasons for which a text is no value or a value is not what was expected.
-/

namespace StyleInline.Json

inductive Value where
  | null
  | bool (value : Bool)
  | integer (value : Int)
  /-- A number that is no integer of 64 bits, by the shortest decimal that reads back. -/
  | real (decimal : String)
  | text (value : String)
  | list (items : List Value)
  /-- Members in the order of their keys, each key once. -/
  | object (members : List (String × Value))
  deriving Repr, Inhabited

namespace Value

/-- Adds a member; an earlier one of the same key is replaced. -/
def insertMember (key : String) (value : Value) : List (String × Value) → List (String × Value)
  | [] => [(key, value)]
  | (other, old) :: rest =>
    if key = other then (key, value) :: rest
    else if key < other then (key, value) :: (other, old) :: rest
    else (other, old) :: insertMember key value rest

/-- An object of members in any order; of two with one key the later counts. -/
def ofMembers (members : List (String × Value)) : Value :=
  .object (members.foldl (fun sorted (key, value) => insertMember key value sorted) [])

def member? (key : String) : Value → Option Value
  | .object members => members.lookup key
  | _ => none

def described : Value → String
  | .null => "null"
  | .bool value => "boolean `" ++ (if value then "true" else "false") ++ "`"
  | .integer value => "integer `" ++ toString value ++ "`"
  | .real decimal => "floating point `" ++ decimal ++ "`"
  | .text value => "string " ++ Text.shown value
  | .list _ => "sequence"
  | .object _ => "map"

end Value

inductive Reason where
  | endOfList
  | endOfObject
  | endOfText
  | endOfValue
  | colonExpected
  | listEndExpected
  | objectEndExpected
  | wordExpected
  | valueExpected
  | invalidEscape
  | invalidNumber
  | numberRange
  | controlCharacter
  | keyExpected
  | loneSurrogate
  | surrogateExpected
  | trailingComma
  | trailingCharacters
  | tooDeep
  | mismatch (found expected : String)
  | length (found : Nat) (expected : String)
  | noForm (name : String)
  | duplicate (field : String)
  /-- A value of the right kind that makes no sense. -/
  | senseless (message : String)
  deriving DecidableEq, Repr, Inhabited

namespace Reason

def message : Reason → String
  | .endOfList => "EOF while parsing a list"
  | .endOfObject => "EOF while parsing an object"
  | .endOfText => "EOF while parsing a string"
  | .endOfValue => "EOF while parsing a value"
  | .colonExpected => "expected `:`"
  | .listEndExpected => "expected `,` or `]`"
  | .objectEndExpected => "expected `,` or `\x7d`"
  | .wordExpected => "expected ident"
  | .valueExpected => "expected value"
  | .invalidEscape => "invalid escape"
  | .invalidNumber => "invalid number"
  | .numberRange => "number out of range"
  | .controlCharacter => "control character (\\u0000-\\u001F) found while parsing a string"
  | .keyExpected => "key must be a string"
  | .loneSurrogate => "lone leading surrogate in hex escape"
  | .surrogateExpected => "unexpected end of hex escape"
  | .trailingComma => "trailing comma"
  | .trailingCharacters => "trailing characters"
  | .tooDeep => "recursion limit exceeded"
  | .mismatch found expected => "invalid type: " ++ found ++ ", expected " ++ expected
  | .length found expected => "invalid length " ++ toString found ++ ", expected " ++ expected
  | .noForm name => "data did not match any variant of untagged enum " ++ name
  | .duplicate field => "duplicate field `" ++ field ++ "`"
  | .senseless message => message

end Reason

end StyleInline.Json
