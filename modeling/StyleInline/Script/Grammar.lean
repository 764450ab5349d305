import StyleInline.Script.Grammar.Elements
import StyleInline.Script.Grammar.Items

/-!
# The grammar

All readers together, and the function that turns a text into a module.
-/

namespace StyleInline.Script

namespace Grammar

/-- The reader of each construct, given a reader for the constructs inside it. -/
def step (recur : Read) : Read
  | .statement isListed => statement recur isListed
  | .item => item recur
  | .expression => expression recur
  | .assignment => assignment recur
  | .unary => unary recur
  | .operators least left => operators recur least left
  | .pattern => pattern recur
  | .decorators => decorators recur
  | .parameters => parameters recur
  | .type => type recur
  | .plainType => plainType recur
  | .typeMembers => typeMembers recur
  | .classRest head decorators isNamed => classRest recur head decorators isNamed
  | .function isAsync isGenerator => function recur isAsync isGenerator
  | .functionExpression isAsync => functionExpression recur isAsync
  | .element => element recur

/-- The reader of every construct, for constructs inside each other at most `fuel` deep. -/
def reader : Nat → Read
  | 0 => fun _ => throw .budget
  | fuel + 1 => fun goal => step (reader fuel) goal

/-- A depth that no text of a length exceeds: between two characters few constructs begin. -/
def depthFor (length : Nat) : Nat := 16 * length + 64

/-- The items up to the end of the text. -/
def items (recur : Read) : Parse (List Node) := do
  match (← get).lexed.noted with
  | some error => note error
  | none => pure ()
  many do
    if ← atEnd then return none
    return some (← recur .item)

/-- The first line of a text, if it names an interpreter, and the text behind it. -/
def interpreterLine (chars : List Char) : Option String × List Char :=
  match chars with
  | '#' :: '!' :: rest =>
    let line := rest.takeWhile (!Lexer.isLineEnd ·)
    (some (String.ofList line), rest.drop line.length)
  | _ => (none, chars)

end Grammar

/-- Reads a module; the first error that was noted counts if none ended the reading. -/
def Module.parse (dialect : Dialect) (text : String) : Except ParseError Module := do
  let (interpreter, chars) := Grammar.interpreterLine text.toList
  let start : Grammar.Cursor := { lexed := Lexed.first dialect.types chars }
  let reader := Grammar.reader (Grammar.depthFor chars.length)
  let (result, cursor) := Grammar.items reader { dialect } |>.run |>.run start
  let items ← result
  match cursor.noted with
  | some error => throw error
  | none => return { interpreter, items }

end StyleInline.Script
