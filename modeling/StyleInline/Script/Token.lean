import StyleInline.Script.Node
import StyleInline.Script.ParseError
import StyleInline.Text.Letters
import StyleInline.Text.Shortest
import StyleInline.Text.Shown

/-!
# Tokens

Splitting the text of a module into words, punctuation, numbers and strings.  A slash is
always read as punctuation here, and a template as its opening mark; the grammar knows
which of them start a pattern or a template and reads on from there.

Two kinds of error arise.  A piece of text that is no token becomes a `fault`; an error that
leaves a token intact is noted beside it.
-/

namespace StyleInline.Script

def keywords : List String :=
  ["break", "case", "catch", "class", "const", "continue", "debugger", "default", "delete",
   "do", "else", "export", "extends", "finally", "for", "function", "if", "import", "in",
   "instanceof", "new", "return", "super", "switch", "this", "throw", "try", "typeof", "var",
   "void", "while", "with", "null", "true", "false"]

def isReserved (word : String) : Bool :=
  keywords.contains word ||
    ["enum", "let", "await", "yield", "implements", "package", "protected", "interface", "private",
     "public"].contains word

inductive Token where
  | word (name : String)
  | punct (text : String)
  | number (raw : String)
  | bigint (raw : String)
  | text (literal : TextLiteral)
  | fault (error : ParseError)
  | eof
  deriving DecidableEq, Repr, Inhabited

namespace Lexer

/-- The first error noted, when another one is met. -/
def noting (noted : Option ParseError) (error : ParseError) : Option ParseError :=
  some (noted.getD error)

def isLineEnd (c : Char) : Bool :=
  c == '\n' || c == '\r' || c == '\u2028' || c == '\u2029'

def isSpace (c : Char) : Bool :=
  let code := c.toNat
  c == ' ' || c == '\t' || code == 0x0B || code == 0x0C || code == 0xA0 || code == 0xFEFF ||
  code == 0x1680 || (0x2000 ≤ code && code ≤ 0x200A) || code == 0x202F || code == 0x205F ||
  code == 0x3000

inductive Gap where
  | spaces
  | lineComment
  | blockComment

structure AfterGap where
  newline : Bool
  isOpen : Bool
  rest : List Char

def skipGap (newline : Bool) : Gap → List Char → AfterGap
  | .spaces, '/' :: '/' :: rest => skipGap newline .lineComment rest
  | .spaces, '/' :: '*' :: rest => skipGap newline .blockComment rest
  | .spaces, c :: rest =>
    if isLineEnd c then skipGap true .spaces rest
    else if isSpace c then skipGap newline .spaces rest
    else ⟨newline, false, c :: rest⟩
  | .lineComment, c :: rest =>
    if isLineEnd c then skipGap true .spaces rest else skipGap newline .lineComment rest
  | .blockComment, '*' :: '/' :: rest => skipGap newline .spaces rest
  | .blockComment, c :: rest => skipGap (newline || isLineEnd c) .blockComment rest
  | .blockComment, [] => ⟨newline, true, []⟩
  | _, [] => ⟨newline, false, []⟩

def digitValue? (radix : Nat) (c : Char) : Option Nat :=
  let code := c.toNat
  let value :=
    if 48 ≤ code && code ≤ 57 then code - 48
    else if 97 ≤ code && code ≤ 102 then code - 87
    else if 65 ≤ code && code ≤ 70 then code - 55
    else radix
  if value < radix then some value else none

/-- The number that digits of a radix spell; all other characters are left out. -/
def spelled (radix : Nat) (digits : List Char) : Nat :=
  digits.foldl (fun total c =>
    match digitValue? radix c with
    | some value => total * radix + value
    | none => total) 0

/-- The number that hexadecimal digits spell, if all characters are digits. -/
def hexNumber? (digits : List Char) : Option Nat :=
  if digits.all fun c => (digitValue? 16 c).isSome then some (spelled 16 digits) else none

def isSurrogate (code : Nat) : Bool := 0xD800 ≤ code && code ≤ 0xDFFF

/-- What an escape stands for, if it stands for something, and what is left behind it. -/
abbrev Escape := Except ParseError (List Char) × List Char

def hexDigits (chars : List Char) : List Char :=
  chars.takeWhile fun c => (digitValue? 16 c).isSome

/--
How many characters an escape in braces takes behind the opening brace: its digits.  The escape of
a surrogate takes whatever stands in front of the closing brace, but no more than six characters.
-/
def bracedReach (chars : List Char) : Nat :=
  let digits := hexDigits chars
  if isSurrogate (spelled 16 digits) then ((chars.take 6).findIdx? (· == '}')).getD 6
  else digits.length

def bracedEscape (chars : List Char) : Escape :=
  let digits := hexDigits chars
  let code := spelled 16 digits
  let reach := bracedReach chars
  let rest := chars.drop reach
  if digits.isEmpty || Nat.pow 2 32 ≤ code then
    (.error (.badEscape "1-6 hex characters"), rest)
  else if 0x10FFFF < code then
    (.error (.badEscape "1-6 hex characters in the range 0 to 10FFFF."), rest)
  else if rest.head? != some '}' then (.error .invalidUnicodeEscape, rest)
  else if isSurrogate code then (.ok ("\\u\x7b".toList ++ chars.take reach ++ ['}']), rest.drop 1)
  else (.ok [Char.ofNat code], rest.drop 1)

def fixedEscape (count : Nat) (fault : ParseError) (chars : List Char) : Escape :=
  let digits := (hexDigits chars).take count
  let code := spelled 16 digits
  let rest := chars.drop digits.length
  if digits.length < count then (.error fault, rest)
  else if isSurrogate code then (.ok ('\\' :: 'u' :: digits), rest)
  else (.ok [Char.ofNat code], rest)

/--
The characters that an escape by its code stands for, behind `\u`.  The code of a surrogate is
no character, so such an escape is kept as it is written.
-/
def unicodeEscape : List Char → Escape
  | '{' :: rest => bracedEscape rest
  | chars => fixedEscape 4 (.badEscape "4 hex characters") chars

/-- The character that octal digits stand for: up to three of them, as long as they spell at most
255. -/
def octalEscape (digits : List Char) : Escape :=
  let isOctal (c : Char) : Bool := (digitValue? 8 c).isSome
  let run := (digits.takeWhile isOctal).take 3
  let taken := if 255 < spelled 8 run then run.take 2 else run
  (.ok [Char.ofNat (spelled 8 taken)], digits.drop taken.length)

/-- Octal digits stand here that are more than a single zero. -/
def startsOctal : List Char → Bool
  | '0' :: d :: _ => (digitValue? 8 d).isSome
  | c :: _ => c != '0' && (digitValue? 8 c).isSome
  | [] => false

/-- The characters that an escape sequence stands for, behind its backslash. -/
def escapeSequence (chars : List Char) : Escape :=
  match chars with
  | [] => (.error .invalidEscape, [])
  | 'n' :: rest => (.ok ['\n'], rest)
  | 'r' :: rest => (.ok ['\r'], rest)
  | 't' :: rest => (.ok ['\t'], rest)
  | 'b' :: rest => (.ok ['\x08'], rest)
  | 'v' :: rest => (.ok ['\x0b'], rest)
  | 'f' :: rest => (.ok ['\x0c'], rest)
  | '\r' :: '\n' :: rest => (.ok [], rest)
  | 'x' :: rest => fixedEscape 2 (.badEscape "2 hex characters") rest
  | 'u' :: rest => unicodeEscape rest
  | c :: rest =>
    if isLineEnd c then (.ok [], rest)
    else if startsOctal chars then octalEscape chars
    else if c == '0' then (.ok ['\x00'], rest)
    else (.ok [c], rest)

/-- A string while it is read: its value so far, last character first. -/
structure OpenString where
  reversed : List Char
  noted : Option ParseError

/-- A string at the end of its value: the value, the first error in it, and what is left. -/
abbrev ClosedString := String × Option ParseError × List Char

def OpenString.closed (string : OpenString) (rest : List Char) : ClosedString :=
  (String.ofList string.reversed.reverse, string.noted, rest)

/-- The string, whose value ends although no quote closes it. -/
def OpenString.cut (string : OpenString) (rest : List Char) : ClosedString :=
  { string with noted := noting string.noted .unterminatedString }.closed rest

def OpenString.escaped (string : OpenString) (written : List Char) (value : List Char) :
    OpenString :=
  { reversed := value.reverse ++ string.reversed
    noted := if startsOctal written then noting string.noted .legacyOctal else string.noted }

/-- Reads a string up to its closing quote, or up to the escape that spoils it. -/
def stringValue (quote : Char) (string : OpenString) (chars : List Char) :
    Except (ParseError × List Char) ClosedString :=
  match chars with
  | [] => .ok (string.cut [])
  | c :: rest =>
    if c = quote then .ok (string.closed rest)
    else if c = '\\' then
      match escapeSequence rest with
      | (.error error, after) => .error (error, after)
      | (.ok value, after) =>
        if after.length ≤ rest.length then stringValue quote (string.escaped rest value) after
        else .ok (string.cut [])
    else if c = '\n' ∨ c = '\r' then .ok (string.cut (c :: rest))
    else stringValue quote { string with reversed := c :: string.reversed } rest
termination_by chars.length

def consumed (start rest : List Char) : String :=
  String.ofList (start.take (start.length - rest.length))

structure OpenName where
  reversed : List Char
  isEscaped : Bool
  noted : Option ParseError

def OpenName.allows (name : OpenName) (c : Char) : Bool :=
  if name.reversed.isEmpty then Text.isIdentifierStart c else Text.isIdentifierPart c

/-- The name with what an escape stands for; an escape that spells no letter is noted. -/
def OpenName.escaped (name : OpenName) (value : List Char) : OpenName :=
  { reversed := value.reverse ++ name.reversed
    isEscaped := true
    noted :=
      if (value.take 1).all name.allows then name.noted
      else noting name.noted .identifierCharacter }

/-- Reads a name as far as it goes, or up to the escape that spoils it; `fuel` bounds its
length. -/
def nameWithin : Nat → OpenName → List Char → Except ParseError OpenName × List Char
  | 0, name, chars => (.ok name, chars)
  | fuel + 1, name, '\\' :: 'u' :: rest =>
    match unicodeEscape rest with
    | (.error error, after) => (.error error, after)
    | (.ok value, after) => nameWithin fuel (name.escaped value) after
  | _, _, '\\' :: rest => (.error .unicodeEscapeExpected, rest)
  | fuel + 1, name, c :: rest =>
    if name.allows c then nameWithin fuel { name with reversed := c :: name.reversed } rest
    else (.ok name, c :: rest)
  | _, name, [] => (.ok name, [])

abbrev Scanned := Token × Option ParseError × List Char

def faulty (error : ParseError) (rest : List Char) : Scanned := (.fault error, none, rest)

/-- The word at the front of a text; a reserved word holds no escape. -/
def word (chars : List Char) : Scanned :=
  match nameWithin (chars.length + 1) ⟨[], false, none⟩ chars with
  | (.error error, rest) => faulty error rest
  | (.ok name, rest) =>
    let text := String.ofList name.reversed.reverse
    if name.isEscaped && isReserved text then faulty (.escapedKeyword text) rest
    else (.word text, name.noted, rest)

structure Digits where
  isEmpty : Bool := true
  isZero : Bool := true
  /-- There is a digit that no octal number has. -/
  isDecimal : Bool := false
  noted : Option ParseError := none
  rest : List Char := []

def digits (radix : Nat) (found : Digits) : List Char → Digits
  | [] => { found with rest := [] }
  | c :: rest =>
    if c == '_' then
      let isBetween := (rest.take 1).any fun next => (digitValue? radix next).isSome
      digits radix
        { found with
          noted := if isBetween then found.noted else noting found.noted .separatorPlace }
        rest
    else
      match digitValue? radix c with
      | none => { found with rest := c :: rest }
      | some value =>
        digits radix
          { found with
            isEmpty := false
            isZero := found.isZero && value == 0
            isDecimal := found.isDecimal || 8 ≤ value }
          rest

/-- Ends a number, which no letter may follow. -/
def endNumber (start : List Char) (noted : Option ParseError) (rest : List Char) : Scanned :=
  if (rest.take 1).any Text.isIdentifierStart then faulty .identifierAfterNumber rest
  else (.number (consumed start rest), noted, rest)

def radixNumber (start : List Char) (radix : Nat) (chars : List Char) : Scanned :=
  let found := digits radix {} chars
  if found.isEmpty then faulty (.digitExpected radix) found.rest
  else
    match found.rest with
    | 'n' :: rest => (.bigint (consumed start rest), found.noted, rest)
    | rest => endNumber start found.noted rest

def exponentAndEnd (start : List Char) (noted : Option ParseError) (chars : List Char) : Scanned :=
  match chars with
  | e :: rest =>
    if e == 'e' || e == 'E' then
      if rest.isEmpty then faulty .exponentExpected []
      else
        let unsigned := match rest with
          | '+' :: after | '-' :: after => after
          | _ => rest
        let found := digits 10 { noted } unsigned
        if found.isEmpty then faulty (.digitExpected 10) found.rest
        else endNumber start found.noted found.rest
    else endNumber start noted chars
  | [] => endNumber start noted []

def fractionAndEnd (start : List Char) (noted : Option ParseError) (chars : List Char) : Scanned :=
  match chars with
  | '.' :: rest =>
    let found := digits 10 { noted } rest
    exponentAndEnd start found.noted found.rest
  | _ => exponentAndEnd start noted chars

/-- A decimal number; one that starts with a superfluous zero is an octal number if it can be. -/
def decimalNumber (isTyped : Bool) (chars : List Char) : Scanned :=
  let found := digits 10 {} chars
  let isShort := chars.length - found.rest.length ≤ 1
  match found.rest with
  | 'n' :: rest => (.bigint (consumed chars rest), found.noted, rest)
  | rest =>
    if chars.head? != some '0' || isShort then fractionAndEnd chars found.noted rest
    else if found.isZero || !found.isDecimal then
      let noted := noting found.noted (if isTyped then .legacyOctalNumber else .legacyOctal)
      endNumber chars noted rest
    else fractionAndEnd chars (noting found.noted .legacyDecimal) rest

def number (isTyped : Bool) (chars : List Char) : Scanned :=
  match chars with
  | '0' :: 'x' :: rest | '0' :: 'X' :: rest => radixNumber chars 16 rest
  | '0' :: 'o' :: rest | '0' :: 'O' :: rest => radixNumber chars 8 rest
  | '0' :: 'b' :: rest | '0' :: 'B' :: rest => radixNumber chars 2 rest
  | '.' :: _ => fractionAndEnd chars none chars
  | _ => decimalNumber isTyped chars

/-- The value of a number as it is shown in messages. -/
def shownValue (raw : String) : String :=
  match raw.toList with
  | '0' :: 'x' :: rest | '0' :: 'X' :: rest => ofWhole 16 rest
  | '0' :: 'o' :: rest | '0' :: 'O' :: rest => ofWhole 8 rest
  | '0' :: 'b' :: rest | '0' :: 'B' :: rest => ofWhole 2 rest
  | chars =>
    let isExponent (c : Char) : Bool := c == 'e' || c == 'E'
    let significand := chars.takeWhile (!isExponent ·)
    let places := ((significand.dropWhile (· != '.')).filter Char.isDigit).length
    let exponent := (chars.dropWhile (!isExponent ·)).drop 1
    let size : Int := spelled 10 exponent
    let power := (if exponent.head? == some '-' then -size else size) - places
    Text.Shortest.withoutExponent
      (Float.ofScientific (spelled 10 significand) (power < 0) power.natAbs)
where
  ofWhole (radix : Nat) (chars : List Char) : String :=
    Text.Shortest.withoutExponent (Float.ofScientific (spelled radix chars) false 0)

def shownWhole (raw : String) : String :=
  let value :=
    match raw.toList with
    | '0' :: 'x' :: rest | '0' :: 'X' :: rest => spelled 16 rest
    | '0' :: 'o' :: rest | '0' :: 'O' :: rest => spelled 8 rest
    | '0' :: 'b' :: rest | '0' :: 'B' :: rest => spelled 2 rest
    | chars => spelled 10 chars
  String.ofList (Nat.toDigits 10 value)

/-- The punctuation of the language, longer marks before the marks they start with. -/
def marks : List String :=
  [">>>=", "...", "===", "!==", "**=", "<<=", ">>=", ">>>", "&&=", "||=", "??=",
   "=>", "==", "!=", "<=", ">=", "&&", "||", "??", "++", "--", "+=", "-=", "*=", "/=", "%=",
   "&=", "|=", "^=", "<<", ">>", "**", "?.",
   "\x7b", "\x7d", "(", ")", "[", "]", ";", ",", "<", ">", "+", "-", "*", "/", "%", "&", "|",
   "^", "!", "~", "?", ":", "=", ".", "@", "#", "`"]

def mark? (chars : List Char) : Option (String × List Char) :=
  match marks.find? (fun mark => mark.toList.isPrefixOf chars) with
  | none => none
  | some "?." =>
    match chars with
    | '?' :: '.' :: d :: _ =>
      if d.isDigit then some ("?", chars.drop 1) else some ("?.", chars.drop 2)
    | _ => some ("?.", chars.drop 2)
  | some mark => some (mark, chars.drop mark.length)

def token (isTyped : Bool) (chars : List Char) : Scanned :=
  match chars with
  | [] => (.eof, none, [])
  | c :: rest =>
    if c == '"' || c == '\'' then
      match stringValue c ⟨[], none⟩ rest with
      | .ok (value, noted, after) => (.text ⟨value, some (consumed chars after)⟩, noted, after)
      | .error (error, after) => faulty error after
    else if c.isDigit || (c == '.' && (rest.take 1).any Char.isDigit) then number isTyped chars
    else if c == '\\' || Text.isIdentifierStart c then word chars
    else
      match mark? chars with
      | some (text, after) => (.punct text, none, after)
      | none => faulty (.unexpectedCharacter (Text.shownChar c)) rest

/-- A mark at the front of a text that turns its line into a comment, and the error that it is. -/
def lineMark? (newline : Bool) (chars : List Char) : Option ParseError :=
  let startsWith (mark : String) : Bool := mark.toList.isPrefixOf chars
  if startsWith "<!--" then some .legacyComment
  else if !newline then none
  else if startsWith "-->" then some .legacyComment
  else if startsWith "<<<<<<< " || startsWith "=======" || startsWith ">>>>>>> " then
    some .conflictMarker
  else none

end Lexer

def Token.shown : Token → String
  | .word name => name
  | .punct mark => mark
  | .number raw => "numeric literal (" ++ Lexer.shownValue raw ++ ", " ++ raw ++ ")"
  | .bigint raw => "bigint literal (" ++ Lexer.shownWhole raw ++ ", " ++ raw ++ ")"
  | .text literal =>
    "string literal (" ++ literal.value ++ ", " ++ literal.raw.getD literal.value ++ ")"
  | .fault error => "<lexing error: " ++ error.message ++ ">"
  | .eof => "<eof>"

structure Lexed where
  token : Token
  newline : Bool
  /-- The first error in front of the token or in it that leaves it intact. -/
  noted : Option ParseError
  start : List Char
  rest : List Char
  before : List Char := []
  deriving Inhabited

namespace Lexed

/-- The first token of a text; `fuel` bounds the marks that turn their line into a comment. -/
def within (isTyped : Bool) : Nat → Bool → Option ParseError → List Char → Lexed
  | 0, newline, noted, _ => { token := .eof, newline, noted, start := [], rest := [] }
  | fuel + 1, newline, noted, chars =>
    let gap := Lexer.skipGap newline .spaces chars
    if gap.isOpen then
      let noted := Lexer.noting noted .unterminatedComment
      { token := .eof, newline := gap.newline, noted, start := [], rest := [] }
    else
      match Lexer.lineMark? gap.newline gap.rest with
      | some error =>
        within isTyped fuel gap.newline (Lexer.noting noted error)
          (gap.rest.dropWhile (!Lexer.isLineEnd ·))
      | none =>
        let (token, inside, rest) := Lexer.token isTyped gap.rest
        { token, newline := gap.newline, noted := noted <|> inside, start := gap.rest, rest }

/-- The first token of a text. -/
def ofChars (isTyped : Bool) (chars : List Char) : Lexed :=
  { within isTyped (chars.length + 1) false none chars with before := chars }

/-- The first token of a module, which counts as standing behind a line break. -/
def first (isTyped : Bool) (chars : List Char) : Lexed :=
  within isTyped (chars.length + 1) true none chars

end Lexed

end StyleInline.Script
