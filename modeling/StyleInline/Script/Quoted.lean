import StyleInline.Script.Token

/-!
# Quoted strings

How a text is written as a string literal when it has no spelling of its own.  Double
quotes are taken unless the text holds more of them than of single ones.
-/

namespace StyleInline.Script.Quoted

def quoteFor (chars : List Char) : Char :=
  if chars.count '\'' < chars.count '"' then '\'' else '"'

def hexByte (code : Nat) : List Char :=
  let digits := Nat.toDigits 16 code
  List.replicate (2 - digits.length) '0' ++ digits

def spellsSurrogate : List Char → Bool
  | a :: b :: c :: d :: _ =>
    match Lexer.hexNumber? [a, b, c, d] with
    | some code => Lexer.isSurrogate code
    | none => false
  | _ => false

/-- What stands behind a backslash makes it the escape of a surrogate, with or without a brace. -/
def startsSurrogate : List Char → Bool
  | 'u' :: '{' :: rest => spellsSurrogate rest
  | 'u' :: rest => spellsSurrogate rest
  | _ => false

def escape (quote c : Char) (rest : List Char) : List Char :=
  if c = '\x00' then
    match rest with
    | d :: _ => if d.isDigit then "\\x00".toList else "\\0".toList
    | [] => "\\0".toList
  else if c = '\x08' then "\\b".toList
  else if c = '\x0c' then "\\f".toList
  else if c = '\n' then "\\n".toList
  else if c = '\r' then "\\r".toList
  else if c = '\x0b' then "\\v".toList
  else if c = '\t' then ['\t']
  else if c = '\\' then (if startsSurrogate rest then ['\\'] else ['\\', '\\'])
  else if c = quote then ['\\', c]
  else if c.toNat < 32 then '\\' :: 'x' :: hexByte c.toNat
  else if c = '\u2028' then "\\u2028".toList
  else if c = '\u2029' then "\\u2029".toList
  else if c = '\ufeff' then "\\uFEFF".toList
  else [c]

def escapeAll (quote : Char) : List Char → List Char
  | [] => []
  | c :: rest => escape quote c rest ++ escapeAll quote rest

/-- A text as a string literal. -/
def quoted (value : String) : String :=
  let chars := value.toList
  let quote := quoteFor chars
  String.ofList (quote :: escapeAll quote chars ++ [quote])

end StyleInline.Script.Quoted
