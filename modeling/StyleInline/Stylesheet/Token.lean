/-!
# Tokens of stylesheets

A stylesheet is cut into tokens, each with the place where it starts.  A comment is a token that
counts as white space.
-/

namespace StyleInline.Stylesheet

/-- A place in a text; lines count from zero and columns from one, in units of 16 bits. -/
structure Place where
  line : Nat
  column : Nat
  deriving DecidableEq, Repr, Inhabited

def Place.after (place : Place) (c : Char) : Place :=
  if c = '\n' then ⟨place.line + 1, 1⟩
  else ⟨place.line, place.column + (if c.toNat < 0x10000 then 1 else 2)⟩

/-- A number as it is written: its sign if it has one, and its digits around the point. -/
structure Number where
  sign : Option Char
  whole : List Char
  fraction : List Char
  exponent : Option Int
  deriving DecidableEq, Repr, Inhabited

inductive Bracket where
  | paren
  | square
  | curly
  deriving DecidableEq, Repr, Inhabited

inductive Token where
  | ident (name : String)
  | function (name : String)
  | at (name : String)
  | hash (name : String) (isName : Bool)
  | text (value : String)
  | url (value : String)
  | badText (content : String)
  | badUrl (content : String)
  | delim (c : Char)
  | number (value : Number)
  | percentage (value : Number)
  | dimension (value : Number) (unit : String)
  | blank (text : String)
  | comment (content : String)
  | matching (c : Char)
  | commentOpen
  | commentClose
  | colon
  | semicolon
  | comma
  | opening (bracket : Bracket)
  | closing (bracket : Bracket)
  deriving DecidableEq, Repr, Inhabited

structure Placed where
  token : Token
  place : Place
  deriving DecidableEq, Repr, Inhabited

namespace Lexer

def isBlank (c : Char) : Bool := c == ' ' || c == '\t' || c == '\n'

def isNameStart (c : Char) : Bool := c.isAlpha || c == '_' || 128 ≤ c.toNat

def isNameChar (c : Char) : Bool := isNameStart c || c.isDigit || c == '-'

def startsEscape : List Char → Bool
  | '\\' :: '\n' :: _ => false
  | '\\' :: _ => true
  | _ => false

def startsName : List Char → Bool
  | '-' :: '-' :: _ => true
  | '-' :: c :: rest => isNameStart c || startsEscape (c :: rest)
  | c :: rest => isNameStart c || startsEscape (c :: rest)
  | [] => false

def startsNumber : List Char → Bool
  | '+' :: '.' :: c :: _ => c.isDigit
  | '-' :: '.' :: c :: _ => c.isDigit
  | '+' :: c :: _ => c.isDigit
  | '-' :: c :: _ => c.isDigit
  | '.' :: c :: _ => c.isDigit
  | c :: _ => c.isDigit
  | [] => false

def hexValue? (c : Char) : Option Nat :=
  if '0' ≤ c ∧ c ≤ '9' then some (c.toNat - '0'.toNat)
  else if 'a' ≤ c ∧ c ≤ 'f' then some (c.toNat - 'a'.toNat + 10)
  else if 'A' ≤ c ∧ c ≤ 'F' then some (c.toNat - 'A'.toNat + 10)
  else none

def escaped : List Char → Char × List Char
  | [] => (Char.ofNat 0xFFFD, [])
  | c :: rest =>
    match hexValue? c with
    | none => (c, rest)
    | some _ =>
      let digits := ((c :: rest).take 6).takeWhile (hexValue? · |>.isSome)
      let behind := (c :: rest).drop digits.length
      let code := (digits.filterMap hexValue?).foldl (fun code digit => 16 * code + digit) 0
      let behind :=
        match behind with
        | b :: more => if isBlank b then more else b :: more
        | [] => []
      (if code != 0 && code.isValidChar then Char.ofNat code else Char.ofNat 0xFFFD, behind)

def name : Nat → List Char → List Char × List Char
  | 0, chars => ([], chars)
  | fuel + 1, chars =>
    match chars with
    | [] => ([], [])
    | c :: rest =>
      if isNameChar c then
        let (found, behind) := name fuel rest
        (c :: found, behind)
      else if startsEscape chars then
        let (value, behind) := escaped rest
        let (found, behind) := name fuel behind
        (value :: found, behind)
      else ([], chars)

def nameOf (chars : List Char) : String × List Char :=
  let (found, behind) := name chars.length chars
  (String.ofList found, behind)

/-- The rest of a string up to its quote; `none` if a line ends before it. -/
def quoted (quote : Char) : Nat → List Char → Option (List Char) × List Char
  | 0, chars => (some [], chars)
  | fuel + 1, chars =>
    match chars with
    | [] => (some [], [])
    | '\n' :: _ => (none, chars)
    | '\\' :: [] => (some [], [])
    | '\\' :: '\n' :: rest => quoted quote fuel rest
    | '\\' :: rest =>
      let (value, behind) := escaped rest
      let (found, behind) := quoted quote fuel behind
      (found.map (value :: ·), behind)
    | c :: rest =>
      if c = quote then (some [], rest)
      else
        let (found, behind) := quoted quote fuel rest
        (found.map (c :: ·), behind)

def numberOf (chars : List Char) : Number × List Char :=
  let (sign, chars) :=
    match chars with
    | '+' :: rest => (some '+', rest)
    | '-' :: rest => (some '-', rest)
    | chars => (none, chars)
  let whole := chars.takeWhile Char.isDigit
  let chars := chars.drop whole.length
  let fraction :=
    match chars with
    | '.' :: rest => rest.takeWhile Char.isDigit
    | _ => []
  let chars := if fraction.isEmpty then chars else chars.drop (fraction.length + 1)
  let exponentDigits (sign : Int) (digits behind : List Char) : Option (Int × List Char) :=
    let found := digits.takeWhile Char.isDigit
    if found.isEmpty then none
    else
      let value := found.foldl (fun value c => 10 * value + (c.toNat - '0'.toNat)) 0
      some (sign * value, behind.drop found.length)
  let exponent? :=
    match chars with
    | e :: '+' :: rest => if e == 'e' || e == 'E' then exponentDigits 1 rest rest else none
    | e :: '-' :: rest => if e == 'e' || e == 'E' then exponentDigits (-1) rest rest else none
    | e :: rest => if e == 'e' || e == 'E' then exponentDigits 1 rest rest else none
    | [] => none
  match exponent? with
  | some (exponent, behind) => (⟨sign, whole, fraction, some exponent⟩, behind)
  | none => (⟨sign, whole, fraction, none⟩, chars)

def comment : List Char → List Char × List Char
  | '*' :: '/' :: rest => ([], rest)
  | c :: rest =>
    let (found, behind) := comment rest
    (c :: found, behind)
  | [] => ([], [])

def badAddress (isEscaped : Bool) : List Char → List Char × List Char
  | [] => ([], [])
  | c :: rest =>
    if c == ')' && !isEscaped then ([], rest)
    else
      let (found, behind) := badAddress (c == '\\' && !isEscaped) rest
      (c :: found, behind)

def isBarredFromAddress (c : Char) : Bool :=
  c == '"' || c == '\'' || c == '(' || c == '\x7f' || (c.toNat < 32 && !isBlank c)

def address : Nat → List Char → Option (List Char) × List Char
  | 0, chars => (some [], chars)
  | fuel + 1, chars =>
    match chars with
    | [] => (some [], [])
    | ')' :: rest => (some [], rest)
    | c :: rest =>
      if isBlank c then
        match rest.dropWhile isBlank with
        | [] => (some [], [])
        | ')' :: behind => (some [], behind)
        | _ => (none, chars)
      else if isBarredFromAddress c then (none, chars)
      else if startsEscape chars then
        let (value, behind) := escaped rest
        let (found, behind) := address fuel behind
        (found.map (value :: ·), behind)
      else
        let (found, behind) := address fuel rest
        (found.map (c :: ·), behind)

def nameToken (chars : List Char) : Token × List Char :=
  let (name, behind) := nameOf chars
  match behind with
  | '(' :: rest =>
    if name.toLower == "url" then
      match rest.dropWhile isBlank with
      | '"' :: _ => (.function name, rest)
      | '\'' :: _ => (.function name, rest)
      | inner =>
        match address inner.length inner with
        | (some value, behind) => (.url (String.ofList value), behind)
        | (none, _) =>
          let (content, behind) := badAddress false inner
          (.badUrl (String.ofList content), behind)
    else (.function name, rest)
  | behind => (.ident name, behind)

def numberToken (chars : List Char) : Token × List Char :=
  let (value, behind) := numberOf chars
  match behind with
  | '%' :: rest => (.percentage value, rest)
  | behind =>
    if startsName behind then
      let (unit, behind) := nameOf behind
      (.dimension value unit, behind)
    else (.number value, behind)

def textToken (quote : Char) (chars : List Char) : Token × List Char :=
  match quoted quote chars.length chars with
  | (some value, behind) => (.text (String.ofList value), behind)
  | (none, behind) =>
    let content := chars.take (chars.length - behind.length)
    (.badText (String.ofList content), behind)

def charToken : Char → Token
  | ':' => .colon
  | ';' => .semicolon
  | ',' => .comma
  | '(' => .opening .paren
  | ')' => .closing .paren
  | '[' => .opening .square
  | ']' => .closing .square
  | '{' => .opening .curly
  | '}' => .closing .curly
  | c => .delim c

def next (c : Char) (rest : List Char) : Token × List Char :=
  let chars := c :: rest
  if isBlank c then
    (.blank (String.ofList (chars.takeWhile isBlank)), chars.dropWhile isBlank)
  else if startsNumber chars then numberToken chars
  else if startsName chars && !(c == '-' && rest.take 2 == ['-', '>']) then nameToken chars
  else
    match c, rest with
    | '/', '*' :: behind =>
      let (content, behind) := comment behind
      (.comment (String.ofList content), behind)
    | '"', rest => textToken '"' rest
    | '\'', rest => textToken '\'' rest
    | '#', rest =>
      if rest.head?.any isNameChar || startsEscape rest then
        let (name, behind) := nameOf rest
        (.hash name (startsName rest), behind)
      else (.delim '#', rest)
    | '@', rest =>
      if startsName rest then
        let (name, behind) := nameOf rest
        (.at name, behind)
      else (.delim '@', rest)
    | '<', '!' :: '-' :: '-' :: behind => (.commentOpen, behind)
    | '-', '-' :: '>' :: behind => (.commentClose, behind)
    | c, '=' :: behind =>
      if ['~', '|', '^', '$', '*'].contains c then (.matching c, behind)
      else (charToken c, rest)
    | c, rest => (charToken c, rest)

def placeAfter (place : Place) (chars : List Char) : Place := chars.foldl Place.after place

/-- The tokens of a text and the place of its end. -/
def tokens : Nat → List Char → Place → List Placed × Place
  | 0, _, place => ([], place)
  | _, [], place => ([], place)
  | fuel + 1, c :: rest, place =>
    let (token, behind) := next c rest
    let read := (c :: rest).take ((c :: rest).length - behind.length)
    let (found, stop) := tokens fuel behind (placeAfter place read)
    (⟨token, place⟩ :: found, stop)

def plainBreaks : List Char → List Char
  | '\r' :: '\n' :: rest => '\n' :: plainBreaks rest
  | '\r' :: rest => '\n' :: plainBreaks rest
  | '\x0c' :: rest => '\n' :: plainBreaks rest
  | '\x00' :: rest => Char.ofNat 0xFFFD :: plainBreaks rest
  | c :: rest => c :: plainBreaks rest
  | [] => []

/-- The tokens of a stylesheet and the place of its end. -/
def tokensOf (text : String) : List Placed × Place :=
  let chars := plainBreaks text.toList
  tokens (chars.length + 1) chars ⟨0, 1⟩

end Lexer

/-- Tokens with their brackets closed: a token, or a bracket with what it holds. -/
inductive Part where
  | leaf (placed : Placed)
  /-- `stop` is the place of the closing bracket. -/
  | block (opening : Placed) (inner : List Part) (stop : Place)
  deriving Repr, Inhabited

namespace Part

def first : Part → Placed
  | leaf placed => placed
  | block opening _ _ => opening

def place (part : Part) : Place := part.first.place

def isBlank : Part → Bool
  | leaf ⟨.blank _, _⟩ => true
  | leaf ⟨.comment _, _⟩ => true
  | _ => false

def isToken (token : Token) : Part → Bool
  | leaf placed => placed.token == token
  | block _ _ _ => false

/-- The number of tokens in parts; closing brackets are not counted. -/
def count : List Part → Nat
  | [] => 0
  | leaf _ :: rest => 1 + count rest
  | block _ inner _ :: rest => 1 + count inner + count rest

/-- Parts without the comments between and in them. -/
def withoutComments : List Part → List Part
  | [] => []
  | leaf ⟨.comment _, _⟩ :: rest => withoutComments rest
  | leaf placed :: rest => leaf placed :: withoutComments rest
  | block opening inner stop :: rest =>
    block opening (withoutComments inner) stop :: withoutComments rest

def dropBlank (parts : List Part) : List Part := parts.dropWhile isBlank

def trimmed (parts : List Part) : List Part := (dropBlank (dropBlank parts).reverse).reverse

/-- Where the first part starts, or where the parts end. -/
def placeOf (stop : Place) : List Part → Place
  | [] => stop
  | part :: _ => part.place

/-- The parts of a list, cut at a token; with each piece goes the place of the cut behind it. -/
def splitAt (token : Token) : List Part → List (List Part × Option Place)
  | [] => [([], none)]
  | part :: rest =>
    let others := splitAt token rest
    if part.isToken token then ([], some part.place) :: others
    else
      match others with
      | [] => [([part], none)]
      | (first, stop) :: more => (part :: first, stop) :: more

def closerOf : Token → Option Bracket
  | .opening bracket => some bracket
  | .function _ => some .paren
  | _ => none

/-- Groups tokens up to a closing bracket, if one is waited for, or up to the end. -/
def group (stop : Place) : Nat → Option Bracket → List Placed → List Part × Place × List Placed
  | 0, _, tokens => ([], stop, tokens)
  | _, _, [] => ([], stop, [])
  | fuel + 1, closer, placed :: rest =>
    if closer.any fun bracket => placed.token == .closing bracket then ([], placed.place, rest)
    else
      match closerOf placed.token with
      | some bracket =>
        let (inner, innerStop, rest) := group stop fuel (some bracket) rest
        let (parts, outerStop, rest) := group stop fuel closer rest
        (block placed inner innerStop :: parts, outerStop, rest)
      | none =>
        let (parts, outerStop, rest) := group stop fuel closer rest
        (leaf placed :: parts, outerStop, rest)

/-- The parts of a stylesheet and the place of its end. -/
def ofText (text : String) : List Part × Place :=
  let (tokens, stop) := Lexer.tokensOf text
  let (parts, _, _) := group stop (tokens.length + 1) none tokens
  (parts, stop)

end Part

end StyleInline.Stylesheet
