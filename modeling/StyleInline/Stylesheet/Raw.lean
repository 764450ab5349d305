import StyleInline.Stylesheet.ColorFunction
import StyleInline.Stylesheet.Fault

/-!
# Raw values

A value whose meaning is not known, such as one that refers to a custom property, is kept token by
token.  Blanks that separate nothing are left out, and colours get their shortest spelling.
-/

namespace StyleInline.Stylesheet

inductive RawItem where
  | plain (text : Spaced)
  /-- A function or a closing bracket, behind which a blank is pleasant. -/
  | closed (text : Spaced) (isParen : Bool)
  | delim (c : Char)
  | comma
  | blank
  deriving BEq, Repr, Inhabited

namespace Raw

open StyleInline.Stylesheet (RawItem)

def bracketTexts : Bracket → String × String
  | .paren => ("(", ")")
  | .square => ("[", "]")
  | .curly => ("\x7b", "\x7d")

/-- A percentage as it is written, with what shows that it is no whole number. -/
def percentageText (value : Number) : String :=
  let amount := (value.double / 100).toFloat32 * 100
  let text := Numeric.full amount
  let isWritten := value.int?.isSome || text.any fun c => c == '.' || c == 'e'
  (if value.sign == some '+' then "+" else "") ++ text ++ (if isWritten then "" else ".0") ++ "%"

/-- A number with a unit as it is written; a zero keeps its unit. -/
def dimensionText (value : Float32) (unit : String) : Spaced :=
  let lower := unit.toLower
  match Measure.ofUnit? lower with
  | some .length => Spaced.ofText (Numeric.dimension value lower)
  | some .share | none => Spaced.ofText (Numeric.dimension value unit)
  | some measure => Quantity.measuredText measure value lower

def leafText : Token → Spaced
  | .ident name => Spaced.ofText (Written.name name)
  | .at name => Spaced.ofText ("@" ++ Written.name name)
  | .hash digits _ =>
    match Color.ofHex? digits with
    | some color => Spaced.ofColor color
    | none => Spaced.ofText ("#" ++ Written.name digits)
  | .text value => Spaced.ofText (Written.text value)
  | .url value => [Written.address value]
  | .number value => Spaced.ofText (Numeric.text value.single)
  | .percentage value => Spaced.ofText (percentageText value)
  | .dimension value unit => dimensionText value.single unit
  | .matching c => Spaced.ofText (c.toString ++ "=")
  | .commentOpen => Spaced.ofText "<!--"
  | .commentClose => Spaced.ofText "-->"
  | .colon => Spaced.ofText ":"
  | .semicolon => Spaced.ofText ";"
  | _ => []

def isBroken : Token → Bool
  | .badText _ | .badUrl _ | .closing _ => true
  | _ => false

/-- Behind blanks that are left out, a delimiter or a comma. -/
def startsWithMark : List Part → Bool
  | .leaf ⟨.delim _, _⟩ :: _ => true
  | .leaf ⟨.comma, _⟩ :: _ => true
  | _ => false

def trimmed (items : List RawItem) : List RawItem :=
  if items.length < 2 then items
  else
    let items := if items.head? == some .blank then items.drop 1 else items
    if items.getLast? == some .blank then items.dropLast else items

def gapBefore : List RawItem → Spaced
  | [] => []
  | .comma :: _ => []
  | .closed [.text ")"] true :: _ => []
  | _ => [.gap]

/-- Items as they are written; `hasBlank` tells that a blank stands before. -/
def textBehind (hasBlank : Bool) : List RawItem → Spaced
  | [] => []
  | .plain text :: rest => text ++ textBehind false rest
  | .blank :: rest => .text " " :: textBehind true rest
  | .comma :: rest => .text "," :: .gap :: textBehind true rest
  | .closed text _ :: rest =>
    let gap := gapBefore rest
    text ++ gap ++ textBehind (!gap.isEmpty) rest
  | .delim c :: rest =>
    let shown : Spaced :=
      if c == '+' || c == '-' then
        (if hasBlank then [.either "" " "] else [.text " "]) ++ [.text (c.toString ++ " ")]
      else if !hasBlank && (c == '/' || c == '*') then [.gap, .text c.toString, .gap]
      else [.text c.toString, .gap]
    shown ++ textBehind true rest

def text (items : List RawItem) : Spaced :=
  match trimmed items with
  | [.blank] => [.either "" " "]
  | items => textBehind false items

def colorOf? (part : Part) : Option Color := Grammar.whole? Color.grammar [part]

/-- A function whose arguments are written by themselves. -/
def callText (name : String) (inner : List Part) (arguments : Spaced) : Spaced :=
  match name, inner with
  | "url", [.leaf ⟨.text value, _⟩] => [Written.address value]
  | name, _ => Spaced.call (Written.name name) arguments

/-- A colour with an opacity that is not known. -/
def veiledText (name : String) (channels : List String) (opacity : Spaced) : Spaced :=
  let modern := Spaced.call name (.text (" ".intercalate channels) :: Spaced.slash ++ opacity)
  let plain :=
    Spaced.call (name ++ "a") (Spaced.listed (channels.map Spaced.ofText ++ [opacity]))
  [.choice .spacedColors modern plain]

def themesText (light dark : Spaced) : Spaced :=
  let one (name : String) (value : Spaced) : Spaced :=
    Spaced.call "var" (Spaced.listed [Spaced.ofText name, value])
  let plain := one "--lightningcss-light" light ++ [.gap] ++ one "--lightningcss-dark" dark
  [.choice .lightDark (Spaced.call "light-dark" (Spaced.listed [light, dark])) plain]

def colorText? (name : String) (inner : List Part) (found : List RawItem) : Option Spaced :=
  if name == "light-dark" then
    match found.span (· != .comma) with
    | (light, _ :: dark) => some (themesText (text light) (text dark))
    | _ => none
  else do
    let channels ← Color.beforeSlash? name inner
    return veiledText name channels (text ((found.dropWhile (· != .delim '/')).drop 1))

/-- The items of a value; `isBehindMark` tells that a blank at the start separates nothing. -/
def items (isBehindMark : Bool) : List Part → Except Fault (List RawItem)
  | [] => .ok []
  | .leaf ⟨.blank _, _⟩ :: rest | .leaf ⟨.comment _, _⟩ :: rest => do
    let behind ← items isBehindMark rest
    return if isBehindMark || startsWithMark rest then behind else .blank :: behind
  | .leaf ⟨.comma, _⟩ :: rest => return .comma :: (← items true rest)
  | .leaf ⟨.delim c, _⟩ :: rest => return .delim c :: (← items true rest)
  | .leaf ⟨token, place⟩ :: rest =>
    if isBroken token then .error ⟨.unexpected token, place⟩
    else return .plain (leafText token) :: (← items false rest)
  | .block ⟨.function name, place⟩ inner stop :: rest => do
    match colorOf? (.block ⟨.function name, place⟩ inner stop) with
    | some color => return .plain (Spaced.ofColor color) :: (← items false rest)
    | none =>
      let found ← items false inner
      if let some shown := colorText? name.toLower inner found then
        return .plain shown :: (← items true rest)
      let shown := callText name inner (text found)
      return (if name == "url" then .plain shown else .closed shown false) ::
        (← items (name != "url") rest)
  | .block ⟨.opening bracket, _⟩ inner _ :: rest => do
    let (opening, closing) := bracketTexts bracket
    let found ← items false inner
    return .plain (Spaced.ofText opening) :: found ++
      .closed (Spaced.ofText closing) (bracket == .paren) :: (← items true rest)
  | .block _ inner _ :: rest => return (← items false inner) ++ (← items false rest)

def numberSource (value : Number) : String :=
  let fraction := if value.fraction.isEmpty then [] else '.' :: value.fraction
  let exponent := (value.exponent.map fun exponent => "e" ++ toString exponent).getD ""
  String.ofList (value.sign.toList ++ value.whole ++ fraction) ++ exponent

def leafSource : Token → String
  | .ident name => Written.name name
  | .at name => "@" ++ Written.name name
  | .hash name _ => "#" ++ Written.name name
  | .text value => Written.text value
  | .url value => "url(" ++ value ++ ")"
  | .delim c => c.toString
  | .number value => numberSource value
  | .percentage value => numberSource value ++ "%"
  | .dimension value unit => numberSource value ++ unit
  | .blank content => content
  | .comment content => "/*" ++ content ++ "*/"
  | .matching c => c.toString ++ "="
  | .commentOpen => "<!--"
  | .commentClose => "-->"
  | .colon => ":"
  | .semicolon => ";"
  | .comma => ","
  | _ => ""

def source : List Part → String
  | [] => ""
  | .leaf ⟨token, _⟩ :: rest => leafSource token ++ source rest
  | .block ⟨.function name, _⟩ inner _ :: rest =>
    Written.name name ++ "(" ++ source inner ++ ")" ++ source rest
  | .block ⟨.opening bracket, _⟩ inner _ :: rest =>
    let (opening, closing) := bracketTexts bracket
    opening ++ source inner ++ closing ++ source rest
  | .block _ inner _ :: rest => source inner ++ source rest

/-- A value that is kept token by token. -/
def ofParts (parts : List Part) : Except Fault Spaced := text <$> items false parts

end Raw

end StyleInline.Stylesheet
