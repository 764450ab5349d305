import StyleInline.Stylesheet.Numeric
import StyleInline.Text.Shown

/-!
# Faults in stylesheets

Why a stylesheet cannot be read, and where.
-/

namespace StyleInline.Stylesheet

inductive Problem where
  | endOfInput
  | emptySelector
  | danglingCombinator
  | className (token : Token)
  | pseudoName (token : Token)
  | attributeName (token : Token)
  | attributeToken (token : Token)
  | attributeValue (token : Token)
  | attributeQualifier (token : Token)
  | attributeBar (token : Token)
  | namespaceToken (token : Token)
  | invalidState
  | behindElement (token : Token)
  | classBehindElement
  | classBehindScrollbar
  | classOfScrollbar
  | unexpected (token : Token)
  | importTooLate
  | namespaceTooLate
  | invalidMediaQuery
  | unknownRule (name : String)
  | invalidBody
  | invalidValue
  | invalidDeclaration
  | invalidPageSelector
  /-- A selector that has to name the elements around it does not. -/
  | missingOuter
  deriving DecidableEq, Repr, Inhabited

structure Fault where
  problem : Problem
  place : Place
  deriving DecidableEq, Repr, Inhabited

namespace Number

/-- How a number is told in a message, with the name and the value that it is kept by. -/
def told (number : Number) (name : String) (value : Float32) : String :=
  let whole :=
    match number.int? with
    | some whole => "Some(" ++ toString whole ++ ")"
    | none => "None"
  "has_sign: " ++ (if number.sign.isSome then "true" else "false") ++ ", " ++ name ++ ": " ++
    Numeric.told value ++ ", int_value: " ++ whole

end Number

namespace Token

def told : Token → String
  | .ident name => "Ident(" ++ Text.shown name ++ ")"
  | .function name => "Function(" ++ Text.shown name ++ ")"
  | .at name => "AtKeyword(" ++ Text.shown name ++ ")"
  | .hash name true => "IDHash(" ++ Text.shown name ++ ")"
  | .hash name false => "Hash(" ++ Text.shown name ++ ")"
  | .text value => "String(" ++ Text.shown value ++ ")"
  | .url value => "UnquotedUrl(" ++ Text.shown value ++ ")"
  | .badText content => "BadString(" ++ Text.shown content ++ ")"
  | .badUrl content => "BadUrl(" ++ Text.shown content ++ ")"
  | .delim c => "Delim('" ++ c.toString ++ "')"
  | .number value => "Number \x7b " ++ value.told "value" value.single ++ " \x7d"
  | .percentage value =>
    "Percentage \x7b " ++ value.told "unit_value" (value.double / 100).toFloat32 ++ " \x7d"
  | .dimension value unit =>
    "Dimension \x7b " ++ value.told "value" value.single ++ ", unit: " ++ Text.shown unit ++ " \x7d"
  | .blank content => "WhiteSpace(" ++ Text.shown content ++ ")"
  | .comment content => "Comment(" ++ Text.shown content ++ ")"
  | .matching '~' => "IncludeMatch"
  | .matching '|' => "DashMatch"
  | .matching '^' => "PrefixMatch"
  | .matching '$' => "SuffixMatch"
  | .matching _ => "SubstringMatch"
  | .commentOpen => "CDO"
  | .commentClose => "CDC"
  | .colon => "Colon"
  | .semicolon => "Semicolon"
  | .comma => "Comma"
  | .opening .paren => "ParenthesisBlock"
  | .opening .square => "SquareBracketBlock"
  | .opening .curly => "CurlyBracketBlock"
  | .closing .paren => "CloseParenthesis"
  | .closing .square => "CloseSquareBracket"
  | .closing .curly => "CloseCurlyBracket"

end Token

namespace Problem

def message : Problem → String
  | .endOfInput => "Unexpected end of input"
  | .emptySelector => "Invalid empty selector"
  | .danglingCombinator => "Invalid dangling combinator in selector"
  | .className token => "Expected identifier in class selector, got " ++ token.told
  | .pseudoName token => "Invalid token in pseudo element: " ++ token.told
  | .attributeName token => "No qualified name in attribute selector: " ++ token.told ++ "."
  | .attributeToken token => "Unexpected token in attribute selector: " ++ token.told
  | .attributeValue token => "Invalid value in attribute selector: " ++ token.told
  | .attributeQualifier token => "Invalid qualified name in attribute selector: " ++ token.told
  | .attributeBar token => "Expected | in attribute, got " ++ token.told
  | .namespaceToken token => "Unexpected token in namespace selector: " ++ token.told
  | .invalidState => "Invalid state"
  | .behindElement token =>
    "Pseudo-elements like '::before' or '::after' can't be followed by selectors like '" ++
      token.told ++ "'"
  | .classBehindElement =>
    "Invalid pseudo class after pseudo element, only user action pseudo classes (e.g. " ++
      ":hover, :active) are valid"
  | .classBehindScrollbar => "Invalid pseudo class after ::-webkit-scrollbar pseudo element"
  | .classOfScrollbar =>
    "Pseudo class must be prefixed by a ::-webkit-scrollbar pseudo element"
  | .unexpected token => "Unexpected token " ++ token.told
  | .importTooLate =>
    "@import rules must precede all rules aside from @charset and @layer statements"
  | .namespaceTooLate =>
    "@namespaces rules must precede all rules aside from @charset, @import, and @layer statements"
  | .invalidMediaQuery => "Invalid media query"
  | .unknownRule name => "Unknown at rule: @" ++ name
  | .invalidBody => "Invalid @ rule body"
  | .invalidValue => "Invalid value"
  | .invalidDeclaration => "Invalid declaration"
  | .invalidPageSelector => "Invalid page selector"
  | .missingOuter =>
    "A nesting selector (&) is required in each selector of a @nest rule"

end Problem

def Fault.ofLeft (parts : List Part) : Except Fault Unit :=
  match Part.dropBlank parts with
  | [] => .ok ()
  | part :: _ => .error ⟨.unexpected part.first.token, Part.placeOf part.place parts⟩

/-- The next part is not what was waited for, or there is none. -/
def Fault.ofNext (stop : Place) (parts : List Part) : Fault :=
  match Part.dropBlank parts with
  | [] => ⟨.endOfInput, stop⟩
  | part :: _ => ⟨.unexpected part.first.token, Part.placeOf part.place parts⟩

/-- The next part was read, but it is not what was waited for. -/
def Fault.behindNext (stop : Place) (parts : List Part) : Fault :=
  match Part.dropBlank parts with
  | [] => ⟨.endOfInput, stop⟩
  | part :: rest => ⟨.unexpected part.first.token, Part.placeOf stop rest⟩

def Fault.message (file : String) (fault : Fault) : String :=
  "Failed to parse CSS " ++ file ++ ": " ++ fault.problem.message ++ " at " ++ file ++ ":" ++
    toString fault.place.line ++ ":" ++ toString fault.place.column

end StyleInline.Stylesheet
