import StyleInline.Stylesheet.Fault
import StyleInline.Stylesheet.Property
import StyleInline.Stylesheet.Sign

/-!
# Media queries

A query names a kind of medium and asks for features of it in parentheses.  A bound on a feature
is written with a comparison sign, or as the least or the greatest value where signs are not known
to every browser.  Containers are asked in the same way.
-/

namespace StyleInline.Stylesheet

inductive Question where
  | has (name : String)
  | equals (name : String) (value : Spaced)
  | compares (name : String) (sign : Sign) (value : Spaced)
  | between (name : String) (start : Spaced) (startSign endSign : Sign) (stop : Spaced)
  | style (text : Spaced)
  deriving BEq, Repr, Inhabited

inductive Condition where
  | one (question : Question)
  | not (inner : Condition)
  | all (conditions : List Condition)
  | any (conditions : List Condition)
  deriving BEq, Repr, Inhabited

structure MediaQuery where
  qualifier : Option String
  medium : String
  condition : Option Condition
  deriving BEq, Repr, Inhabited

namespace Question

def lengthNames : List String :=
  ["width", "height", "device-width", "device-height", "inline-size", "block-size"]

def ratioNames : List String := ["aspect-ratio", "device-aspect-ratio"]

def integerNames : List String :=
  ["color", "color-index", "monochrome", "horizontal-viewport-segments",
    "vertical-viewport-segments"]

def numberNames : List String := ["-webkit-device-pixel-ratio", "-moz-device-pixel-ratio"]

def wordNames : List String :=
  ["orientation", "overflow-block", "overflow-inline", "display-mode", "scan", "update",
    "environment-blending", "color-gamut", "dynamic-range", "inverted-colors", "pointer", "hover",
    "any-pointer", "any-hover", "nav-controls", "video-color-gamut", "video-dynamic-range",
    "scripting", "prefers-reduced-motion", "prefers-reduced-transparency", "prefers-contrast",
    "forced-colors", "prefers-color-scheme", "prefers-reduced-data"]

def isOrdered (name : String) : Bool :=
  !wordNames.contains name && name != "grid"

def isKnown (name : String) : Bool :=
  (lengthNames ++ ratioNames ++ integerNames ++ numberNames ++ wordNames).contains name ||
    name == "resolution" || name == "grid"

def wholeRatio : Grammar Spaced := do
  let first ← Quantity.numberValue
  Grammar.slash
  let second ← Quantity.numberValue
  return Property.numberText first ++
    if second == 1 then [] else Spaced.slash ++ Property.numberText second

def ratio : Grammar Spaced := wholeRatio <|> Property.number

def anyWord : Grammar Spaced := (Spaced.ofText ∘ Written.name) <$> Grammar.ident

def resolution : Grammar Spaced := Quantity.text <$> Quantity.resolution

def surrounding : Grammar Spaced := Grammar.mapped Grammar.next fun part =>
  match part with
  | .block ⟨.function "env", _⟩ _ _ => (Raw.ofParts [part]).toOption
  | _ => none

def value (name : String) : Grammar Spaced :=
  let known : Grammar Spaced :=
    if lengthNames.contains name then Property.length
    else if ratioNames.contains name then ratio
    else if integerNames.contains name then Property.integer
    else if numberNames.contains name then Property.number
    else if wordNames.contains name then anyWord
    else if name == "resolution" then resolution
    else if name == "grid" then Property.integer
    else Grammar.fail
  known <|> surrounding <|>
    if isKnown name then Grammar.fail
    else Grammar.oneOf [wholeRatio, Property.number, Property.length, resolution, anyWord]

def sign : Grammar Sign := do
  let opening ← Grammar.leaf fun
    | .delim c => some c
    | _ => none
  let hasEqual ← Grammar.perhaps (Grammar.token (.delim '='))
  match opening, hasEqual.isSome with
  | '=', false => return .equal
  | '<', false => return .less
  | '<', true => return .lessEqual
  | '>', false => return .greater
  | '>', true => return .greaterEqual
  | _, _ => Grammar.fail

/-- The feature that a name bounds, and the sign of the bound. -/
def bound? (name : String) : Option (String × Sign) :=
  let (before, rest) :=
    if name.startsWith "-webkit-" then ("-webkit-", (name.drop 8).toString) else ("", name)
  if rest.startsWith "min-" then some (before ++ (rest.drop 4).toString, .greaterEqual)
  else if rest.startsWith "max-" then some (before ++ (rest.drop 4).toString, .lessEqual)
  else none

def name : Grammar (String × Option Sign) := do
  let written ← Grammar.ident
  if written.startsWith "--" then return (written, none)
  else
    match bound? written.toLower with
    | some (name, sign) => return (name, some sign)
    | none => return (written.toLower, none)

def nameFirst : Grammar Question := do
  let (name, bound) ← name
  let sign ← Grammar.perhaps (some <$> sign <|> (Grammar.token .colon *> pure none))
  match sign, bound with
  | none, _ => return .has name
  | some (some sign), none =>
    if isOrdered name then return .compares name sign (← value name) else Grammar.fail
  | some none, some sign =>
    if isOrdered name then return .compares name sign (← value name) else Grammar.fail
  | some none, none => return .equals name (← value name)
  | _, some _ => Grammar.fail

/-- A question that starts with a value; `feature` is the name that comes behind. -/
def valueFirst (feature : String) : Grammar Question := do
  let start ← value feature
  let startSign ← sign
  let (name, bound) ← name
  if bound.isSome || !isOrdered name then Grammar.fail
  match ← Grammar.perhaps sign with
  | none => return .compares name startSign.opposite start
  | some endSign =>
    if startSign.agrees endSign then
      return .between name start startSign endSign (← value name)
    else Grammar.fail

def firstName? (parts : List Part) : Option String :=
  parts.findSome? fun part =>
    match part with
    | .leaf ⟨.ident name, _⟩ => some name.toLower
    | _ => none

def grammar : Grammar Question := do
  let parts ← get
  nameFirst <|>
    match firstName? parts with
    | some name => valueFirst name
    | none => Grammar.fail

/-- A bound on a feature, written as its least or its greatest value. -/
def boundText (isInside : Bool) (name : String) (sign : Sign) (value : Spaced) : Spaced :=
  let named (bound : String) : Spaced :=
    let shown :=
      if name.startsWith "-webkit-" then "-webkit-" ++ bound ++ (name.drop 8).toString
      else bound ++ name
    [.text ("(" ++ shown ++ ":"), .gap] ++ value ++ [.text ")"]
  let negated (bound : String) : Spaced :=
    let shown := Spaced.ofText "not " ++ named bound
    if isInside then Spaced.ofText "(" ++ shown ++ Spaced.ofText ")" else shown
  match sign with
  | .greaterEqual => named "min-"
  | .lessEqual => named "max-"
  | .greater => negated "max-"
  | .less => negated "min-"
  | .equal => named ""

def text (question : Question) : Spaced :=
  let signed (sign : Sign) : Spaced := [.gap, .text sign.text, .gap]
  let inParens (inner : Spaced) : Spaced := Spaced.ofText "(" ++ inner ++ Spaced.ofText ")"
  match question with
  | .has name => inParens (Spaced.ofText name)
  | .equals name value => inParens ([.text (name ++ ":"), .gap] ++ value)
  | .compares name sign value =>
    [.choice .mediaSigns (inParens (Spaced.ofText name ++ signed sign ++ value))
      (boundText false name sign value)]
  | .between name start startSign endSign stop =>
    let plain := boundText true name startSign.opposite start ++ Spaced.ofText " and " ++
      boundText true name endSign stop
    [.choice .mediaIntervals
      (inParens (start ++ signed startSign ++ Spaced.ofText name ++ signed endSign ++ stop)) plain]
  | .style text => text

end Question

namespace Condition

inductive Around where
  | nothing
  | conjunction
  | disjunction
  | negation
  deriving DecidableEq, Repr, Inhabited

/-- A condition in parentheses if it needs them where it stands. -/
def enclosed (needed : Bool) (text : Spaced) : Spaced :=
  if needed then Spaced.ofText "(" ++ text ++ Spaced.ofText ")" else text

/-- A question, in parentheses where it is written as several. -/
def questionText (around : Around) (question : Question) : Spaced :=
  match question with
  | .between _ _ _ _ _ =>
    if around == .conjunction || around == .nothing then question.text
    else [.choice .mediaIntervals question.text (enclosed true question.text)]
  | .compares _ sign _ =>
    if around == .nothing || (sign != .greater && sign != .less) then question.text
    else [.choice .mediaSigns question.text (enclosed true question.text)]
  | _ => question.text

mutual

def text (around : Around) : Condition → Spaced
  | .one question => questionText around question
  | .not inner =>
    enclosed (around != .nothing) (Spaced.ofText "not " ++ inner.text .negation)
  | .all conditions =>
    enclosed (around != .nothing && around != .conjunction)
      (Spaced.joined (Spaced.ofText " and ") (texts .conjunction conditions))
  | .any conditions =>
    enclosed (around != .nothing && around != .disjunction)
      (Spaced.joined (Spaced.ofText " or ") (texts .disjunction conditions))

def texts (around : Around) : List Condition → List Spaced
  | [] => []
  | first :: rest => first.text around :: texts around rest

end

def badQuestion (stop : Place) (parts : List Part) : Fault :=
  match Question.grammar parts with
  | some (_, left) => Fault.ofNext stop left
  | none =>
    match Part.dropBlank parts with
    | .leaf ⟨.ident name, place⟩ :: rest =>
      if (Question.bound? name.toLower).isSome then ⟨.invalidMediaQuery, Part.placeOf stop rest⟩
      else ⟨.unexpected (.ident name), Part.placeOf place parts⟩
    | inner =>
      if (Question.firstName? inner).isSome then Fault.ofNext stop parts
      else ⟨.invalidMediaQuery, stop⟩

def operator? (parts : List Part) : Option (Bool × List Part) :=
  match Part.dropBlank parts with
  | .leaf ⟨.ident name, _⟩ :: rest =>
    if name.toLower == "and" then some (true, rest)
    else if name.toLower == "or" then some (false, rest)
    else none
  | _ => none

mutual

/-- A condition, and the parts behind it; `asksStyles` allows questions about styles. -/
def read (asksStyles : Bool) (stop : Place) : Nat → List Part → Except Fault (Condition × List Part)
  | 0, _ => .error ⟨.endOfInput, stop⟩
  | fuel + 1, parts => do
    match Part.dropBlank parts with
    | .leaf ⟨.ident name, _⟩ :: rest =>
      if name.toLower == "not" then
        let (inner, rest) ← readBlock asksStyles stop fuel rest
        return (.not inner, rest)
      else .error (Fault.ofNext stop parts)
    | _ =>
      let (first, rest) ← readBlock asksStyles stop fuel parts
      match operator? rest with
      | none => return (first, rest)
      | some (isAnd, _) =>
        let (others, rest) ← readMore asksStyles stop isAnd fuel rest
        return (if isAnd then .all (first :: others) else .any (first :: others), rest)

def readMore (asksStyles : Bool) (stop : Place) (isAnd : Bool) :
    Nat → List Part → Except Fault (List Condition × List Part)
  | 0, parts => .ok ([], parts)
  | fuel + 1, parts =>
    match operator? parts with
    | some (found, rest) =>
      if found != isAnd then .ok ([], parts)
      else do
        let (first, rest) ← readBlock asksStyles stop fuel rest
        let (others, rest) ← readMore asksStyles stop isAnd fuel rest
        return (first :: others, rest)
    | none => .ok ([], parts)

/-- A condition or a question in parentheses, or a question about a style. -/
def readBlock (asksStyles : Bool) (stop : Place) :
    Nat → List Part → Except Fault (Condition × List Part)
  | 0, _ => .error ⟨.endOfInput, stop⟩
  | fuel + 1, parts =>
    match Part.dropBlank parts with
    | .block ⟨.opening .paren, _⟩ inner innerStop :: rest =>
      match read asksStyles innerStop fuel inner with
      | .ok (found, left) => do
        Fault.ofLeft left
        return (found, rest)
      | .error _ =>
        match Question.grammar.whole? inner with
        | some question => .ok (.one question, rest)
        | none => .error (badQuestion innerStop inner)
    | .block ⟨.function name, _⟩ inner _ :: rest =>
      if asksStyles && name.toLower == "style" then do
        let text ← styleText inner
        return (.one (.style (Spaced.call "style" text)), rest)
      else .error (Fault.ofNext stop parts)
    | _ => .error (Fault.ofNext stop parts)

def styleText (parts : List Part) : Except Fault Spaced :=
  match parts.span (!·.isToken .colon) with
  | (name, _ :: value) => do
    return (← Raw.ofParts name) ++ [.text ":", .gap] ++ (← Raw.ofParts value)
  | (_, []) => Raw.ofParts parts

end

def ofParts (asksStyles : Bool) (stop : Place) (parts : List Part) : Except Fault Condition := do
  let (found, rest) ← read asksStyles stop (4 * Part.count parts + 8) parts
  Fault.ofLeft rest
  return found

end Condition

namespace MediaQuery

def reserved : List String := ["not", "or", "and", "only", "layer"]

def medium? (parts : List Part) : Option (Option String × String × List Part) :=
  match Part.dropBlank parts with
  | .leaf ⟨.ident first, _⟩ :: rest =>
    let isQualifier := first.toLower == "only" || first.toLower == "not"
    if isQualifier then
      match Part.dropBlank rest with
      | .leaf ⟨.ident name, _⟩ :: rest => some (some first.toLower, name, rest)
      | _ => none
    else if reserved.contains first.toLower then none
    else some (none, first, rest)
  | _ => none

/-- The name of a medium: those that are known are written in small letters. -/
def mediumText (name : String) : String :=
  if ["all", "print", "screen"].contains name.toLower then name.toLower else Written.name name

def ofParts (stop : Place) (parts : List Part) : Except Fault MediaQuery :=
  match medium? parts with
  | none => do return ⟨none, "all", some (← Condition.ofParts false stop parts)⟩
  | some (qualifier, name, rest) =>
    match Condition.operator? rest with
    | some (true, rest) =>
      if rest.any (·.isToken (.ident "or")) then
        .error ⟨.unexpected (.ident "or"), Part.placeOf stop rest⟩
      else do return ⟨qualifier, mediumText name, some (← Condition.ofParts false stop rest)⟩
    | _ => do
      Fault.ofLeft rest
      return ⟨qualifier, mediumText name, none⟩

def listOf (stop : Place) (parts : List Part) : Except Fault (List MediaQuery) :=
  if (Part.dropBlank parts).isEmpty then .ok []
  else (Part.splitAt .comma parts).mapM fun (parts, comma) => ofParts (comma.getD stop) parts

/-- A query as it is written. -/
def text (query : MediaQuery) : Spaced :=
  let isAll := query.medium == "all" && query.qualifier.isNone
  let medium := if isAll && query.condition.isSome then [] else [query.medium]
  let head := Spaced.ofText (" ".intercalate (query.qualifier.toList ++ medium))
  match query.condition with
  | none => head
  | some condition =>
    if isAll then condition.text .nothing
    else
      let around : Condition.Around :=
        match condition with
        | .any _ => .conjunction
        | _ => .nothing
      head ++ Spaced.ofText " and " ++ condition.text around

def listText (queries : List MediaQuery) : Spaced :=
  if queries.isEmpty then Spaced.ofText "not all" else Spaced.listed (queries.map text)

def alwaysHold (queries : List MediaQuery) : Bool :=
  queries.all fun query =>
    query.qualifier.isNone && query.medium == "all" && query.condition.isNone

def neverHold (queries : List MediaQuery) : Bool :=
  !queries.isEmpty && queries.all fun query =>
    query.qualifier == some "not" && query.medium == "all" && query.condition.isNone

end MediaQuery

end StyleInline.Stylesheet
