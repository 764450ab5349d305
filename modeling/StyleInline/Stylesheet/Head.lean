import StyleInline.Stylesheet.Descriptor
import StyleInline.Stylesheet.Rule
import StyleInline.Stylesheet.SelectorGrammar

/-!
# Heads of rules

What a rule says between its name and its block.  Which names are known depends on where the rule
stands: some rules stand in no block, and some in no style rule.
-/

namespace StyleInline.Stylesheet

inductive Level where
  | sheet
  | block
  | style
  deriving DecidableEq, Repr, Inhabited

inductive Head where
  | charset
  | imported (content : Spaced) (layer : Option (Option String))
  | namespaced (content : Spaced)
  | property (name : String)
  | layers (names : List String)
  | media (queries : List MediaQuery)
  | supports (condition : Supports)
  | container (name : Option String) (condition : Option Condition)
  | scope (start stop : Option (List Selector))
  | starting
  | document
  | nest (selectors : List Selector)
  | frames (before : Prefix) (name : String)
  | fontFace
  | palette (name : String)
  | features (families : List Spaced)
  | counterStyle (name : String)
  | viewport (before : Prefix)
  | page (selectors : List PageSelector)
  | viewTransition
  | unknown (shown : Spaced)
  deriving BEq, Repr, Inhabited

namespace Head

open StyleInline.Stylesheet.Part (dropBlank placeOf trimmed splitAt)

def layerName? : List Part → Option (String × List Part)
  | .leaf ⟨.ident name, _⟩ :: .leaf ⟨.delim '.', place⟩ :: rest =>
    match layerName? rest with
    | some (inner, behind) => some (Written.name name ++ "." ++ inner, behind)
    | none => some (Written.name name, .leaf ⟨.delim '.', place⟩ :: rest)
  | .leaf ⟨.ident name, _⟩ :: rest => some (Written.name name, rest)
  | _ => none

def layerName (stop : Place) (parts : List Part) : Except Fault String :=
  match layerName? (dropBlank parts) with
  | some (name, rest) => do
    Fault.ofLeft rest
    return name
  | none => .error (Fault.ofNext stop parts)

/-- The names of layers between commas.  Where the last one is missing there are none at all. -/
def layerNames (stop : Place) (parts : List Part) : Except Fault (List String) :=
  let found := (splitAt .comma parts).mapM fun (parts, comma) =>
    layerName (comma.getD stop) (dropBlank parts)
  match found with
  | .error ⟨.endOfInput, place⟩ =>
    if place == stop then .ok [] else .error ⟨.unexpected .comma, place⟩
  | found => found

def addressOf (stop : Place) (parts : List Part) : Except Fault (String × List Part) :=
  match (address <|> Grammar.string).run parts with
  | some found => .ok found
  | none => .error (Fault.ofNext stop parts)

def importedLayer (parts : List Part) :
    Except Fault (Option (Option String) × List Part) :=
  match dropBlank parts with
  | .leaf ⟨.ident name, place⟩ :: rest =>
    .ok (if name.toLower == "layer" then (some none, rest)
      else (none, .leaf ⟨.ident name, place⟩ :: rest))
  | .block ⟨.function name, place⟩ inner innerStop :: rest =>
    if name.toLower == "layer" then
      return (some (some (← layerName innerStop inner)), rest)
    else .ok (none, .block ⟨.function name, place⟩ inner innerStop :: rest)
  | rest => .ok (none, rest)

/-- What has to be supported for a stylesheet that is imported: a condition or a declaration. -/
def importedCondition (stop : Place) (parts : List Part) : Except Fault Supports :=
  match Supports.read stop (4 * Part.count parts + 8) parts with
  | .ok (found, rest) => do
    Fault.ofLeft rest
    return found
  | .error _ => Supports.ofDeclaration stop parts

def importOf (stop : Place) (parts : List Part) : Except Fault Head := do
  let (found, rest) ← addressOf stop parts
  let (level, rest) ← importedLayer rest
  let (condition, rest) : Option Supports × List Part ←
    match dropBlank rest with
    | .block ⟨.function name, place⟩ inner innerStop :: rest =>
      if name.toLower == "supports" then do
        pure (some (← importedCondition innerStop inner), rest)
      else pure (none, .block ⟨.function name, place⟩ inner innerStop :: rest)
    | rest => pure (none, rest)
  let queries ← MediaQuery.listOf stop (dropBlank rest)
  let layerText :=
    match level with
    | none => []
    | some none => [Spaced.ofText "layer"]
    | some (some name) => [Spaced.ofText ("layer(" ++ name ++ ")")]
  let conditionText :=
    match condition with
    | none => []
    | some condition =>
      let text := condition.text .nothing
      if condition.isDeclaration then [Spaced.ofText "supports" ++ text]
      else [Spaced.call "supports" text]
  let mediaText := if queries.isEmpty then [] else [MediaQuery.listText queries]
  let words := [Spaced.ofText "@import", Spaced.ofText (Written.text found)] ++ layerText ++
    conditionText ++ mediaText
  return .imported (Spaced.words words) level

def namespaceOf (stop : Place) (parts : List Part) : Except Fault (Head × List Part) := do
  let (name, rest) : Option String × List Part :=
    match dropBlank parts with
    | .leaf ⟨.ident name, _⟩ :: rest => (some name, rest)
    | parts => (none, parts)
  let (found, rest) ← addressOf stop rest
  let words := ["@namespace"] ++ (name.map Written.name).toList ++ [Written.text found]
  return (.namespaced (Spaced.ofText (" ".intercalate words)), rest)

def dashedName (stop : Place) (head : List Part) : Except Fault (String × List Part) :=
  match dropBlank head with
  | .leaf ⟨.ident name, _⟩ :: rest =>
    if name.startsWith "--" then .ok (name, rest) else .error (Fault.ofNext stop head)
  | _ => .error (Fault.ofNext stop head)

def ownName (stop : Place) (head : List Part) : Except Fault (String × List Part) :=
  match dropBlank head with
  | .leaf ⟨.ident name, _⟩ :: rest =>
    if ["initial", "inherit", "unset", "default", "revert", "revert-layer"].contains
        name.toLower then .error (Fault.ofNext stop head)
    else .ok (Written.name name, rest)
  | _ => .error (Fault.ofNext stop head)

/-- The name of an animation: a name, or a string that may be written as one. -/
def animationName (stop : Place) (parts : List Part) : Except Fault (String × List Part) :=
  match dropBlank parts with
  | .leaf ⟨.ident name, _⟩ :: rest =>
    if Property.Motion.reserved.contains name.toLower then .error (Fault.behindNext stop parts)
    else .ok (Written.name name, rest)
  | .leaf ⟨.text name, _⟩ :: rest =>
    .ok (if Property.Motion.reserved.contains name.toLower then Written.text name
      else Written.name name, rest)
  | _ => .error (Fault.behindNext stop parts)

def containerOf (stop : Place) (parts : List Part) : Except Fault Head := do
  match dropBlank parts with
  | .leaf ⟨.ident name, place⟩ :: rest =>
    if ["not", "and", "or", "none"].contains name.toLower then
      return .container none
        (some (← Condition.ofParts true stop (.leaf ⟨.ident name, place⟩ :: rest)))
    else if (dropBlank rest).isEmpty then return .container (some (Written.name name)) none
    else
      return .container (some (Written.name name)) (some (← Condition.ofParts true stop rest))
  | parts => return .container none (some (← Condition.ofParts true stop parts))

/-- The selectors of one end of a scope; one that starts with a combinator starts at the scope
around. -/
def scopeSelectors (stop : Place) (parts : List Part) : Except Fault (List Selector) := do
  let parts := Part.withoutComments parts
  let found ← Selector.list .outermost true true stop (4 * Part.count parts + 8)
    (splitAt .comma parts)
  return found.map fun selector =>
    if selector.head?.any Simple.isCombinator then .pseudoClass "scope" [] :: selector
    else selector

def scopeOf (stop : Place) (parts : List Part) : Except Fault (Head × List Part) := do
  let (start, rest) : Option (List Selector) × List Part ←
    match dropBlank parts with
    | .block ⟨.opening .paren, _⟩ inner innerStop :: rest => do
      pure (some (← scopeSelectors innerStop inner), rest)
    | _ => pure (none, parts)
  match dropBlank rest with
  | .leaf ⟨.ident name, _⟩ :: behind =>
    if name.toLower != "to" then return (.scope start none, rest)
    else
      match dropBlank behind with
      | .block ⟨.opening .paren, _⟩ inner innerStop :: left =>
        return (.scope start (some (← scopeSelectors innerStop inner)), left)
      | _ => .error (Fault.ofNext stop behind)
  | _ => return (.scope start none, rest)

/-- The pages that a rule is about; what cannot be read is left. -/
def pageOf (parts : List Part) : Head × List Part :=
  match (splitAt .comma parts).mapM fun (parts, _) => PageSelector.ofParts? parts with
  | some selectors => (.page selectors, [])
  | none => (.page [], parts)

def familiesOf (stop : Place) (parts : List Part) : Except Fault (List Spaced) :=
  (splitAt .comma parts).mapM fun (parts, comma) =>
    match Property.Text.ownFamily.run (dropBlank parts) with
    | some (family, rest) => do
      Fault.ofLeft rest
      return family
    | none => .error (Fault.ofNext (comma.getD stop) (dropBlank parts))

/-- Browsers of the family that the rule is for read the rule if its argument is empty. -/
def documentOf (stop : Place) (parts : List Part) : Except Fault (Head × List Part) :=
  match dropBlank parts with
  | .block ⟨.function name, _⟩ inner _ :: rest =>
    if name.toLower != "url-prefix" then .error (Fault.ofNext stop parts)
    else
      match dropBlank inner with
      | .leaf ⟨.text "", _⟩ :: inner => do
        Fault.ofLeft inner
        return (.document, rest)
      | inner => do
        Fault.ofLeft inner
        return (.document, rest)
  | _ => .error (Fault.ofNext stop parts)

/-- The selectors of a nested rule that says so; each has to name the elements around. -/
def nestOf (stop : Place) (parts : List Part) : Except Fault Head := do
  let parts := Part.withoutComments parts
  let found ← (splitAt .comma parts).mapM fun (piece, comma) => do
    let stop := comma.getD stop
    match ← Selector.list .outermost false false stop (4 * Part.count parts + 8)
      [(piece, none)] with
    | [selector] =>
      if Simple.anyNamesOuter selector then pure selector else .error ⟨.missingOuter, stop⟩
    | _ => .error ⟨.emptySelector, stop⟩
  return .nest found

def known (level : Level) (stop : Place) (name : String) (parts : List Part) :
    Option (Except Fault (Head × List Part)) :=
  let all (head : Except Fault Head) : Option (Except Fault (Head × List Part)) :=
    some (head.map (·, []))
  let (before, bare) := Prefix.split name
  if name == "media" then all (media <$> MediaQuery.listOf stop parts)
  else if name == "supports" then all (supports <$> Supports.ofParts stop parts)
  else if name == "container" then all (containerOf stop parts)
  else if name == "layer" then all (layers <$> layerNames stop parts)
  else if name == "scope" then some (scopeOf stop parts)
  else if name == "starting-style" then some (.ok (starting, parts))
  else if name == "-moz-document" then some (documentOf stop parts)
  else if name == "nest" && level == .style then all (nestOf stop parts)
  else if name == "font-face" then some (.ok (fontFace, parts))
  else if name == "view-transition" then some (.ok (viewTransition, parts))
  else if name == "viewport" || name == "-ms-viewport" then some (.ok (viewport before, parts))
  else if name == "page" then some (.ok (pageOf parts))
  else if bare == "keyframes" then
    some ((animationName stop parts).map fun (name, rest) => (frames before name, rest))
  else if name == "font-palette-values" then
    some ((dashedName stop parts).map fun (name, rest) => (palette name, rest))
  else if name == "counter-style" then
    some ((ownName stop parts).map fun (name, rest) => (counterStyle name, rest))
  else if name == "font-feature-values" then all (features <$> familiesOf stop parts)
  else none

/-- The head of a rule that is known in no block only, and the parts behind it. -/
def outermost (stop : Place) (name : String) (parts : List Part) :
    Option (Except Fault (Head × List Part)) :=
  if name == "import" then some ((importOf stop parts).map (·, []))
  else if name == "namespace" then some (namespaceOf stop parts)
  else if name == "property" then
    some ((dashedName stop parts).map fun (name, rest) => (property name, rest))
  else if name == "charset" then
    match Grammar.string.run parts with
    | some (_, rest) => some (.ok (charset, rest))
    | none => some (.error (Fault.ofNext stop parts))
  else none

def isAllowedInStyle : Head → Bool
  | media _ | supports _ | container _ _ | document | layers _ | starting | scope _ _ | nest _
  | unknown _ => true
  | _ => false

def unknownOf (name : String) (parts : List Part) : Except Fault Head := do
  let shown ← Raw.ofParts (trimmed parts)
  return .unknown (.text ("@" ++ name) :: if shown.isEmpty then [] else .text " " :: shown)

def ofRule (level : Level) (rule : NamedRule) : Except Fault Head := do
  let name := rule.lowerName
  let alone := if level == .sheet then outermost rule.stop name rule.head else none
  match alone.orElse fun _ => known level rule.stop name rule.head with
  | none => unknownOf rule.name rule.head
  | some found =>
    let (head, rest) ← found
    if level == .style && !head.isAllowedInStyle then
      .error ⟨.unknownRule rule.name, placeOf rule.stop rest⟩
    else
      Fault.ofLeft rest
      return head

/-- The rules that a head without a block stands for. -/
def statement (level : Level) (rule : NamedRule) : Head → Except Fault (List Rule)
  | charset => .ok []
  | imported content layer => .ok [.imported content layer]
  | namespaced content => .ok [.namespaced content]
  | layers names =>
    if level == .style || names.isEmpty then .error rule.withoutBlock else .ok [.layers names]
  | unknown shown => .ok [.unknown shown none]
  | _ => .error rule.withoutBlock

end Head

end StyleInline.Stylesheet
