import StyleInline.Stylesheet.Head
import StyleInline.Stylesheet.Kinds

/-!
# Reading a stylesheet

A stylesheet is read rule by rule.  The head of a rule tells what its block holds: rules,
declarations, descriptors, frames, or boxes of a page.
-/

namespace StyleInline.Stylesheet

inductive Stage where
  | start
  | layers
  | imports
  | namespaces
  | body
  deriving DecidableEq, Repr, Inhabited

namespace Stage

def rank : Stage → Nat
  | start => 0
  | layers => 1
  | imports => 2
  | namespaces => 3
  | body => 4

/-- A rule may stand where it stands: imports come first, and namespaces behind them. -/
def check (stage : Stage) (rule : NamedRule) : Except Fault Unit :=
  let place := Part.placeOf rule.stop rule.head
  let isBehind (other : Stage) : Bool := other.rank < stage.rank
  if rule.lowerName == "import" && isBehind imports then .error ⟨.importTooLate, place⟩
  else if rule.lowerName == "namespace" && isBehind namespaces then
    .error ⟨.namespaceTooLate, place⟩
  else .ok ()

def behind (stage : Stage) (rule : NamedRule) (head : Head) : Stage :=
  if rule.block.isSome then body
  else
    match head with
    | .imported _ _ => imports
    | .namespaced _ => namespaces
    | .layers _ => if stage.rank ≤ layers.rank then layers else body
    | _ => stage

end Stage

structure Body where
  declarations : List Declaration
  rules : List Rule
  deriving Inhabited

namespace Body

def empty : Body := ⟨[], []⟩

/-- A declaration in front of a block; one that rules come before stays behind them. -/
def add (body : Body) (declaration : Declaration) : Body :=
  if body.rules.isEmpty then { body with declarations := body.declarations ++ [declaration] }
  else
    match body.rules.getLast? with
    | some (.declarations all) =>
      { body with rules := body.rules.dropLast ++ [.declarations (all ++ [declaration])] }
    | _ => { body with rules := body.rules ++ [.declarations [declaration]] }

def addRules (body : Body) (rules : List Rule) : Body := { body with rules := body.rules ++ rules }

def asRules (body : Body) : List Rule :=
  (if body.declarations.isEmpty then [] else [.declarations body.declarations]) ++ body.rules

end Body

namespace NamedRule

def blockOf (rule : NamedRule) : Except Fault (List Part × Place) :=
  match rule.block with
  | some block => .ok block
  | none => .error rule.withoutBlock

end NamedRule

namespace Rule

open StyleInline.Stylesheet.Part (dropBlank placeOf)

def blockOf? : Part → Option (List Part × Place)
  | .block ⟨.opening .curly, _⟩ inner stop => some (inner, stop)
  | _ => none

/-- The frames of an animation; those that cannot be read are left out. -/
def framesOf : Nat → List Part → List Frame
  | 0, _ => []
  | _, [] => []
  | fuel + 1, part :: rest =>
    if part.isBlank || part.isToken .semicolon then framesOf fuel rest
    else
      match part with
      | .leaf ⟨.at name, place⟩ => framesOf fuel (NamedRule.ofParts place name rest).2
      | part =>
        match (part :: rest).span fun part => (blockOf? part).isNone with
        | (_, []) => []
        | (places, body :: rest) =>
          let found :=
            match Descriptor.framePlaces.whole? places, (blockOf? body).map Declaration.listOf with
            | some places, some (.ok found) => [⟨places, found⟩]
            | _, _ => []
          found ++ framesOf fuel rest

structure Described where
  kinds : Option Kinds
  inherits : Option Bool
  /-- The value to start with: its parts, and the places where they start and stop. -/
  initial : Option (List Part × Place × Place)
  deriving Inhabited

namespace Described

/-- A place behind the start of a text that begins at another place. -/
def placeFrom (start place : Place) : Place :=
  if place.line == start.line then ⟨0, place.column - start.column + 1⟩
  else ⟨place.line - start.line, place.column⟩

def add (found : Described) : Entry → Except Fault Described
  | .value name _ parts start stop =>
    let lower := name.toLower
    if lower == "syntax" then
      match dropBlank parts with
      | .leaf ⟨.text told, _⟩ :: rest =>
        match Kinds.ofText? told with
        | some kinds => do
          Fault.ofLeft rest
          return { found with kinds := some kinds }
        | none => .error ⟨.invalidValue, placeOf stop rest⟩
      | _ => .error (Fault.ofNext stop parts)
    else if lower == "inherits" then
      match dropBlank parts with
      | .leaf ⟨.ident word, _⟩ :: rest =>
        if word.toLower == "true" || word.toLower == "false" then do
          Fault.ofLeft rest
          return { found with inherits := some (word.toLower == "true") }
        else .error (Fault.ofNext stop parts)
      | _ => .error (Fault.ofNext stop parts)
    else if lower == "initial-value" then
      .ok { found with initial := some (parts, start, stop) }
    else .error ⟨.invalidDeclaration, start⟩
  | .rule rule => .error rule.misplaced
  | .fault fault => .error fault

/-- The value to start with, read by the kinds of values; only where any value will do it may be
missing. -/
def value (found : Described) (kinds : Kinds) (stop : Place) : Except Fault (Option Spaced) :=
  match found.initial with
  | none => if kinds == .anything then .ok none else .error ⟨.invalidBody, stop⟩
  | some (parts, start, valueStop) =>
    match kinds.value valueStop parts with
    | .ok value => .ok (some value)
    | .error fault => .error { fault with place := placeFrom start fault.place }

def rule (found : Described) (name : String) (stop : Place) : Except Fault Rule :=
  match found.kinds, found.inherits with
  | some kinds, some inherits => do
    return .property name kinds.text inherits (← found.value kinds stop)
  | _, _ => .error ⟨.invalidBody, stop⟩

end Described

def propertyOf (name : String) (block : List Part × Place) : Except Fault Rule := do
  let found ← (Entry.list block).foldlM Described.add ⟨none, none, none⟩
  found.rule name block.2

def pageOf (selectors : List PageSelector) (block : List Part × Place) : Except Fault Rule := do
  let add (found : List Declaration × List MarginBox) :
      Entry → Except Fault (List Declaration × List MarginBox)
    | .value name _ parts _ _ =>
      return (found.1 ++ [← Declaration.ofValue name parts], found.2)
    | .rule box =>
      if MarginBox.names.contains box.lowerName then do
        Fault.ofLeft box.head
        let inner ← Declaration.listOf (← box.blockOf)
        return (found.1, found.2 ++ [⟨box.lowerName, inner⟩])
      else .error box.misplaced
    | .fault fault => .error fault
  let (found, boxes) ← (Entry.list block).foldlM add ([], [])
  return .page selectors found boxes

def indices (stop : Place) : Nat → List Part → Except Fault (List Int)
  | 0, _ => .ok []
  | fuel + 1, parts =>
    match dropBlank parts with
    | .leaf ⟨.number value, _⟩ :: rest =>
      match value.int? with
      | some index =>
        if index < 0 then .error ⟨.invalidValue, placeOf stop rest⟩
        else
          match dropBlank rest with
          | .leaf ⟨.number _, _⟩ :: _ => do return index :: (← indices stop fuel rest)
          | _ :: behind => do
            Fault.ofLeft behind
            return [index]
          | [] => .ok [index]
      | none => .error ⟨.invalidValue, placeOf stop rest⟩
    | _ :: rest => .error ⟨.invalidValue, placeOf stop rest⟩
    | [] => .error ⟨.invalidValue, stop⟩

def glyphsOf (kind : String) (block : List Part × Place) : Except Fault Glyphs := do
  let values ← (Entry.list block).mapM fun
    | .value name _ parts _ stop => do
      return (Written.name name, ← indices stop (parts.length + 1) parts)
    | .rule rule => .error rule.misplaced
    | .fault fault => .error fault
  return ⟨kind, values.foldl (fun all (name, value) => Glyphs.put name value all) []⟩

def featuresOf (families : List Spaced) (block : List Part × Place) : Except Fault Rule := do
  let add (all : List Glyphs) : Entry → Except Fault (List Glyphs)
    | .value name place _ _ _ => .error ⟨.unexpected (.ident name), place⟩
    | .rule rule =>
      if Glyphs.kinds.contains rule.lowerName then do
        Fault.ofLeft rule.head
        return Glyphs.add all (← glyphsOf rule.lowerName (← rule.blockOf))
      else .error rule.misplaced
    | .fault fault => .error fault
  return .features families (← (Entry.list block).foldlM add [])

def declaration (stop : Place) (name : String) (parts : List Part) :
    Except Fault (Declaration × List Part) :=
  match dropBlank parts with
  | [] => .error ⟨.endOfInput, stop⟩
  | .leaf ⟨.colon, _⟩ :: rest => do
    let (content, behind) := rest.span (!·.isToken .semicolon)
    match if name.startsWith "--" then none else content.find? (blockOf? · |>.isSome) with
    | some part => .error ⟨.unexpected part.first.token, part.place⟩
    | none => return (← Declaration.ofValue name content, behind)
  | .leaf ⟨.semicolon, place⟩ :: _ => .error ⟨.endOfInput, place⟩
  | part :: _ => .error ⟨.unexpected part.first.token, placeOf stop parts⟩

/-- A rule of which the block holds neither rules nor anything that rules could stand in. -/
def leafOf (block : List Part × Place) : Head → Except Fault Rule
  | .property name => propertyOf name block
  | .frames before name => return .frames [before] name (framesOf (block.1.length + 1) block.1)
  | .fontFace => return .description "font-face" (Descriptor.listOf Descriptor.ofFont block)
  | .palette name =>
    return .description ("font-palette-values " ++ Written.name name)
      (Descriptor.listOf Descriptor.ofPalette block)
  | .viewTransition =>
    return .description "view-transition" (Descriptor.listOf Descriptor.ofTransition block)
  | .counterStyle name =>
    return .description ("counter-style " ++ name) (← Declaration.listOf block)
  | .viewport before =>
    return .description (before.text ++ "viewport") (← Declaration.listOf block)
  | .page selectors => pageOf selectors block
  | .features families => featuresOf families block
  | .unknown shown => return .unknown shown (some (← Raw.ofParts block.1))
  | _ => .error ⟨.unexpected (.opening .curly), NamedRule.innerStart block⟩

mutual

def readList (stop : Place) : Nat → List Part → Except Fault (List Rule)
  | 0, _ => .ok []
  | _, [] => .ok []
  | fuel + 1, part :: rest =>
    if part.isBlank || part.isToken .semicolon then readList stop fuel rest
    else
      match part with
      | .leaf ⟨.at name, _⟩ => do
        let (rule, rest) := NamedRule.ofParts stop name rest
        let found ← readNamed .block fuel rule (← Head.ofRule .block rule)
        return found ++ (← readList stop fuel rest)
      | part => do
        let (found, rest) ← readStyle false stop fuel (part :: rest)
        return found :: (← readList stop fuel rest)

def readStyle (isNested : Bool) (stop : Place) :
    Nat → List Part → Except Fault (Rule × List Part)
  | 0, parts => .ok (.declarations [], parts)
  | fuel + 1, parts =>
    match parts.span fun part =>
        (blockOf? part).isNone && !(isNested && part.isToken .semicolon) with
    | (_, []) => .error ⟨.endOfInput, stop⟩
    | (head, body :: rest) =>
      match blockOf? body with
      | none => .error ⟨.unexpected body.first.token, body.place⟩
      | some block => do
        let selectors ← if isNested then Selector.ofNestedParts body.place head
          else Selector.ofParts body.place head
        let found ← readBody block.2 fuel .empty block.1
        return (.style selectors [] found.declarations found.rules, rest)

def readBody (stop : Place) : Nat → Body → List Part → Except Fault Body
  | 0, body, _ => .ok body
  | _, body, [] => .ok body
  | fuel + 1, body, part :: rest =>
    if part.isBlank || part.isToken .semicolon then readBody stop fuel body rest
    else
      match part with
      | .leaf ⟨.at name, _⟩ => do
        let (rule, rest) := NamedRule.ofParts stop name rest
        let found ← readNamed .style fuel rule (← Head.ofRule .style rule)
        readBody stop fuel (body.addRules found) rest
      | .leaf ⟨.ident name, _⟩ =>
        match declaration stop name rest with
        | .ok (found, rest) => readBody stop fuel (body.add found) rest
        | .error fault =>
          match readStyle true stop fuel (part :: rest) with
          | .ok (found, rest) => readBody stop fuel (body.addRules [found]) rest
          | .error _ => .error fault
      | part => do
        let (found, rest) ← readStyle true stop fuel (part :: rest)
        readBody stop fuel (body.addRules [found]) rest

/-- The rules in a block; inside a style rule there may be declarations among them. -/
def readInner (level : Level) (block : List Part × Place) :
    Nat → Except Fault (List Rule)
  | 0 => .ok []
  | fuel + 1 =>
    if level == .style then Body.asRules <$> readBody block.2 fuel .empty block.1
    else readList block.2 fuel block.1

/-- The rules that a head and its block stand for. -/
def readNamed (level : Level) : Nat → NamedRule → Head → Except Fault (List Rule)
  | 0, _, _ => .ok []
  | fuel + 1, rule, head =>
    match rule.block with
    | none => head.statement level rule
    | some block =>
      let around (build : List Rule → Rule) : Except Fault (List Rule) := do
        return [build (← readInner level block fuel)]
      match head with
      | .media queries => around (.media queries)
      | .supports condition => around (.supports condition)
      | .container name condition => around (.container name condition)
      | .scope start stop => around (.scope start stop)
      | .starting => around .starting
      | .document => around .document
      | .layers [] => around (.layer none)
      | .layers [name] => around (.layer (some name))
      | .layers _ => .error ⟨.invalidBody, NamedRule.innerStart block⟩
      | .nest selectors => do
        let found ← readBody block.2 fuel .empty block.1
        return [.nest selectors found.declarations found.rules]
      | head => return [← leafOf block head]

end

/-- The rules of a stylesheet behind those of a stage. -/
def readSheet (stop : Place) : Nat → Stage → List Part → Except Fault (List Rule)
  | 0, _, _ => .ok []
  | _, _, [] => .ok []
  | fuel + 1, stage, part :: rest =>
    match part with
    | .leaf ⟨.blank _, _⟩ | .leaf ⟨.comment _, _⟩ | .leaf ⟨.commentOpen, _⟩
    | .leaf ⟨.commentClose, _⟩ => readSheet stop fuel stage rest
    | .leaf ⟨.at name, _⟩ => do
      let (rule, rest) := NamedRule.ofParts stop name rest
      stage.check rule
      let head ← Head.ofRule .sheet rule
      let found ← readNamed .sheet fuel rule head
      return found ++ (← readSheet stop fuel (stage.behind rule head) rest)
    | part => do
      let (found, rest) ← readStyle false stop fuel (part :: rest)
      return found :: (← readSheet stop fuel .body rest)

/-- What a stylesheet says first may be its encoding, which has no meaning here. -/
def withoutCharset (stop : Place) : List Part → List Part
  | [] => []
  | part :: rest =>
    match part with
    | .leaf ⟨.blank _, _⟩ | .leaf ⟨.comment _, _⟩ | .leaf ⟨.commentOpen, _⟩
    | .leaf ⟨.commentClose, _⟩ => withoutCharset stop rest
    | .leaf ⟨.at name, _⟩ =>
      if name.toLower == "charset" then (NamedRule.ofParts stop name rest).2 else part :: rest
    | part => part :: rest

end Rule

/-- A stylesheet: comments that have to be kept, and its rules. -/
structure Sheet where
  comments : List String
  rules : List Rule
  deriving BEq, Repr, Inhabited

namespace Sheet

/-- The comments at the start of a stylesheet that must be kept, each without its brackets. -/
def keptComments : List Part → List String
  | .leaf ⟨.blank _, _⟩ :: rest => keptComments rest
  | .leaf ⟨.comment content, _⟩ :: rest =>
    if content.startsWith "!" then content :: keptComments rest else []
  | _ => []

/-- The stylesheet that a text is. -/
def ofText (text : String) : Except Fault Sheet := do
  let (parts, stop) := Part.ofText text
  let rules ← Rule.readSheet stop (4 * Part.count parts + 8) .start (Rule.withoutCharset stop parts)
  return ⟨keptComments parts, rules⟩

end Sheet

end StyleInline.Stylesheet
