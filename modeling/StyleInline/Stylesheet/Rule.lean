import StyleInline.Stylesheet.Block
import StyleInline.Stylesheet.Selector
import StyleInline.Stylesheet.Supports

/-!
# Rules

A stylesheet is a list of rules.  A style rule has selectors, declarations and maybe rules of its
own; other rules start with a name behind an at sign.
-/

namespace StyleInline.Stylesheet

structure Frame where
  places : Spaced
  declarations : List Declaration
  deriving BEq, Repr, Inhabited

structure PageSelector where
  name : Option String
  kinds : List String
  deriving BEq, Repr, Inhabited

structure MarginBox where
  name : String
  declarations : List Declaration
  deriving BEq, Repr, Inhabited

structure Glyphs where
  kind : String
  values : List (String × List Int)
  deriving BEq, Repr, Inhabited

inductive Rule where
  /-- `prefixes` are those under which the selectors are written, if their names need any. -/
  | style (selectors : List Selector) (prefixes : List Prefix) (declarations : List Declaration)
      (nested : List Rule)
  /-- Declarations behind rules or in a group of rules inside a style rule. -/
  | declarations (all : List Declaration)
  | nest (selectors : List Selector) (declarations : List Declaration) (nested : List Rule)
  /-- Another stylesheet; `layer` tells whether it belongs to a layer, and to which. -/
  | imported (content : Spaced) (layer : Option (Option String))
  | namespaced (content : Spaced)
  /-- The order of layers. -/
  | layers (names : List String)
  | layer (name : Option String) (rules : List Rule)
  | media (queries : List MediaQuery) (rules : List Rule)
  | supports (condition : Supports) (rules : List Rule)
  | container (name : Option String) (condition : Option Condition) (rules : List Rule)
  /-- Rules for elements from some on, up to others. -/
  | scope (start stop : Option (List Selector)) (rules : List Rule)
  | starting (rules : List Rule)
  | document (rules : List Rule)
  | frames (prefixes : List Prefix) (name : String) (frames : List Frame)
  /-- A property of the author's own: the kinds of its values, and the one it starts with. -/
  | property (name : String) (kinds : Spaced) (inherits : Bool) (initial : Option Spaced)
  | page (selectors : List PageSelector) (declarations : List Declaration)
      (boxes : List MarginBox)
  | features (families : List Spaced) (all : List Glyphs)
  /-- Declarations that describe something other than elements. -/
  | description (head : String) (declarations : List Declaration)
  | unknown (head : Spaced) (block : Option Spaced)
  deriving BEq, Repr, Inhabited

namespace PageSelector

def allKinds : List String := ["left", "right", "first", "last", "blank"]

/-- The kinds at the start of some parts, each behind a colon, and the parts behind them. -/
def kindsOf? : List Part → Option (List String × List Part)
  | .leaf ⟨.colon, _⟩ :: .leaf ⟨.ident name, _⟩ :: rest =>
    if allKinds.contains name.toLower then
      (kindsOf? rest).map fun (others, rest) => (name.toLower :: others, rest)
    else none
  | .leaf ⟨.colon, _⟩ :: .leaf ⟨.blank _, _⟩ :: .leaf ⟨.ident name, _⟩ :: rest =>
    if allKinds.contains name.toLower then
      (kindsOf? rest).map fun (others, rest) => (name.toLower :: others, rest)
    else none
  | .leaf ⟨.colon, _⟩ :: _ => none
  | rest => some ([], rest)

/-- The pages that all of some parts tell of. -/
def ofParts? (parts : List Part) : Option PageSelector := do
  let (name, rest) : Option String × List Part :=
    match Part.dropBlank parts with
    | .leaf ⟨.ident name, _⟩ :: rest => (some name, rest)
    | parts => (none, parts)
  let (kinds, rest) ← kindsOf? rest
  if (name.isNone && kinds.isEmpty) || !(Part.dropBlank rest).isEmpty then none
  else some ⟨name, kinds⟩

def text (pages : PageSelector) : String :=
  pages.name.getD "" ++ String.join (pages.kinds.map (":" ++ ·))

end PageSelector

namespace MarginBox

def names : List String :=
  ["top-left-corner", "top-left", "top-center", "top-right", "top-right-corner", "left-top",
    "left-middle", "left-bottom", "right-top", "right-middle", "right-bottom",
    "bottom-left-corner", "bottom-left", "bottom-center", "bottom-right", "bottom-right-corner"]

end MarginBox

namespace Glyphs

def kinds : List String :=
  ["stylistic", "historical-forms", "styleset", "character-variant", "swash", "ornaments",
    "annotation"]

/-- Puts a value in the place of the one with the same name, or behind all. -/
def put {α : Type} (name : String) (value : α) (all : List (String × α)) : List (String × α) :=
  if all.any (·.1 == name) then
    all.map fun (other, before) => (other, if other == name then value else before)
  else all ++ [(name, value)]

def add (all : List Glyphs) (found : Glyphs) : List Glyphs :=
  if all.any (·.kind == found.kind) then
    all.map fun before =>
      if before.kind == found.kind then
        { before with
          values := found.values.foldl (fun values (name, value) => put name value values)
            before.values }
      else before
  else all ++ [found]

end Glyphs

end StyleInline.Stylesheet
