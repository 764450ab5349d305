import StyleInline.Stylesheet.Gathering

/-!
# Blocks

A block holds values for names and rules with names, one after another.  What cannot be either is
kept as a fault, so that a reader may refuse the block or go on behind it.
-/

namespace StyleInline.Stylesheet

structure NamedRule where
  name : String
  /-- What stands up to the block or to the end of the rule. -/
  head : List Part
  stop : Place
  block : Option (List Part × Place)
  behind : Place
  deriving Repr, Inhabited

namespace NamedRule

open StyleInline.Stylesheet.Part (dropBlank placeOf)

def ofParts (stop : Place) (name : String) (parts : List Part) : NamedRule × List Part :=
  let (head, rest) := parts.span fun part =>
    part.first.token != .opening .curly && !part.isToken .semicolon
  match rest with
  | [] => (⟨name, head, stop, none, stop⟩, [])
  | .block opening inner innerStop :: rest =>
    (⟨name, head, opening.place, some (inner, innerStop), placeOf stop rest⟩, rest)
  | .leaf placed :: rest => (⟨name, head, placed.place, none, placeOf stop rest⟩, rest)

def lowerName (rule : NamedRule) : String := rule.name.toLower

/-- No rule of this name may stand here. -/
def misplaced (rule : NamedRule) : Fault := ⟨.unknownRule rule.name, placeOf rule.stop rule.head⟩

def withoutBlock (rule : NamedRule) : Fault := ⟨.unexpected .semicolon, rule.behind⟩

def innerStart (block : List Part × Place) : Place := placeOf block.2 block.1

end NamedRule

inductive Entry where
  /-- A value for a name that stands at a place; `start` is the place behind the colon, `stop` the
  place where the value ends. -/
  | value (name : String) (place : Place) (parts : List Part) (start stop : Place)
  | rule (rule : NamedRule)
  | fault (fault : Fault)
  deriving Repr, Inhabited

namespace Entry

open StyleInline.Stylesheet.Part (dropBlank placeOf)

def nextPlace (place : Place) : Place := { place with column := place.column + 1 }

def listWithin (stop : Place) : Nat → List Part → List Entry
  | 0, _ => []
  | _, [] => []
  | fuel + 1, part :: rest =>
    let (content, behind) := rest.span (!·.isToken .semicolon)
    let contentStop := placeOf stop behind
    match part with
    | .leaf ⟨.ident name, place⟩ =>
      match dropBlank content with
      | .leaf ⟨.colon, colon⟩ :: parts =>
        .value name place parts (nextPlace colon) contentStop :: listWithin stop fuel behind
      | [] => .fault ⟨.endOfInput, contentStop⟩ :: listWithin stop fuel behind
      | found :: _ =>
        .fault ⟨.unexpected found.first.token, placeOf stop rest⟩ :: listWithin stop fuel behind
    | .leaf ⟨.at name, _⟩ =>
      let (found, rest) := NamedRule.ofParts stop name rest
      .rule found :: listWithin stop fuel rest
    | part =>
      if part.isBlank || part.isToken .semicolon then listWithin stop fuel rest
      else .fault ⟨.unexpected part.first.token, part.place⟩ :: listWithin stop fuel behind

def list (block : List Part × Place) : List Entry :=
  listWithin block.2 (block.1.length + 1) block.1

end Entry

namespace Declaration

open StyleInline.Stylesheet.Part (dropBlank)

def importance (parts : List Part) : Except Fault (List Part × Bool) :=
  match parts.span (!·.isToken (.delim '!')) with
  | (value, []) => .ok (value, false)
  | (value, mark :: rest) =>
    match dropBlank rest with
    | .leaf ⟨.ident name, _⟩ :: behind =>
      if name.toLower != "important" then .error ⟨.unexpected mark.first.token, mark.place⟩
      else do
        Fault.ofLeft behind
        return (value, true)
    | _ => .error ⟨.unexpected mark.first.token, mark.place⟩

def ofValue (name : String) (parts : List Part) : Except Fault Declaration := do
  let (value, isImportant) ← importance parts
  let found ← ofParts name value
  return { found with isImportant }

def listOf (block : List Part × Place) : Except Fault (List Declaration) :=
  (Entry.list block).mapM fun
    | .value name _ parts _ _ => ofValue name parts
    | .rule rule => .error rule.misplaced
    | .fault fault => .error fault

end Declaration

end StyleInline.Stylesheet
