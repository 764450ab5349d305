import StyleInline.Stylesheet.Gathering
import StyleInline.Stylesheet.Media

/-!
# Conditions on what is supported

A rule may hold only where a declaration or a selector is understood.  Declarations and selectors
in such a condition stand as they are written.
-/

namespace StyleInline.Stylesheet

inductive Supports where
  | not (inner : Supports)
  | all (conditions : List Supports)
  | any (conditions : List Supports)
  /-- A declaration under any of some prefixes. -/
  | declaration (prefixes : List Prefix) (property value : String)
  | selector (text : String)
  | unknown (text : String)
  deriving BEq, Repr, Inhabited

namespace Supports

open StyleInline.Stylesheet.Condition (Around enclosed operator?)

mutual

def text (around : Around) : Supports → Spaced
  | .not inner => enclosed (around != .nothing) (Spaced.ofText "not " ++ inner.text .negation)
  | .all conditions =>
    enclosed (around != .nothing && around != .conjunction)
      (Spaced.joined (Spaced.ofText " and ") (texts .conjunction conditions))
  | .any conditions =>
    enclosed (around != .nothing && around != .disjunction)
      (Spaced.joined (Spaced.ofText " or ") (texts .disjunction conditions))
  | .declaration prefixes property value =>
    let inner (before : Prefix) : Spaced :=
      [.text (before.text ++ Written.name property ++ ":"), .gap, .text value]
    enclosed true (enclosed (prefixes != [.plain])
      (Spaced.joined (Spaced.ofText ") or (") (prefixes.map inner)))
  | .selector text => Spaced.ofText ("selector(" ++ text ++ ")")
  | .unknown text => Spaced.ofText text

def texts (around : Around) : List Supports → List Spaced
  | [] => []
  | first :: rest => first.text around :: texts around rest

end

def isDeclaration : Supports → Bool
  | .declaration _ _ _ => true
  | _ => false

mutual

def prefixed (targets : Targets) : Supports → Supports
  | .not inner => .not (inner.prefixed targets)
  | .all conditions => .all (allPrefixed targets conditions)
  | .any conditions => .any (allPrefixed targets conditions)
  | .declaration prefixes property value =>
    .declaration (Declaration.prefixesFor targets property prefixes) property value
  | condition => condition

def allPrefixed (targets : Targets) : List Supports → List Supports
  | [] => []
  | first :: rest => first.prefixed targets :: allPrefixed targets rest

end

def declarationOf? (parts : List Part) : Option Supports :=
  match Part.dropBlank parts with
  | .leaf ⟨.ident name, _⟩ :: rest =>
    match Part.dropBlank rest with
    | .leaf ⟨.colon, _⟩ :: value =>
      let value := Raw.source (Part.dropBlank value)
      if name.startsWith "--" then some (.declaration [.plain] name value)
      else
        match Property.ofName? name.toLower with
        | some (before, property) => some (.declaration [before] property.name value)
        | none => some (.declaration [.plain] name value)
    | _ => none
  | _ => none

def ofDeclaration (stop : Place) (parts : List Part) : Except Fault Supports :=
  match declarationOf? parts, Part.dropBlank parts with
  | some found, _ => .ok found
  | none, .leaf ⟨.ident _, _⟩ :: rest => .error (Fault.ofNext stop rest)
  | none, _ => .error (Fault.ofNext stop parts)

mutual

def read (stop : Place) : Nat → List Part → Except Fault (Supports × List Part)
  | 0, _ => .error ⟨.endOfInput, stop⟩
  | fuel + 1, parts =>
    match Part.dropBlank parts with
    | .leaf ⟨.ident name, _⟩ :: rest =>
      if name.toLower == "not" then do
        let (inner, rest) ← readBlock stop fuel rest
        return (.not inner, rest)
      else .error (Fault.ofNext stop parts)
    | parts => do
      let (first, rest) ← readBlock stop fuel parts
      match operator? rest with
      | none => return (first, rest)
      | some (isAnd, _) =>
        let (others, rest) := readMore stop isAnd fuel rest
        if others.isEmpty then return (first, rest)
        else return (if isAnd then .all (first :: others) else .any (first :: others), rest)

/-- More conditions behind the same conjunction. -/
def readMore (stop : Place) (isAnd : Bool) : Nat → List Part → List Supports × List Part
  | 0, parts => ([], parts)
  | fuel + 1, parts =>
    match operator? parts with
    | some (found, rest) =>
      if found != isAnd then ([], parts)
      else
        match readBlock stop fuel rest with
        | .ok (first, rest) =>
          let (others, rest) := readMore stop isAnd fuel rest
          (first :: others, rest)
        | .error _ => ([], parts)
    | none => ([], parts)

def readBlock (stop : Place) : Nat → List Part → Except Fault (Supports × List Part)
  | 0, _ => .error ⟨.endOfInput, stop⟩
  | fuel + 1, parts =>
    match Part.dropBlank parts with
    | .block ⟨.opening .paren, place⟩ inner innerStop :: rest =>
      let nested :=
        match read innerStop fuel inner with
        | .ok (found, left) => if (Part.dropBlank left).isEmpty then some found else none
        | .error _ => none
      match nested.orElse fun _ => declarationOf? inner with
      | some found => .ok (found, rest)
      | none =>
        .ok (.unknown (Raw.source [.block ⟨.opening .paren, place⟩ inner innerStop]), rest)
    | .block ⟨.function name, place⟩ inner innerStop :: rest =>
      if name.toLower == "selector" then .ok (.selector (Raw.source inner), rest)
      else .ok (.unknown (Raw.source [.block ⟨.function name, place⟩ inner innerStop]), rest)
    | _ => .error (Fault.ofNext stop parts)

end

def ofParts (stop : Place) (parts : List Part) : Except Fault Supports := do
  let (found, rest) ← read stop (4 * Part.count parts + 8) parts
  Fault.ofLeft rest
  return found

end Supports

end StyleInline.Stylesheet
