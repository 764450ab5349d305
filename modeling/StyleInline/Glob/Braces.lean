/-!
# Patterns of paths with braces

A pattern and a path are compared octet by octet.  `?` stands for one octet other than `/`,
`*` for any of them up to the next `/`, `**` for whole segments, `[…]` for one octet of a set,
`{…,…}` for one of several patterns, and a backslash takes the meaning of the octet behind it.
A leading `!` inverts the answer.

The comparison walks through the pattern once and remembers the last star, to which it goes
back when it gets stuck; inside of braces it remembers how much the longest alternative has
matched.  A pattern that is malformed where the walk meets it matches nothing.
-/

namespace StyleInline.Glob.Braces

/-- Where a star was met: its place in the pattern, and the place in the path to resume at. -/
structure Star where
  glob : Nat := 0
  /-- Zero if there is nothing to go back to. -/
  path : Nat := 0
  deriving DecidableEq, Repr, Inhabited

structure Spot where
  path : Nat := 0
  glob : Nat := 0
  star : Star := {}
  /-- The last star that stands for whole segments. -/
  wide : Star := {}
  deriving DecidableEq, Repr, Inhabited

/-- A walk: where it is, and the braces around that place, the innermost first. -/
structure Walk where
  spot : Spot := {}
  open_ : List Spot := []
  /-- How far the longest alternative has come in the path. -/
  longest : Nat := 0
  deriving DecidableEq, Repr, Inhabited

inductive Outcome where
  | continue (walk : Walk)
  /-- The place does not fit; the walk has to go back. -/
  | stuck (walk : Walk)
  | malformed

abbrev Octets := Array UInt8

def octet (c : Char) : UInt8 := c.toNat.toUInt8

def isAt (octets : Octets) (index : Nat) (c : Char) : Bool := octets[index]? == some (octet c)

/-- Leaves out repetitions of `/**`. -/
def skipRepeated (glob : Octets) : Nat → Nat → Nat
  | 0, index => index
  | fuel + 1, index =>
    if isAt glob index '/' && isAt glob (index + 1) '*' && isAt glob (index + 2) '*' then
      skipRepeated glob fuel (index + 3)
    else index

/-- The octet that a backslash and the octet behind it stand for. -/
def unescaped (c : UInt8) : UInt8 :=
  if c == octet 'b' then 8
  else if c == octet 'n' then 10
  else if c == octet 'r' then 13
  else if c == octet 't' then 9
  else c

/-- The octet of a pattern at a place, and its last place, if it is well formed. -/
def literal? (glob : Octets) (index : Nat) : Option (UInt8 × Nat) :=
  if isAt glob index '\\' then (glob[index + 1]?).map fun c => (unescaped c, index + 1)
  else (glob[index]?).map fun c => (c, index)

inductive Skipped where
  | malformed
  | alternative (index : Nat)
  | closed (index : Nat)

/-- Looks for the end of the braces around a place, or for the next alternative in them. -/
def skipBraces (glob : Octets) (stopAtComma : Bool) : Nat → Nat → Nat → Bool → Skipped
  | 0, _, _, _ => .malformed
  | fuel + 1, index, depth, inSet =>
    if depth = 0 then .closed index
    else
      match glob[index]? with
      | none => .malformed
      | some c =>
        if c == octet '{' && !inSet then
          skipBraces glob stopAtComma fuel (index + 1) (depth + 1) inSet
        else if c == octet '}' && !inSet then
          skipBraces glob stopAtComma fuel (index + 1) (depth - 1) inSet
        else if c == octet ',' && stopAtComma && depth == 1 && !inSet then .alternative (index + 1)
        else if c == octet '[' && !inSet then
          skipBraces glob stopAtComma fuel (index + 1) depth true
        else if c == octet '*' && !inSet && isAt glob (index + 1) '*' then
          skipBraces glob stopAtComma fuel (skipRepeated glob glob.size (index + 2)) depth inSet
        else if c == octet ']' then skipBraces glob stopAtComma fuel (index + 1) depth false
        else if c == octet '\\' then skipBraces glob stopAtComma fuel (index + 2) depth inSet
        else skipBraces glob stopAtComma fuel (index + 1) depth inSet

def skipFrom (glob : Octets) (stopAtComma : Bool) (index : Nat) : Skipped :=
  skipBraces glob stopAtComma (glob.size + 2) index 1 false

/-- Leaves the innermost braces; the path goes on behind the longest alternative. -/
def leave (walk : Walk) (glob : Nat) : Walk :=
  match walk.open_ with
  | [] => { walk with spot := { walk.spot with glob } }
  | outer :: rest =>
    { spot := { path := walk.longest, glob, star := outer.star, wide := outer.wide }
      open_ := rest
      longest := if rest.isEmpty then 0 else walk.longest }

def reach (walk : Walk) : Nat := max walk.longest walk.spot.path

/-- A star that stands for whole segments, behind its second octet. -/
def wideStar (glob path : Octets) (spot : Spot) : Spot :=
  if spot.glob == glob.size then { spot with wide := spot.star }
  else if (spot.glob < 3 || isAt glob (spot.glob - 3) '/') && isAt glob spot.glob '/' then
    let isFresh := spot.path == 0 || (spot.path < path.size && isAt path (spot.path - 1) '/')
    { spot with wide := spot.star, glob := if isFresh then spot.glob + 1 else spot.glob }
  else spot

/-- A star that has come to a separator gives way to the last star for whole segments. -/
def endStar (path : Octets) (spot : Spot) : Spot :=
  if spot.wide.path != spot.star.path && isAt path spot.path '/' then
    if 0 < spot.wide.path && spot.path + 1 < path.size then
      { spot with glob := spot.wide.glob, star := { spot.star with glob := spot.wide.glob } }
    else { spot with star := { spot.star with path := 0 } }
  else spot

def stepStar (glob path : Octets) (walk : Walk) : Outcome :=
  let spot := walk.spot
  let isWide := isAt glob (spot.glob + 1) '*'
  let index := if isWide then skipRepeated glob glob.size (spot.glob + 2) - 2 else spot.glob
  let spot := { spot with star := ⟨index, spot.path + 1⟩ }
  let spot :=
    if isWide then wideStar glob path { spot with glob := index + 2 }
    else { spot with glob := index + 1 }
  let spot := endStar path spot
  let walk := { walk with spot }
  if !walk.open_.isEmpty && (isAt glob spot.glob ',' || isAt glob spot.glob '}') then
    match skipFrom glob false spot.glob with
    | .malformed => .malformed
    | .alternative index | .closed index =>
      .continue { walk with spot := { spot with glob := index } }
  else .continue walk

/-- The end of a set of octets, and whether it holds an octet; `isFirst` tells that nothing was
read yet. -/
def readSet (glob : Octets) (c : UInt8) : Nat → Bool → Bool → Nat → Option (Bool × Nat)
  | 0, _, _, _ => none
  | fuel + 1, isFirst, found, index =>
    if glob.size ≤ index then none
    else if !isFirst && isAt glob index ']' then some (found, index + 1)
    else
      match literal? glob index with
      | none => none
      | some (low, last) =>
        let index := last + 1
        if isAt glob index '-' && index + 1 < glob.size && !isAt glob (index + 1) ']' then
          match literal? glob (index + 1) with
          | none => none
          | some (high, last) =>
            readSet glob c fuel false (found || (low ≤ c && c ≤ high)) (last + 1)
        else readSet glob c fuel false (found || low == c) index

def stepSet (glob : Octets) (walk : Walk) (c : UInt8) : Outcome :=
  let spot := walk.spot
  let isNegated := isAt glob (spot.glob + 1) '^' || isAt glob (spot.glob + 1) '!'
  let start := if isNegated then spot.glob + 2 else spot.glob + 1
  match readSet glob c (glob.size + 1) true false start with
  | none => .malformed
  | some (found, index) =>
    if found != isNegated then
      .continue { walk with spot := { spot with glob := index, path := spot.path + 1 } }
    else .stuck { walk with spot := { spot with glob := index } }

def depthLimit : Nat := 10

def stepOpen (walk : Walk) : Outcome :=
  if depthLimit ≤ walk.open_.length then .malformed
  else
    .continue
      { walk with
        spot := { path := walk.spot.path, glob := walk.spot.glob + 1 }
        open_ := walk.spot :: walk.open_ }

/-- The step at a comma between alternatives; the path starts again where `outer` met the brace. -/
def stepComma (walk : Walk) (outer : Spot) : Outcome :=
  .continue
    { walk with
      longest := reach walk
      spot := { path := outer.path, glob := walk.spot.glob + 1 } }

def stepLiteral (glob : Octets) (walk : Walk) (c : UInt8) : Outcome :=
  match literal? glob walk.spot.glob with
  | none => .malformed
  | some (wanted, index) =>
    if wanted != c then .stuck { walk with spot := { walk.spot with glob := index } }
    else
      let walk := { walk with spot := { walk.spot with glob := index } }
      let walk :=
        if !walk.open_.isEmpty && 0 < index && isAt glob (index - 1) '}' then
          leave { walk with longest := walk.spot.path } index
        else walk
      let spot := walk.spot
      let wide := if wanted == octet '/' then spot.wide else { spot.wide with path := 0 }
      .continue
        { walk with spot := { spot with glob := spot.glob + 1, path := spot.path + 1, wide } }

def step (glob path : Octets) (walk : Walk) : Outcome :=
  let spot := walk.spot
  match glob[spot.glob]?, path[spot.path]? with
  | none, _ => .stuck walk
  | some wanted, next =>
    if wanted == octet '*' then stepStar glob path walk
    else
      match walk.open_, next with
      | outer :: _, next =>
        if wanted == octet '}' then
          .continue (leave { walk with longest := reach walk } (spot.glob + 1))
        else if wanted == octet ',' then stepComma walk outer
        else stepPlain wanted next
      | [], next => stepPlain wanted next
where
  /-- The step at an octet that closes nothing. -/
  stepPlain (wanted : UInt8) : Option UInt8 → Outcome
    | none => .stuck walk
    | some c =>
      if wanted == octet '?' then
        if c == octet '/' then .stuck walk
        else
          .continue
            { walk with
              spot := { walk.spot with glob := walk.spot.glob + 1, path := walk.spot.path + 1 } }
      else if wanted == octet '[' then stepSet glob walk c
      else if wanted == octet '{' then stepOpen walk
      else stepLiteral glob walk c

def backToStar? (path : Octets) (walk : Walk) : Option Walk :=
  let star := walk.spot.star
  if 0 < star.path && star.path ≤ path.size then
    some { walk with spot := { walk.spot with glob := star.glob, path := star.path } }
  else none

/-- A walk that is stuck goes back to a star or on to the next alternative, if it can. -/
def goBack? (glob path : Octets) (walk : Walk) : Except Unit (Option Walk) :=
  match backToStar? path walk with
  | some walk => .ok (some walk)
  | none =>
    match walk.open_ with
    | [] => .ok none
    | outer :: rest =>
      match skipFrom glob true walk.spot.glob with
      | .malformed => .error ()
      | .alternative index =>
        .ok (some { walk with spot := { walk.spot with glob := index, path := outer.path } })
      | .closed index =>
        if 0 < walk.longest then .ok (some (leave walk index))
        else .ok (backToStar? path { walk with spot := outer, open_ := rest })

/-- Walks to the end; `isInverted` is the answer for a path that does not fit. -/
def run (glob path : Octets) (isInverted : Bool) : Nat → Walk → Bool
  | 0, _ => false
  | fuel + 1, walk =>
    if glob.size ≤ walk.spot.glob && path.size ≤ walk.spot.path then !isInverted
    else
      match step glob path walk with
      | .malformed => false
      | .continue walk => run glob path isInverted fuel walk
      | .stuck walk =>
        match goBack? glob path walk with
        | .error _ => false
        | .ok none => isInverted
        | .ok (some walk) => run glob path isInverted fuel walk

/-- A number of steps that no walk exceeds. -/
def stepLimit (glob path : Octets) : Nat :=
  (glob.size + 2) * (path.size + 2) * ((glob.size + 2) * (path.size + 2))

/-- Whether a path fits a pattern. -/
def accepts (pattern path : String) : Bool :=
  let glob := pattern.toUTF8.data
  let path := path.toUTF8.data
  let marks := (pattern.toList.takeWhile (· == '!')).length
  run glob path (marks % 2 == 1) (stepLimit glob path) { spot := { glob := marks } }

end StyleInline.Glob.Braces
