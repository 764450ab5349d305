import StyleInline.Stylesheet.Spaced

/-!
# Grammars of values

A grammar reads some parts of a value and gives what they mean, or fails.  White space between
parts does not count.  A grammar that fails leaves nothing behind, so that another one can be
tried.
-/

namespace StyleInline.Stylesheet

abbrev Grammar (α : Type) := StateT (List Part) Option α

namespace Grammar

def fail {α : Type} : Grammar α := fun _ => none

def next : Grammar Part := fun parts =>
  match Part.dropBlank parts with
  | [] => none
  | part :: rest => some (part, rest)

def rest : Grammar (List Part) := fun parts => some (Part.dropBlank parts, [])

def ended : Grammar Bool := fun parts => some ((Part.dropBlank parts).isEmpty, parts)

/-- What a grammar gives for parts of which nothing may be left. -/
def whole? {α : Type} (grammar : Grammar α) (parts : List Part) : Option α :=
  match grammar parts with
  | some (found, rest) => if (Part.dropBlank rest).isEmpty then some found else none
  | none => none

def perhaps {α : Type} (grammar : Grammar α) : Grammar (Option α) :=
  (some <$> grammar) <|> pure none

def such {α : Type} (grammar : Grammar α) (holds : α → Bool) : Grammar α := do
  let found ← grammar
  if holds found then return found else fail

/-- What a partial function gives for what a grammar finds. -/
def mapped {α β : Type} (grammar : Grammar α) (f : α → Option β) : Grammar β := do
  match f (← grammar) with
  | some found => return found
  | none => fail

def manyWithin {α : Type} (grammar : Grammar α) : Nat → Grammar (List α)
  | 0 => return []
  | fuel + 1 => do
    match ← perhaps grammar with
    | some first => return first :: (← manyWithin grammar fuel)
    | none => return []

def many {α : Type} (grammar : Grammar α) : Grammar (List α) := fun parts =>
  manyWithin grammar (parts.length + 1) parts

def atLeastOne {α : Type} (grammar : Grammar α) : Grammar (List α) :=
  such (many grammar) (!·.isEmpty)

/-- What a grammar finds between the commas of all that is left. -/
def listed {α : Type} (grammar : Grammar α) : Grammar (List α) := do
  let parts ← rest
  match (Part.splitAt .comma parts).mapM fun (parts, _) => whole? grammar parts with
  | some found => return found
  | none => fail

/-- The next part is a token for which a function gives something. -/
def leaf {α : Type} (f : Token → Option α) : Grammar α := mapped next fun part =>
  match part with
  | .leaf ⟨token, _⟩ => f token
  | .block _ _ _ => none

def token (wanted : Token) : Grammar Unit :=
  leaf fun found => if found == wanted then some () else none

def comma : Grammar Unit := token .comma

def slash : Grammar Unit := token (.delim '/')

def ident : Grammar String := leaf fun
  | .ident name => some name
  | _ => none

def lower : Grammar String := String.toLower <$> ident

/-- One of some words, in whatever letters. -/
def word (words : List String) : Grammar String := such lower words.contains

/-- One of some words as it is written. -/
def keyword (words : List String) : Grammar Spaced := Spaced.ofText <$> word words

def string : Grammar String := leaf fun
  | .text value => some value
  | _ => none

def integer : Grammar Int := leaf fun
  | .number value => value.int?
  | _ => none

/-- A call of one of some functions: its name in small letters, and its arguments. -/
def callOf (names : List String) : Grammar (String × List Part) := mapped next fun
  | .block ⟨.function name, _⟩ inner _ =>
    if names.contains name.toLower then some (name.toLower, inner) else none
  | _ => none

def call {α : Type} (name : String) (inner : Grammar α) : Grammar α :=
  mapped (callOf [name]) fun (_, arguments) => whole? inner arguments

def bracketed {α : Type} (bracket : Bracket) (inner : Grammar α) : Grammar α :=
  mapped next fun
    | .block ⟨.opening found, _⟩ parts _ =>
      if found == bracket then whole? inner parts else none
    | _ => none

def oneOf {α : Type} : List (Grammar α) → Grammar α
  | [] => fail
  | first :: rest => first <|> oneOf rest

def toEnd {α : Type} (grammar : Grammar α) : Grammar α := do
  let found ← grammar
  if ← ended then return found else fail

end Grammar

end StyleInline.Stylesheet
