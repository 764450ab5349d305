import StyleInline.Script.Grammar.Functions

/-!
# Literals

The readers of arrays, objects, templates and pattern literals.
-/

namespace StyleInline.Script.Grammar

/-- A literal or word that prints as it is written. -/
def literally (raw : String) : Node := .form (.literal raw) []

def argument (recur : Read) : Parse Node := do
  if ← eatMark "..." then return .form .spread [← withIn (recur .assignment)]
  withIn (recur .assignment)

def arrayLiteral (recur : Read) : Parse Node := do
  advance
  let (elements, isTrailed) ← elementList fun _ => argument recur
  return .form (.array isTrailed) elements

/-- A property without a value of its own, behind its name. -/
def shortProperty (recur : Read) (name : String) : Parse Node := do
  if ← eatMark "=" then
    return .form .patternDefault [.ident .bind { name }, ← recur .assignment]
  return .ident .shorthand { name }

def objectGetter (recur : Read) : Parse Node := do
  let key ← propertyName recur
  match ← inMethod (functionWith recur false false (getterParameters recur)) with
  | .form _ [_, _, body, _, result] => return .form .objectGetter [key, result, body]
  | function => return function

def objectSetter (recur : Read) : Parse Node := do
  let key ← propertyName recur
  match ← inMethod (functionWith recur false false (setterParameters recur)) with
  | .form _ [.form .group parameters, _, body, _, _] =>
    let (self, parameter) := setterParts parameters
    return .form .objectSetter [key, self, parameter, body]
  | function => return function

def objectMethod (recur : Read) (key : Node) (isAsync isGenerator : Bool) : Parse Node := do
  return .form .objectMethod [key, ← inMethod (recur (.function isAsync isGenerator))]

/-- A property whose name is a word that says what stands behind it. -/
def markedProperty (recur : Read) (hasModifier : Bool) (word : String) : Parse Node := do
  if !(["get", "set", "async"].contains word) then
    if ← typed then
      refuseToken ("... , *,  (, [, :, , ?, =, an identifier, public, protected, private, " ++
        "readonly, <.")
    else refuseToken "... , *,  (, [, :, , ?, = or an identifier"
  if hasModifier then note .accessorModifier
  if word == "get" then return ← objectGetter recur
  if word == "set" then return ← objectSetter recur
  let isGenerator ← eatMark "*"
  objectMethod recur (← propertyName recur) true isGenerator

def followsPropertyName : Token → Bool
  | .word _ | .text _ | .number _ | .bigint _ => true
  | .punct mark => ["(", "[", ":", ",", "?", "=", "*", "<", "\x7d"].contains mark
  | .fault _ | .eof => false

def objectProperty (recur : Read) : Parse Node := do
  if ← eatMark "..." then return .form .spread [← withIn (recur .assignment)]
  if ← eatMark "*" then return ← objectMethod recur (← propertyName recur) false true
  let hasModifier ← eatFieldModifier
  let key ← propertyName recur
  if (← typed) && !followsPropertyName (← sight) then
    note .semicolonExpected
    return .form .pair [key, .absent]
  if ← eatMark ":" then return .form .pair [key, ← withIn (recur .assignment)]
  if (← atMark "(") || ((← typed) && (← atMark "<")) then
    return ← objectMethod recur key false false
  match key with
  | .form (.key word) _ =>
    if ← eatMark "?" then note .optionalMember
    if ← atMarks ["=", ",", "\x7d"] then shortProperty recur word
    else markedProperty recur hasModifier word
  | _ => refuseToken "identifier"

def objectLiteral (recur : Read) : Parse Node := do
  advance
  let (properties, isTrailed) ← propertyList (objectProperty recur)
  return .form (.object isTrailed) properties

inductive PatternPlace where
  | plain
  | brackets
  | escaped (inBrackets : Bool)

/-- What stands behind the body of a pattern literal, which a slash outside of brackets ends; a
pattern literal that ends with its line is left where it is. -/
def behindPattern : PatternPlace → List Char → Except (List Char) (List Char)
  | _, [] => .error []
  | place, c :: rest =>
    if Lexer.isLineEnd c then .error (c :: rest)
    else
      match place with
      | .escaped inBrackets => behindPattern (if inBrackets then .brackets else .plain) rest
      | .plain =>
        if c == '/' then .ok rest
        else behindPattern (if c == '[' then .brackets else if c == '\\' then .escaped false
          else .plain) rest
      | .brackets =>
        behindPattern (if c == ']' then .plain else if c == '\\' then .escaped true
          else .brackets) rest

def patternFlags : List Char := ['d', 'g', 'i', 'm', 's', 'u', 'v', 'y']

/-- Notes flags that do not exist and flags that are written twice. -/
def checkFlags (flags : List Char) : Parse Unit := do
  if !flags.all patternFlags.contains then note .patternFlag
  match flags.find? fun flag => 1 < flags.count flag with
  | some flag => note (.repeatedPatternFlag flag)
  | none => pure ()

def seeFault (error : ParseError) (rest : List Char) : Parse Unit :=
  modify fun cursor => { cursor with lexed := { cursor.lexed with token := .fault error, rest } }

def patternLiteral : Parse Node := do
  let start := (← get).lexed.start
  match behindPattern .plain (start.drop 1) with
  | .error rest =>
    seeFault .unterminatedPattern rest
    refuse .expressionExpected
  | .ok body =>
    let flags :=
      if (body.take 1).any Text.isIdentifierStart then body.takeWhile Text.isIdentifierPart
      else []
    let rest := body.drop flags.length
    resume rest
    checkFlags flags
    return literally (Lexer.consumed start rest)

def templateLiteral (recur : Read) (isTagged : Bool) : Parse Node := do
  let (texts, nodes) ← templateParts isTagged (recur .expression)
  return .form (.template texts) nodes

end StyleInline.Script.Grammar
