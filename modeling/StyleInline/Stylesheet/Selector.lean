import StyleInline.Stylesheet.Prefix
import StyleInline.Stylesheet.Spaced

/-!
# Selectors

A selector is a row of compounds with combinators between them.  A compound says what an element
is: its name, its classes, its place among others.  A nested selector may name the elements around
it; what stands for them is filled in when the selector is written.
-/

namespace StyleInline.Stylesheet

inductive Combinator where
  | descendant
  | child
  | next
  | later
  deriving DecidableEq, Repr, Inhabited

namespace Combinator

def sign : Combinator → String
  | .descendant => " "
  | .child => ">"
  | .next => "+"
  | .later => "~"

def ofChar? (c : Char) : Option Combinator :=
  if c == '>' then some .child
  else if c == '+' then some .next
  else if c == '~' then some .later
  else none

def text (combinator : Combinator) : Spaced :=
  if combinator == .descendant then Spaced.blank else [.gap, .text combinator.sign, .gap]

end Combinator

/-- Which of its siblings an element is counted among, and from which end. -/
inductive Counting where
  | child
  | lastChild
  | onlyChild
  | ofType
  | lastOfType
  | onlyOfType
  | column
  | lastColumn
  deriving DecidableEq, Repr, Inhabited

namespace Counting

def names : List (String × Counting) :=
  [("nth-child", .child), ("nth-last-child", .lastChild), ("nth-of-type", .ofType),
    ("nth-last-of-type", .lastOfType), ("nth-col", .column), ("nth-last-col", .lastColumn)]

def firstNames : List (String × Counting) :=
  [("first-child", .child), ("last-child", .lastChild), ("first-of-type", .ofType),
    ("last-of-type", .lastOfType)]

def onlyNames : List (String × Counting) :=
  [("only-child", .onlyChild), ("only-of-type", .onlyOfType)]

def nameIn (names : List (String × Counting)) (counting : Counting) : Option String :=
  (names.find? (·.2 == counting)).map Prod.fst

/-- Only children may be counted among those that match selectors. -/
def allowsSelectors (counting : Counting) : Bool := counting == .child || counting == .lastChild

end Counting

inductive Choice where
  | is
  /-- As `is`, but without weight. -/
  | light
  | none
  | has
  | old (before : Prefix)
  deriving DecidableEq, Repr, Inhabited

/-- A test on an attribute: how its value compares with another one, and how letters count. -/
structure AttributeTest where
  operator : String
  value : String
  flag : Option String
  deriving DecidableEq, Repr, Inhabited

inductive Simple where
  | outer
  | space (name : String)
  | element (name : String)
  | anything
  | id (name : String)
  | className (name : String)
  | tested (qualifier : Option String) (name : String) (test : Option AttributeTest)
  | counted (counting : Counting) (every first : Int) (among : Option (List (List Simple)))
  | choice (choice : Choice) (selectors : List (List Simple))
  | host (inner : Option (List Simple))
  | slotted (inner : List Simple)
  | parts (names : List String)
  | languages (names : List String)
  | direction (isLeftToRight : Bool)
  | cue (name : String) (inner : List Simple)
  | pseudoClass (name : String) (prefixes : List Prefix)
  | pseudoElement (name : String) (prefixes : List Prefix)
  /-- A pseudo-class or a pseudo-element with an argument that is not understood. -/
  | called (isElement : Bool) (name argument : String)
  | combinator (combinator : Combinator)
  deriving BEq, Repr, Inhabited

abbrev Selector := List Simple

structure Wording where
  before : Option Prefix
  /-- What stands for the elements around, at the start of a selector and elsewhere; nothing if
  they are only referred to. -/
  outer : Option (Spaced × Spaced)
  /-- The elements around are filled in. -/
  fillsOuter : Bool
  deriving Inhabited

namespace Wording

/-- Of the prefixes that a name may have, the one that is written. -/
def prefixOf (wording : Wording) (prefixes : List Prefix) : Prefix :=
  match wording.before with
  | some before => if prefixes.contains before then before else .plain
  | none => prefixes.headD .plain

def outerText (wording : Wording) (isFirst : Bool) : Spaced :=
  match wording.outer with
  | some (first, other) => if isFirst then first else other
  | none => Spaced.ofText (if wording.fillsOuter then ":scope" else "&")

end Wording

namespace Simple

def prefixedClasses : List (String × List (Prefix × String)) :=
  [("fullscreen", [(.plain, "fullscreen"), (.webkit, "-webkit-full-screen"),
      (.moz, "-moz-full-screen"), (.ms, "-ms-fullscreen")]),
    ("any-link", [(.plain, "any-link"), (.webkit, "-webkit-any-link"), (.moz, "-moz-any-link")]),
    ("read-only", [(.plain, "read-only"), (.moz, "-moz-read-only")]),
    ("read-write", [(.plain, "read-write"), (.moz, "-moz-read-write")]),
    ("placeholder-shown", [(.plain, "placeholder-shown"), (.moz, "-moz-placeholder-shown"),
      (.ms, "-ms-placeholder-shown")]),
    ("autofill", [(.plain, "autofill"), (.webkit, "-webkit-autofill"), (.o, "-o-autofill")])]

def prefixedElements : List (String × List (Prefix × String)) :=
  [("selection", [(.plain, "selection"), (.moz, "-moz-selection")]),
    ("placeholder", [(.plain, "placeholder"), (.webkit, "-webkit-input-placeholder"),
      (.moz, "-moz-placeholder"), (.ms, "-ms-input-placeholder")]),
    ("backdrop", [(.plain, "backdrop"), (.webkit, "-webkit-backdrop")]),
    ("file-selector-button", [(.plain, "file-selector-button"),
      (.webkit, "-webkit-file-upload-button"), (.ms, "-ms-browse")])]

def spelled? (table : List (String × List (Prefix × String))) (spelling : String) :
    Option (String × Prefix) :=
  table.findSome? fun (name, spellings) =>
    (spellings.find? (·.2 == spelling)).map fun (before, _) => (name, before)

def spelling (table : List (String × List (Prefix × String))) (name : String) (before : Prefix) :
    String :=
  ((table.lookup name).bind (List.lookup before)).getD name

def oldElements : List String := ["before", "after", "first-line", "first-letter"]

def withSign (value : Int) : String := (if value < 0 then "" else "+") ++ toString value

def stepsText (every first : Int) : String :=
  if every == 2 && first == 1 then "odd"
  else if every == 0 then toString first
  else
    let factor := if every == 1 then "" else if every == -1 then "-" else toString every
    factor ++ "n" ++ if first == 0 then "" else withSign first

def isElement : Simple → Bool
  | element _ | anything => true
  | _ => false

def isCombinator : Simple → Bool
  | combinator _ => true
  | _ => false

def isPseudoElement : Simple → Bool
  | pseudoElement _ _ | cue _ _ => true
  | called isElement _ _ => isElement
  | _ => false

/-- The end of what a compound says about the element itself: a combinator or the pseudo-element
behind it. -/
def endsCompound (simple : Simple) : Bool :=
  simple.isCombinator || simple.isPseudoElement ||
    match simple with
    | slotted _ | parts _ => true
    | _ => false

mutual

def namesOuter : Simple → Bool
  | outer => true
  | counted _ _ _ (some among) => listNamesOuter among
  | choice _ selectors => listNamesOuter selectors
  | _ => false

def anyNamesOuter : List Simple → Bool
  | [] => false
  | first :: rest => first.namesOuter || anyNamesOuter rest

def listNamesOuter : List (List Simple) → Bool
  | [] => false
  | first :: rest => anyNamesOuter first || listNamesOuter rest

end

/-- Without the sign for any element where the compound says more; `isAlone` tells that nothing
but the elements around comes before in the compound, and `hasSpace` that a namespace does. -/
def withoutAnything (isAlone hasSpace : Bool) : List (Simple × Spaced) → List Spaced
  | [] => []
  | (anything, text) :: rest =>
    let isLast :=
      match rest with
      | [] => true
      | (next, _) :: _ => next.endsCompound && !next.isPseudoElement
    (if hasSpace || (isAlone && isLast) then [text] else []) ++ withoutAnything false false rest
  | (combinator _, text) :: rest => text :: withoutAnything true false rest
  | (outer, text) :: rest => text :: withoutAnything isAlone hasSpace rest
  | (space _, text) :: rest => text :: withoutAnything isAlone true rest
  | (_, text) :: rest => text :: withoutAnything false false rest

/-- The texts of the parts of a selector as one.  Where the elements around come first and are
filled in, the name of an element moves in front of them. -/
def joined (wording : Wording) (parts : List Simple) (texts : List Spaced) : Spaced :=
  let behind (both : List (Simple × Spaced)) : Spaced := (withoutAnything false false both).flatten
  let inOrder (both : List (Simple × Spaced)) : Spaced := (withoutAnything true false both).flatten
  match wording.fillsOuter, parts.zip texts with
  | true, (outer, text) :: (space _, spaceText) :: (type, typeText) :: rest =>
    if type.isElement then spaceText ++ typeText ++ text ++ behind rest
    else wording.outerText true ++ spaceText ++ behind ((type, typeText) :: rest)
  | true, (outer, text) :: (type, typeText) :: rest =>
    if type.isElement then typeText ++ text ++ behind rest
    else wording.outerText true ++ inOrder ((type, typeText) :: rest)
  | true, [(outer, _)] => wording.outerText true
  | _, both => inOrder both

def isPlain (selector : List Simple) : Bool :=
  let start :=
    match selector with
    | space _ :: rest => rest
    | selector => selector
  !(start.head?.any isElement) && !selector.any endsCompound

def enclosed (name : String) (selectors : List Spaced) : Spaced :=
  Spaced.call name (Spaced.listed selectors)

/-- A relative selector: its first combinator has no blank before it. -/
def relative (text : Spaced) : Spaced :=
  match text with
  | .gap :: rest => rest
  | text => text

def choiceText (wording : Wording) (choice : Choice) (selectors : List (List Simple))
    (texts : List Spaced) : Spaced :=
  let anyName (before : Prefix) : String :=
    if before == .webkit || before == .moz then ":" ++ before.text ++ "any" else ":is"
  match choice with
  | .is =>
    match selectors, texts with
    | [only], [text] =>
      if isPlain only then text else enclosed (anyName (wording.before.getD .plain)) [text]
    | _, _ => enclosed (anyName (wording.before.getD .plain)) texts
  | .light => enclosed ":where" texts
  | .none => enclosed ":not" texts
  | .has => enclosed ":has" (texts.map relative)
  | .old before => enclosed (anyName (wording.before.getD before)) texts

/-- An attribute as it is written; its value needs no quotes where it is a name. -/
def attributeText (qualifier : Option String) (name : String) (test : Option AttributeTest) :
    Spaced :=
  let name := (qualifier.map (· ++ "|")).getD "" ++ Written.name name
  match test with
  | none => Spaced.ofText ("[" ++ name ++ "]")
  | some test =>
    let (bare, quoted) := (Written.name test.value, Written.text test.value)
    let narrow := if !test.value.isEmpty && bare.length < quoted.length then bare else quoted
    let flag := (test.flag.map (" " ++ ·)).getD ""
    [.text ("[" ++ name ++ test.operator), .either quoted narrow, .text (flag ++ "]")]

/-- The start of a pseudo-class that counts, or all of it where no argument is needed. -/
def countedText (counting : Counting) (every first : Int) (among : Option (List Spaced)) :
    Spaced :=
  let isFirst := every == 0 && first == 1
  match among, counting.nameIn Counting.onlyNames, counting.nameIn Counting.firstNames,
    counting.nameIn Counting.names with
  | some texts, _, _, some name =>
    Spaced.call (":" ++ name) (Spaced.ofText (stepsText every first ++ " of ") ++
      Spaced.listed texts)
  | _, some name, _, _ => Spaced.ofText (":" ++ name)
  | _, _, some first', some name =>
    if isFirst then Spaced.ofText (":" ++ first')
    else Spaced.ofText (":" ++ name ++ "(" ++ stepsText every first ++ ")")
  | _, _, _, some name =>
    Spaced.ofText (":" ++ name ++ "(" ++ if isFirst then "" else stepsText every first ++ ")")
  | _, _, _, none => []

mutual

def text (wording : Wording) : Simple → Spaced
  | outer => wording.outerText false
  | space name => Spaced.ofText (name ++ "|")
  | element name => Spaced.ofText (Written.name name)
  | anything => Spaced.ofText "*"
  | id name => Spaced.ofText ("#" ++ Written.name name)
  | className name => Spaced.ofText ("." ++ Written.name name)
  | tested qualifier name test => attributeText qualifier name test
  | counted counting every first none => countedText counting every first none
  | counted counting every first (some among) =>
    countedText counting every first (some (listTexts wording among))
  | choice how selectors => choiceText wording how selectors (listTexts wording selectors)
  | host none => Spaced.ofText ":host"
  | host (some inner) => enclosed ":host" [joined wording inner (texts wording inner)]
  | slotted inner => enclosed "::slotted" [joined wording inner (texts wording inner)]
  | parts names => Spaced.ofText ("::part(" ++ " ".intercalate (names.map Written.name) ++ ")")
  | languages names =>
    enclosed ":lang" (names.map fun name => Spaced.ofText (Written.name name))
  | direction isLeftToRight => Spaced.ofText (if isLeftToRight then ":dir(ltr)" else ":dir(rtl)")
  | cue name inner => enclosed ("::" ++ name) [joined wording inner (texts wording inner)]
  | pseudoClass name prefixes =>
    Spaced.ofText (":" ++ spelling prefixedClasses name (wording.prefixOf prefixes))
  | pseudoElement name prefixes =>
    Spaced.ofText ((if oldElements.contains name then ":" else "::") ++
      spelling prefixedElements name (wording.prefixOf prefixes))
  | called isElement name argument =>
    Spaced.ofText ((if isElement then "::" else ":") ++ name ++ "(" ++ argument ++ ")")
  | combinator sign => sign.text

def texts (wording : Wording) : List Simple → List Spaced
  | [] => []
  | first :: rest => first.text wording :: texts wording rest

def listTexts (wording : Wording) : List (List Simple) → List Spaced
  | [] => []
  | first :: rest => joined wording first (texts wording first) :: listTexts wording rest

end

end Simple

namespace Selector

def text (wording : Wording) (selector : Selector) : Spaced :=
  Simple.joined wording selector (Simple.texts wording selector)

def listText (wording : Wording) (selectors : List Selector) : Spaced :=
  Spaced.listed (selectors.map (text wording))

/-- What stands for the elements around a nested rule, whose selectors are given from the
innermost rule on: one selector alone, or any of several. -/
def standFor (before : Option Prefix) : List (List Selector) → Option (Spaced × Spaced)
  | [] => none
  | selectors :: others =>
    let wording : Wording := ⟨before, standFor before others, true⟩
    let choice := Spaced.call ":is" (listText wording selectors)
    match selectors with
    | [only] =>
      let text := only.text wording
      some (text, if Simple.isPlain only then text else choice)
    | _ => some (choice, choice)

def wordingWithin (fillsOuter : Bool) (before : Option Prefix) (around : List (List Selector)) :
    Wording :=
  ⟨before, if fillsOuter then standFor before around else none, fillsOuter⟩

end Selector

end StyleInline.Stylesheet
