import StyleInline.Stylesheet.Selector

/-!
# Selectors and browsers

Not all browsers understand all selectors.  A rule of which one selector is not understood has no
effect at all, so rules are kept apart where that may happen.  For old browsers some selectors are
written with other means, or under names with prefixes.
-/

namespace StyleInline.Stylesheet

namespace Selector

/-- Support of what all but the oldest browsers of some families know. -/
def early (explorer firefox safari ios : Option Version) : Support :=
  [(.android, ⟨2, 1⟩), (.chrome, ⟨4, 0⟩), (.edge, ⟨12, 0⟩), (.opera, ⟨10, 0⟩),
    (.samsung, ⟨4, 0⟩)] ++
    ([(Family.explorer, explorer), (.firefox, firefox), (.safari, safari),
      (.iosSafari, ios)].filterMap fun (family, first) => first.map (family, ·))

def second : Support := early (some ⟨7, 0⟩) (some ⟨2, 0⟩) (some ⟨3, 1⟩) (some ⟨3, 2⟩)

def third : Support := early (some ⟨9, 0⟩) (some ⟨3, 5⟩) (some ⟨3, 2⟩) (some ⟨3, 2⟩)

/-- Support that starts with one version of each modern family. -/
def modern (chrome edge firefox opera safari ios samsung : Nat × Nat) : Support :=
  [(.android, ⟨chrome.1, chrome.2⟩), (.chrome, ⟨chrome.1, chrome.2⟩), (.edge, ⟨edge.1, edge.2⟩),
    (.firefox, ⟨firefox.1, firefox.2⟩), (.opera, ⟨opera.1, opera.2⟩),
    (.safari, ⟨safari.1, safari.2⟩), (.iosSafari, ⟨ios.1, ios.2⟩),
    (.samsung, ⟨samsung.1, samsung.2⟩)]

def choices : Support := modern (88, 0) (88, 0) (78, 0) (75, 0) (14, 0) (14, 0) (15, 0)

def exclusions : Support := modern (88, 0) (88, 0) (84, 0) (75, 0) (9, 0) (9, 0) (15, 0)

def relations : Support := modern (105, 0) (105, 0) (121, 0) (91, 0) (15, 4) (15, 4) (20, 0)

def oldChoices : Support := modern (18, 0) (79, 0) (4, 0) (15, 0) (5, 0) (5, 0) (1, 0)

def countingAmong : Support := modern (111, 0) (111, 0) (113, 0) (97, 0) (9, 0) (9, 0) (22, 0)

def directions : Support := modern (120, 0) (120, 0) (49, 0) (106, 0) (16, 4) (16, 4) (25, 0)

def languageLists : Support := [(.safari, ⟨9, 0⟩), (.iosSafari, ⟨9, 0⟩)]

def shadows : Support := modern (53, 0) (79, 0) (63, 0) (40, 0) (10, 0) (10, 0) (6, 0)

def partNames : Support := modern (73, 0) (79, 0) (72, 0) (60, 0) (13, 1) (13, 4) (11, 0)

def letterFlags : Support := modern (49, 0) (79, 0) (47, 0) (36, 0) (9, 0) (9, 0) (5, 0)

/-- Pseudo-classes and where they are understood; others are not understood anywhere. -/
def classSupport : List (String × Support) :=
  ["link", "visited", "active", "hover", "focus"].map (·, second) ++
  ["root", "empty", "checked", "disabled", "enabled", "target"].map (·, third) ++
  ["valid", "invalid", "required"].map (·,
    modern (10, 0) (12, 0) (4, 0) (10, 0) (10, 1) (10, 3) (4, 0) ++ [(.explorer, ⟨10, 0⟩)]) ++
  ["read-only", "read-write"].map (·,
    modern (36, 0) (13, 0) (78, 0) (23, 0) (9, 0) (9, 0) (4, 0)) ++
  ["in-range", "out-of-range"].map (·,
    modern (53, 0) (79, 0) (50, 0) (40, 0) (10, 1) (10, 3) (6, 2)) ++
  [("scope", shadows),
    ("any-link", modern (65, 0) (79, 0) (50, 0) (52, 0) (9, 0) (9, 0) (9, 2)),
    ("indeterminate", modern (39, 0) (79, 0) (51, 0) (26, 0) (10, 1) (10, 3) (4, 0)),
    ("fullscreen", [(.android, ⟨71, 0⟩), (.chrome, ⟨71, 0⟩), (.edge, ⟨79, 0⟩),
      (.firefox, ⟨64, 0⟩), (.opera, ⟨58, 0⟩), (.safari, ⟨16, 4⟩), (.samsung, ⟨10, 1⟩)]),
    ("focus-visible", modern (86, 0) (86, 0) (85, 0) (72, 0) (15, 4) (15, 4) (14, 0)),
    ("focus-within", modern (60, 0) (79, 0) (52, 0) (47, 0) (10, 1) (10, 3) (8, 2)),
    ("default", modern (51, 0) (79, 0) (4, 0) (38, 0) (10, 1) (10, 3) (5, 0)),
    ("optional", modern (15, 0) (12, 0) (4, 0) (10, 0) (5, 0) (5, 0) (4, 0) ++
      [(.explorer, ⟨10, 0⟩)]),
    ("placeholder-shown", modern (47, 0) (79, 0) (51, 0) (34, 0) (9, 0) (9, 0) (5, 0)),
    ("autofill", modern (110, 0) (110, 0) (86, 0) (96, 0) (15, 0) (15, 0) (21, 0))]

def elementSupport : List (String × Support) :=
  ["before", "after", "first-line", "first-letter"].map (·,
    early (some ⟨9, 0⟩) (some ⟨3, 5⟩) (some ⟨5, 1⟩) (some ⟨5, 0⟩)) ++
  [("selection", [(.android, ⟨4, 4⟩), (.chrome, ⟨4, 0⟩), (.edge, ⟨12, 0⟩), (.explorer, ⟨9, 0⟩),
      (.firefox, ⟨62, 0⟩), (.opera, ⟨10, 0⟩), (.safari, ⟨3, 1⟩), (.samsung, ⟨4, 0⟩)]),
    ("placeholder", modern (57, 0) (79, 0) (51, 0) (44, 0) (10, 1) (10, 3) (7, 2)),
    ("marker", modern (86, 0) (86, 0) (68, 0) (72, 0) (11, 1) (11, 3) (14, 0)),
    ("backdrop", modern (37, 0) (79, 0) (98, 0) (24, 0) (15, 4) (15, 4) (4, 0)),
    ("cue", modern (26, 0) (79, 0) (55, 0) (15, 0) (7, 0) (7, 0) (1, 5))]

def cues : Support :=
  [(.android, ⟨37, 0⟩), (.chrome, ⟨26, 0⟩), (.edge, ⟨79, 0⟩), (.opera, ⟨15, 0⟩),
    (.safari, ⟨7, 0⟩), (.iosSafari, ⟨7, 0⟩), (.samsung, ⟨1, 5⟩)]

def testSupport : Option AttributeTest → Support
  | none => second
  | some test =>
    if test.flag.isSome then letterFlags
    else if ["=", "~=", "|="].contains test.operator then second
    else third

mutual

def simpleIsUnderstood (targets : Targets) : Simple → Bool
  | .outer => targets.allHave choices
  | .space _ => targets.allHave (early (some ⟨9, 0⟩) (some ⟨2, 0⟩) (some ⟨4, 0⟩) (some ⟨3, 2⟩))
  | .element _ | .id _ | .className _ => true
  | .anything => targets.allHave second
  | .tested _ _ test => targets.allHave (testSupport test)
  | .counted .column _ _ _ | .counted .lastColumn _ _ _ => false
  | .counted counting every first none =>
    targets.allHave (if counting == .child && every == 0 && first == 1 then second else third)
  | .counted _ _ _ (some among) => targets.allHave countingAmong && allUnderstood targets among
  | .choice .none selectors => targets.allHave third && allUnderstood targets selectors
  | .choice .has selectors => targets.allHave relations && allUnderstood targets selectors
  | .choice (.old _) _ => targets.allHave oldChoices
  | .choice _ _ => targets.allHave choices
  | .host _ | .slotted _ => targets.allHave shadows
  | .parts _ => targets.allHave partNames
  | .languages _ => targets.allHave second
  | .direction _ => targets.allHave directions
  | .cue name _ => name == "cue" && targets.allHave cues
  | .pseudoClass name prefixes =>
    prefixes.all (· == .plain) && (classSupport.lookup name).any targets.allHave
  | .pseudoElement name prefixes =>
    prefixes.all (· == .plain) && (elementSupport.lookup name).any targets.allHave
  | .called _ _ _ => false
  | .combinator .later => targets.allHave third
  | .combinator .descendant => true
  | .combinator _ => targets.allHave second

def isUnderstood (targets : Targets) : List Simple → Bool
  | [] => true
  | first :: rest => simpleIsUnderstood targets first && isUnderstood targets rest

def allUnderstood (targets : Targets) : List (List Simple) → Bool
  | [] => true
  | first :: rest => isUnderstood targets first && allUnderstood targets rest

end

/-- How much a selector weighs: its names, its classes and its elements. -/
structure Weight where
  ids : Nat
  classes : Nat
  elements : Nat
  deriving DecidableEq, Repr, Inhabited

namespace Weight

def zero : Weight := ⟨0, 0, 0⟩

def add (a b : Weight) : Weight :=
  ⟨a.ids + b.ids, a.classes + b.classes, a.elements + b.elements⟩

def max (a b : Weight) : Weight :=
  if a.ids != b.ids then if a.ids < b.ids then b else a
  else if a.classes != b.classes then if a.classes < b.classes then b else a
  else if a.elements < b.elements then b else a

end Weight

mutual

def simpleWeight : Simple → Weight
  | .outer | .space _ | .anything | .combinator _ => .zero
  | .element _ | .pseudoElement _ _ | .parts _ | .cue _ _ => ⟨0, 0, 1⟩
  | .id _ => ⟨1, 0, 0⟩
  | .slotted inner => (weight inner).add ⟨0, 0, 1⟩
  | .host (some inner) => (weight inner).add ⟨0, 1, 0⟩
  | .counted _ _ _ (some among) => (greatestWeight among).add ⟨0, 1, 0⟩
  | .choice .light _ => .zero
  | .choice _ selectors => greatestWeight selectors
  | .called isElement _ _ => if isElement then ⟨0, 0, 1⟩ else ⟨0, 1, 0⟩
  | .className _ | .tested _ _ _ | .counted _ _ _ none | .host none | .languages _
  | .direction _ | .pseudoClass _ _ => ⟨0, 1, 0⟩

def weight : List Simple → Weight
  | [] => .zero
  | first :: rest => (simpleWeight first).add (weight rest)

/-- The weight of the heaviest of some selectors. -/
def greatestWeight : List (List Simple) → Weight
  | [] => .zero
  | first :: rest => (weight first).max (greatestWeight rest)

end

open Need (upTo since)

def classPrefixing : List (String × Prefixing) :=
  [("fullscreen", [(.webkit, [upTo .chrome (15, 0) (70, 0), upTo .opera (15, 0) (57, 0),
      upTo .safari (5, 1) (16, 3), upTo .samsung (4, 0) (9, 2), upTo .android (4, 4) (70, 0)]),
      (.moz, [upTo .firefox (10, 0) (63, 0)]),
      (.ms, [upTo .explorer (11, 0) (11, 0), upTo .edge (12, 0) (18, 0)])]),
    ("any-link", [(.webkit, [upTo .chrome (15, 0) (64, 0), upTo .opera (15, 0) (51, 0),
      upTo .safari (6, 1) (8, 0), upTo .iosSafari (7, 0) (8, 4), upTo .samsung (5, 0) (8, 2),
      upTo .android (4, 4) (64, 0)]),
      (.moz, [upTo .firefox (3, 0) (49, 0)])]),
    ("read-only", [(.moz, [upTo .firefox (3, 0) (77, 0)])]),
    ("read-write", [(.moz, [upTo .firefox (3, 0) (77, 0)])]),
    ("placeholder-shown", [(.moz, [upTo .firefox (4, 0) (50, 0)]),
      (.ms, [upTo .explorer (10, 0) (11, 0)])]),
    ("autofill", [(.webkit, [upTo .chrome (4, 0) (109, 0), upTo .opera (15, 0) (95, 0),
      upTo .safari (5, 0) (14, 1), upTo .iosSafari (4, 3) (14, 5), upTo .samsung (4, 0) (20, 0),
      upTo .edge (79, 0) (109, 0), upTo .android (2, 1) (109, 0)])])]

def elementPrefixing : List (String × Prefixing) :=
  [("selection", [(.moz, [upTo .firefox (2, 0) (61, 0)])]),
    ("placeholder", [(.webkit, [upTo .chrome (4, 0) (56, 0), upTo .opera (15, 0) (43, 0),
      upTo .safari (5, 0) (10, 0), upTo .iosSafari (4, 2) (10, 2), upTo .samsung (4, 0) (6, 4),
      upTo .android (2, 1) (4, 4)]),
      (.moz, [upTo .firefox (19, 0) (50, 0)]),
      (.ms, [upTo .edge (12, 0) (18, 0), upTo .explorer (10, 0) (11, 0)])]),
    ("backdrop", [(.webkit, [upTo .chrome (32, 0) (36, 0), upTo .opera (19, 0) (23, 0)]),
      (.ms, [upTo .edge (12, 0) (18, 0), upTo .explorer (11, 0) (11, 0)])]),
    ("file-selector-button", [(.webkit, [upTo .chrome (4, 0) (88, 0),
      upTo .opera (15, 0) (74, 0), upTo .safari (3, 1) (14, 0), upTo .iosSafari (3, 2) (14, 0),
      upTo .samsung (4, 0) (14, 0), upTo .edge (79, 0) (88, 0), upTo .android (2, 1) (88, 0)]),
      (.ms, [upTo .edge (12, 0) (18, 0), upTo .explorer (10, 0) (11, 0)])])]

def choicePrefixing : Prefixing :=
  [(.webkit, [upTo .chrome (18, 0) (87, 0), upTo .edge (79, 0) (87, 0), upTo .opera (15, 0) (74, 0),
      upTo .safari (5, 0) (13, 1), upTo .iosSafari (5, 0) (13, 7), upTo .samsung (1, 0) (14, 0),
      upTo .android (37, 0) (87, 0)]),
    (.moz, [upTo .firefox (4, 0) (77, 0)])]

def prefixesOf (targets : Targets) (prefixing : Prefixing) (prefixes : List Prefix) :
    List Prefix :=
  if targets.isEmpty || !prefixes.contains .plain then prefixes else prefixing.neededBy targets

/-- The prefixes that a part of a selector brings; the empty one stands for parts that may have to
be written in another way. -/
def ownPrefixes : Simple → List Prefix
  | .languages _ | .direction _ => [.plain]
  | .choice (.old before) _ => [before]
  | .choice _ _ => [.plain]
  | .pseudoClass _ prefixes => prefixes
  | .pseudoElement _ prefixes => prefixes
  | _ => []

/-- The prefixes of some parts; different ones cancel each other. -/
def sharedPrefixes : List Simple → List Prefix → List Prefix
  | [], found => found
  | first :: rest, found =>
    let own := ownPrefixes first
    let named := found.filter (· != .plain)
    if own.isEmpty then sharedPrefixes rest found
    else if named.isEmpty || named == own then
      sharedPrefixes rest (Prefix.inOrder (found ++ own))
    else []

def rightToLeft : List String :=
  ["ae", "ar", "arc", "bcc", "bqi", "ckb", "dv", "fa", "glk", "he", "ku", "mzn", "nqo", "pnb",
    "ps", "sd", "ug", "ur", "yi"]

def eachLanguage (targets : Targets) (languages : List String) : Simple × List Prefix :=
  let prefixes := if targets.allHave choices then [.plain] else choicePrefixing.neededBy targets
  (.choice .is (languages.map fun name => [.languages [name]]), prefixes)

def exclusion (targets : Targets) (selectors : List (List Simple)) (needed : List Prefix) :
    Simple × List Prefix :=
  if 1 < selectors.length && !targets.allHave exclusions then
    let prefixes := if targets.allHave choices then [.plain] else choicePrefixing.neededBy targets
    (.choice .none [[.choice .is selectors]], needed ++ prefixes)
  else (.choice .none selectors, needed)

def directionByLanguage (targets : Targets) (isLeftToRight : Bool) : Simple × List Prefix :=
  if targets.allHave languageLists then
    let all : Simple := .languages rightToLeft
    (if isLeftToRight then .choice .none [[all]] else all, [])
  else if isLeftToRight then
    exclusion targets (rightToLeft.map fun name => [.languages [name]]) []
  else eachLanguage targets rightToLeft

mutual

/-- A part of a selector as targets understand it, and the prefixes that it needs. -/
def lowerSimple (targets : Targets) : Simple → Simple × List Prefix
  | .direction isLeftToRight =>
    if targets.allHave directions then (.direction isLeftToRight, [])
    else directionByLanguage targets isLeftToRight
  | .languages names =>
    if 1 < names.length && !targets.allHave languageLists then eachLanguage targets names
    else (.languages names, [])
  | .pseudoClass name prefixes =>
    let needed := prefixesOf targets ((classPrefixing.lookup name).getD []) prefixes
    (.pseudoClass name needed, needed)
  | .pseudoElement name prefixes =>
    let needed := prefixesOf targets ((elementPrefixing.lookup name).getD []) prefixes
    (.pseudoElement name needed, needed)
  | .choice .is selectors =>
    let (selectors, needed) := lowerList targets selectors
    let isSimple := selectors.all fun selector => !selector.any Simple.endsCompound
    let own :=
      if !targets.allHave choices && isSimple then choicePrefixing.neededBy targets else [.plain]
    (.choice .is selectors, needed ++ own)
  | .choice .none selectors =>
    let (selectors, needed) := lowerList targets selectors
    exclusion targets selectors needed
  | .choice how selectors =>
    let (selectors, needed) := lowerList targets selectors
    (.choice how selectors, needed)
  | other => (other, [])

/-- Parts of a selector as targets understand them. -/
def lowerAll (targets : Targets) : List Simple → List Simple × List Prefix
  | [] => ([], [])
  | first :: rest =>
    let (first, needed) := lowerSimple targets first
    let (rest, others) := lowerAll targets rest
    (first :: rest, needed ++ others)

def lowerList (targets : Targets) : List (List Simple) → List (List Simple) × List Prefix
  | [] => ([], [])
  | first :: rest =>
    let (first, needed) := lowerAll targets first
    let (rest, others) := lowerList targets rest
    (first :: rest, needed ++ others)

end

/-- Selectors as targets understand them, and the prefixes under which they are written. -/
def lowered (targets : Targets) (selectors : List Selector) : List Selector × List Prefix :=
  let prefixes := sharedPrefixes selectors.flatten []
  if prefixes.contains .plain && !targets.isEmpty then
    let (selectors, needed) := lowerList targets selectors
    (selectors, Prefix.inOrder needed)
  else (selectors, prefixes)

mutual

def bareSimple : Simple → Simple
  | .pseudoClass name _ => .pseudoClass name []
  | .pseudoElement name _ => .pseudoElement name []
  | .choice (.old _) selectors => .choice .is (bareList selectors)
  | .choice how selectors => .choice how (bareList selectors)
  | other => other

def bare : List Simple → List Simple
  | [] => []
  | first :: rest => bareSimple first :: bare rest

def bareList : List (List Simple) → List (List Simple)
  | [] => []
  | first :: rest => bare first :: bareList rest

end

def withDirection (isLeftToRight : Bool) (selector : Selector) : Selector :=
  let (compound, before) := selector.reverse.span (!·.isCombinator)
  let (own, behind) := compound.reverse.span (!·.endsCompound)
  before.reverse ++ own ++ .direction isLeftToRight :: behind

end Selector

end StyleInline.Stylesheet
