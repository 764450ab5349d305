import StyleInline.Stylesheet.Browser

/-!
# Prefixed names

Some browsers know a property, a value or a rule only under a name with a prefix of their own.
-/

namespace StyleInline.Stylesheet

/-- The prefixes of names, in the order in which prefixed names are written; the last one is
empty. -/
inductive Prefix where
  | webkit
  | moz
  | ms
  | o
  | plain
  deriving DecidableEq, Repr, Inhabited

namespace Prefix

def text : Prefix → String
  | .webkit => "-webkit-"
  | .moz => "-moz-"
  | .ms => "-ms-"
  | .o => "-o-"
  | .plain => ""

def all : List Prefix := [.webkit, .moz, .ms, .o, .plain]

def split (name : String) : Prefix × String :=
  match all.find? fun candidate => candidate != .plain && name.startsWith candidate.text with
  | some found => (found, (name.drop found.text.length).toString)
  | none => (.plain, name)

def inOrder (prefixes : List Prefix) : List Prefix := all.filter prefixes.contains

end Prefix

/-- The versions of a family that need a prefix; without an end no version does without it. -/
structure Need where
  family : Family
  first : Version
  last : Option Version
  deriving DecidableEq, Repr, Inhabited

namespace Need

def holds (need : Need) (browser : Browser) : Bool :=
  browser.family == need.family && need.first.le browser.version &&
    need.last.all browser.version.le

def upTo (family : Family) (first last : Nat × Nat) : Need :=
  ⟨family, ⟨first.1, first.2⟩, some ⟨last.1, last.2⟩⟩

def since (family : Family) (first : Nat × Nat) : Need := ⟨family, ⟨first.1, first.2⟩, none⟩

end Need

/-- What has prefixes: for each of them the versions that need it. -/
abbrev Prefixing := List (Prefix × List Need)

namespace Prefixing

open Need (upTo since)

def userSelect : Prefixing :=
  [(.webkit, [since .safari (3, 1), since .iosSafari (3, 2), upTo .chrome (4, 0) (53, 0),
      upTo .opera (15, 0) (40, 0), upTo .android (2, 1) (4, 4), upTo .samsung (4, 0) (5, 4),
      upTo .edge (12, 0) (18, 0)]),
    (.moz, [upTo .firefox (2, 0) (68, 0)]),
    (.ms, [upTo .edge (12, 0) (18, 0), upTo .explorer (10, 0) (11, 0)])]

def appearance : Prefixing :=
  [(.webkit, [upTo .safari (3, 1) (15, 3), upTo .iosSafari (3, 2) (15, 3),
      upTo .chrome (4, 0) (83, 0), upTo .edge (12, 0) (83, 0), upTo .opera (15, 0) (72, 0),
      upTo .android (2, 1) (4, 4), upTo .samsung (4, 0) (13, 0)]),
    (.moz, [upTo .firefox (2, 0) (79, 0)]),
    (.ms, [since .explorer (5, 5)])]

def backdropFilter : Prefixing :=
  [(.webkit, [upTo .safari (9, 0) (17, 6), upTo .iosSafari (9, 0) (17, 6),
      upTo .edge (17, 0) (18, 0)])]

def filters : Prefixing :=
  [(.webkit, [upTo .android (4, 4) (4, 4), upTo .chrome (18, 0) (52, 0),
      upTo .iosSafari (6, 0) (9, 3), upTo .opera (15, 0) (39, 0), upTo .safari (6, 0) (9, 0),
      upTo .samsung (4, 0) (6, 4)])]

def transition : Prefixing :=
  [(.webkit, [upTo .android (2, 1) (4, 3), upTo .chrome (4, 0) (25, 0),
      upTo .iosSafari (3, 2) (6, 1), upTo .safari (3, 1) (6, 0)]),
    (.moz, [upTo .firefox (4, 0) (15, 0)]),
    (.o, [upTo .opera (10, 5) (12, 0)])]

def animation : Prefixing :=
  [(.webkit, [upTo .android (2, 1) (4, 4), upTo .chrome (4, 0) (42, 0),
      upTo .iosSafari (3, 2) (8, 4), upTo .opera (15, 0) (29, 0), upTo .safari (4, 0) (8, 0)]),
    (.moz, [upTo .firefox (5, 0) (15, 0)]),
    (.o, [upTo .opera (12, 0) (12, 0)])]

def transform : Prefixing :=
  [(.webkit, [upTo .android (2, 1) (4, 4), upTo .chrome (4, 0) (35, 0),
      upTo .iosSafari (3, 2) (8, 4), upTo .opera (15, 0) (22, 0), upTo .safari (3, 1) (8, 0)]),
    (.moz, [upTo .firefox (3, 5) (15, 0)]),
    (.ms, [upTo .explorer (9, 0) (9, 0)]),
    (.o, [upTo .opera (10, 5) (11, 5)])]

def perspective : Prefixing :=
  [(.webkit, [upTo .android (3, 0) (4, 4), upTo .chrome (12, 0) (35, 0),
      upTo .iosSafari (3, 2) (8, 4), upTo .opera (15, 0) (22, 0), upTo .safari (4, 0) (8, 0)]),
    (.moz, [upTo .firefox (10, 0) (15, 0)])]

def backface : Prefixing :=
  [(.webkit, [upTo .android (3, 0) (4, 4), upTo .chrome (12, 0) (35, 0),
      upTo .iosSafari (3, 2) (15, 3), upTo .opera (15, 0) (22, 0), upTo .safari (4, 0) (15, 3)]),
    (.moz, [upTo .firefox (10, 0) (15, 0)])]

def flex : Prefixing :=
  [(.webkit, [upTo .android (2, 1) (4, 3), upTo .chrome (4, 0) (28, 0),
      upTo .iosSafari (3, 2) (8, 4), upTo .opera (15, 0) (16, 0), upTo .safari (3, 1) (8, 0)]),
    (.moz, [upTo .firefox (2, 0) (21, 0)]),
    (.ms, [upTo .explorer (10, 0) (10, 0)])]

def boxShadow : Prefixing :=
  [(.webkit, [upTo .android (2, 1) (3, 0), upTo .chrome (4, 0) (9, 0),
      upTo .iosSafari (3, 2) (4, 3), upTo .safari (3, 1) (5, 0)]),
    (.moz, [upTo .firefox (3, 5) (3, 6)])]

def boxSizing : Prefixing :=
  [(.webkit, [upTo .android (2, 1) (3, 0), upTo .chrome (4, 0) (9, 0),
      upTo .iosSafari (3, 2) (4, 3), upTo .safari (3, 1) (5, 0)]),
    (.moz, [upTo .firefox (2, 0) (28, 0)])]

def borderRadius : Prefixing :=
  [(.webkit, [upTo .android (2, 1) (2, 1), upTo .chrome (4, 0) (4, 0),
      upTo .iosSafari (3, 2) (3, 2), upTo .safari (3, 1) (4, 0)]),
    (.moz, [upTo .firefox (2, 0) (3, 6)])]

def hyphens : Prefixing :=
  [(.webkit, [upTo .iosSafari (4, 2) (16, 7), upTo .safari (5, 1) (16, 6)]),
    (.moz, [upTo .firefox (6, 0) (42, 0)]),
    (.ms, [upTo .edge (12, 0) (18, 0), upTo .explorer (10, 0) (11, 0)])]

def textSizeAdjust : Prefixing :=
  [(.webkit, [since .iosSafari (5, 0)]),
    (.ms, [upTo .edge (12, 0) (18, 0), upTo .explorer (10, 0) (10, 0)])]

def tabSize : Prefixing :=
  [(.moz, [upTo .firefox (4, 0) (90, 0)]),
    (.o, [upTo .opera (10, 6) (12, 1)])]

def textDecoration : Prefixing :=
  [(.webkit, [since .iosSafari (8, 0), upTo .safari (8, 0) (12, 0)]),
    (.moz, [upTo .firefox (6, 0) (35, 0)])]

def textDecorationSkip : Prefixing :=
  [(.webkit, [upTo .iosSafari (8, 0) (15, 3), upTo .safari (8, 0) (15, 3)])]

def textEmphasis : Prefixing :=
  [(.webkit, [upTo .android (4, 4) (98, 0), upTo .chrome (25, 0) (98, 0),
      upTo .edge (79, 0) (98, 0), upTo .opera (15, 0) (84, 0), upTo .samsung (4, 0) (17, 0)])]

def boxDecorationBreak : Prefixing :=
  [(.webkit, [upTo .android (4, 4) (129, 0), upTo .chrome (22, 0) (129, 0),
      upTo .edge (79, 0) (129, 0), since .iosSafari (7, 0), upTo .opera (15, 0) (113, 0),
      since .safari (7, 0), upTo .samsung (4, 0) (27, 0)])]

def clipPath : Prefixing :=
  [(.webkit, [upTo .android (4, 4) (4, 4), upTo .chrome (24, 0) (54, 0),
      upTo .iosSafari (7, 0) (9, 3), upTo .opera (15, 0) (41, 0), upTo .safari (7, 0) (9, 1),
      upTo .samsung (4, 0) (5, 4)])]

def mask : Prefixing :=
  [(.webkit, [upTo .android (2, 1) (119, 0), upTo .chrome (4, 0) (119, 0),
      upTo .edge (79, 0) (119, 0), upTo .iosSafari (3, 2) (15, 3), upTo .opera (15, 0) (105, 0),
      upTo .safari (4, 0) (15, 3), upTo .samsung (4, 0) (24, 0)])]

def borderImage : Prefixing :=
  [(.webkit, [upTo .android (2, 1) (4, 3), upTo .chrome (4, 0) (14, 0),
      upTo .iosSafari (3, 2) (5, 1), upTo .safari (3, 1) (5, 1)]),
    (.moz, [upTo .firefox (3, 5) (14, 0)]),
    (.o, [upTo .opera (10, 5) (12, 1)])]

def textOverflow : Prefixing := [(.o, [upTo .opera (9, 0) (10, 6)])]

def textAlignLast : Prefixing := [(.moz, [upTo .firefox (12, 0) (48, 0)])]

def printColorAdjust : Prefixing :=
  [(.webkit, [upTo .android (4, 4) (135, 0), upTo .chrome (17, 0) (135, 0),
      upTo .edge (79, 0) (135, 0), upTo .iosSafari (6, 0) (15, 3), upTo .opera (15, 0) (119, 0),
      upTo .safari (6, 0) (15, 3), since .samsung (4, 0)])]

def sticky : Prefixing :=
  [(.webkit, [upTo .iosSafari (6, 1) (12, 5), upTo .safari (6, 1) (12, 1)])]

def gradient : Prefixing :=
  [(.webkit, [upTo .android (2, 1) (4, 3), upTo .chrome (4, 0) (25, 0),
      upTo .iosSafari (3, 2) (6, 1), upTo .safari (4, 0) (6, 0)]),
    (.moz, [upTo .firefox (3, 6) (15, 0)]),
    (.o, [upTo .opera (11, 1) (12, 0)])]

def imageSet : Prefixing :=
  [(.webkit, [upTo .android (4, 4) (112, 0), upTo .chrome (21, 0) (112, 0),
      upTo .edge (79, 0) (112, 0), upTo .iosSafari (6, 0) (9, 3), upTo .opera (15, 0) (98, 0),
      upTo .safari (6, 0) (9, 1), upTo .samsung (4, 0) (22, 0)])]

def ofProperty (name : String) : Prefixing :=
  if name.startsWith "transition" then transition
  else if name.startsWith "animation" then animation
  else if name == "transform" || name == "transform-origin" then transform
  else if name.startsWith "perspective" || name == "transform-style" then perspective
  else if name.startsWith "flex" || name == "order" then flex
  else if name.startsWith "text-decoration" then
    if name == "text-decoration-skip-ink" then textDecorationSkip else textDecoration
  else if name.startsWith "text-emphasis" then textEmphasis
  else if name.startsWith "mask" then mask
  else if name.startsWith "border-" && name.endsWith "-radius" then borderRadius
  else (named.lookup name).getD []
where
  named : List (String × Prefixing) :=
    [("user-select", userSelect), ("appearance", appearance), ("backdrop-filter", backdropFilter),
      ("filter", filters), ("backface-visibility", backface), ("box-shadow", boxShadow),
      ("box-sizing", boxSizing), ("hyphens", hyphens), ("text-size-adjust", textSizeAdjust),
      ("tab-size", tabSize), ("box-decoration-break", boxDecorationBreak),
      ("clip-path", clipPath), ("border-image", borderImage), ("text-overflow", textOverflow),
      ("text-align-last", textAlignLast), ("print-color-adjust", printColorAdjust),
      ("align-content", flex), ("justify-content", flex), ("align-self", flex),
      ("align-items", flex)]

/-- The prefixes that targets need, in their order, with the empty one. -/
def neededBy (prefixing : Prefixing) (targets : Targets) : List Prefix :=
  (prefixing.filter fun (_, needs) =>
    targets.any fun browser => needs.any fun need => need.holds browser).map Prod.fst ++ [.plain]

end Prefixing

end StyleInline.Stylesheet
