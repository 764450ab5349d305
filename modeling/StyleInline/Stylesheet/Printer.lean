import StyleInline.Stylesheet.Tidy

/-!
# Printed stylesheets

Rules are printed wide, one declaration a line, or narrow, without a character too many.  Where
targets know no rules inside style rules, the inner rules come behind the outer one, and their
selectors are filled in.
-/

namespace StyleInline.Stylesheet

structure Around where
  depth : Nat
  /-- The selectors of the style rules around, from the innermost on, where they are filled in. -/
  outer : List (List Selector)
  /-- The prefix that names in selectors take. -/
  before : Option Prefix
  deriving Inhabited

namespace Around

def nothing : Around := ⟨0, [], none⟩

def deeper (around : Around) : Around := { around with depth := around.depth + 1 }

end Around

namespace Manner

def nests (manner : Manner) : Bool := manner.targets.understand .nesting

def selectors (manner : Manner) (around : Around) (all : List Selector) : String :=
  let wording := Selector.wordingWithin (!manner.nests) around.before around.outer
  (Selector.listText wording all).render manner around.depth

def single (manner : Manner) (depth : Nat) (declaration : Declaration) (name : String) : String :=
  name ++ ":" ++
    (if declaration.isCustom && declaration.value.isEmpty then " " else manner.gap) ++
    declaration.value.render manner depth ++
    (if declaration.isImportant then manner.gap ++ "!important" else "")

/-- Declarations, each on a line of its own but for the first; a narrow one that is the last has
no semicolon. -/
def declarations (manner : Manner) (depth : Nat) (isLast : Bool) (all : List Declaration) :
    String :=
  let shown := all.flatMap fun one => one.names.map (manner.single depth one)
  (";" ++ manner.newline depth).intercalate shown ++
    if shown.isEmpty || (manner.isNarrow && isLast) then "" else ";"

def block (manner : Manner) (depth : Nat) (head inner : String) : String :=
  head ++ manner.gap ++ "\x7b" ++ (if inner.isEmpty then "" else manner.newline (depth + 1)) ++
    inner ++ manner.newline depth ++ "\x7d"

def group (manner : Manner) (depth : Nat) (head inner : String) : String :=
  head ++ manner.gap ++ "\x7b" ++ manner.newline (depth + 1) ++ inner ++ manner.newline depth ++
    "\x7d"

def emptyLine (manner : Manner) : String := if manner.isNarrow then "" else "\n"

def between (manner : Manner) (depth : Nat) : String := manner.emptyLine ++ manner.newline depth

/-- A rule that is written without a block and needs no empty line between others of its kind. -/
def isStatement : Rule → Bool
  | .imported _ _ | .namespaced _ | .layers _ => true
  | _ => false

def animation (manner : Manner) (depth : Nat) (name : String) (frames : List Frame)
    (before : Prefix) : String :=
  let shown := frames.map fun frame =>
    manner.block (depth + 1) (frame.places.render manner depth)
      (manner.declarations (depth + 2) true frame.declarations)
  manner.block depth ("@" ++ before.text ++ "keyframes " ++ name)
    ((manner.between (depth + 1)).intercalate shown)

/-- A property of the author's own; its last line needs no semicolon. -/
def property (manner : Manner) (depth : Nat) (name : String) (kinds : Spaced) (inherits : Bool)
    (initial : Option Spaced) : String :=
  let line (name value : String) : String := name ++ ":" ++ manner.gap ++ value
  let lines := [line "syntax" (kinds.render manner depth),
    line "inherits" (if inherits then "true" else "false")]
  let last :=
    match initial with
    | some value =>
      [line "initial-value" (value.render manner depth) ++ if manner.isNarrow then "" else ";"]
    | none => []
  manner.block depth ("@property " ++ name)
    ((";" ++ manner.newline (depth + 1)).intercalate (lines ++ last))

def pageHead (manner : Manner) (selectors : List PageSelector) : String :=
  match selectors with
  | [] => "@page"
  | first :: _ =>
    "@page" ++ (if first.name.isSome then " " else manner.gap) ++
      ("," ++ manner.gap).intercalate (selectors.map PageSelector.text)

def page (manner : Manner) (depth : Nat) (selectors : List PageSelector)
    (found : List Declaration) (boxes : List MarginBox) : String :=
  let shown := boxes.map fun box =>
    manner.block (depth + 1) ("@" ++ box.name)
      (manner.declarations (depth + 2) true box.declarations)
  let start := manner.declarations (depth + 1) boxes.isEmpty found
  let gap := if found.isEmpty || boxes.isEmpty then "" else manner.between (depth + 1)
  manner.block depth (manner.pageHead selectors)
    (start ++ gap ++ (manner.between (depth + 1)).intercalate shown)

def glyphs (manner : Manner) (depth : Nat) (all : Glyphs) : String :=
  let shown := all.values.map fun (name, values) =>
    manner.newline (depth + 1) ++ name ++ ":" ++ manner.gap ++
      " ".intercalate (values.map toString) ++ ";"
  "@" ++ all.kind ++ "\x7b" ++ String.join shown ++ manner.newline depth ++ "\x7d"

def features (manner : Manner) (depth : Nat) (families : List Spaced) (all : List Glyphs) :
    String :=
  let shown := all.map fun one => manner.glyphs depth one ++ manner.newline depth
  "@font-feature-values " ++ (Spaced.listed families).render manner depth ++ manner.gap ++
    "\x7b" ++ (if all.isEmpty then "" else manner.newline depth) ++ String.join shown ++ "\x7d"

def scopeHead (manner : Manner) (around : Around) (start stop : Option (List Selector)) :
    String :=
  let startText := start.map fun selectors =>
    manner.gap ++ "(" ++ manner.selectors around selectors ++ ")"
  let within : Around := { around with outer := start.toList ++ around.outer }
  let stopText := stop.map fun selectors =>
    " to (" ++ manner.selectors within selectors ++ ")"
  "@scope" ++ startText.getD "" ++ stopText.getD ""

/-- A style rule under one prefix; `inner` gives the rules in it where they stand. -/
def style (manner : Manner) (around : Around) (selectors : List Selector)
    (found : List Declaration) (isAlone : Bool) (inner : Around → String) : String :=
  let depth := around.depth
  let head := manner.selectors around selectors
  if manner.nests || isAlone then
    let gap := if found.isEmpty || isAlone then "" else manner.between (depth + 1)
    manner.block depth head
      (manner.declarations (depth + 1) isAlone found ++ gap ++ inner around.deeper)
  else
    let shown := inner { around with outer := selectors :: around.outer }
    if found.isEmpty then shown
    else
      manner.block depth head (manner.declarations (depth + 1) true found) ++
        manner.between depth ++ shown

mutual

/-- A rule; `isLast` tells that no other one stands behind it. -/
def rule (manner : Manner) (around : Around) (isLast : Bool) : Rule → String
  | .style selectors prefixes found nested =>
    let inner (before : Option Prefix) : String :=
      manner.style { around with before } selectors found nested.isEmpty
        fun around => manner.rules around none nested
    if prefixes.isEmpty then inner around.before
    else (manner.between around.depth).intercalate (prefixes.map fun one => inner (some one))
  | .nest selectors found nested =>
    (if around.outer.isEmpty then "@nest " else "") ++
      manner.style around selectors found nested.isEmpty
        fun around => manner.rules around none nested
  | .declarations all =>
    match around.outer with
    | selectors :: outer =>
      manner.block around.depth (manner.selectors { around with outer } selectors)
        (manner.declarations (around.depth + 1) true all)
    | [] => manner.declarations around.depth isLast all
  | .imported content _ => content.render manner around.depth ++ ";"
  | .namespaced content => content.render manner around.depth ++ ";"
  | .layers names => "@layer " ++ ("," ++ manner.gap).intercalate names ++ ";"
  | .layer name rules =>
    manner.group around.depth (" ".intercalate ("@layer" :: name.toList))
      (manner.rules around.deeper none rules)
  | .media queries rules =>
    if manner.isNarrow && MediaQuery.alwaysHold queries then manner.rules around none rules
    else
      manner.group around.depth
        ("@media " ++ (MediaQuery.listText queries).render manner around.depth)
        (manner.rules around.deeper none rules)
  | .supports condition rules =>
    manner.group around.depth
      ("@supports " ++ (condition.text .nothing).render manner around.depth)
      (manner.rules around.deeper none rules)
  | .container name condition rules =>
    let shown := condition.map fun condition =>
      (condition.text .nothing).render manner around.depth
    manner.group around.depth (" ".intercalate ("@container" :: name.toList ++ shown.toList))
      (manner.rules around.deeper none rules)
  | .scope start stop rules =>
    manner.group around.depth (manner.scopeHead around start stop)
      (manner.rules { around.deeper with outer := [] } none rules)
  | .starting rules =>
    manner.group around.depth "@starting-style" (manner.rules around.deeper none rules)
  | .document rules =>
    manner.group around.depth "@-moz-document url-prefix()"
      (manner.rules around.deeper none rules)
  | .frames prefixes name all =>
    (manner.between around.depth).intercalate
      (prefixes.map (manner.animation around.depth name all))
  | .property name kinds inherits initial =>
    manner.property around.depth name kinds inherits initial
  | .page selectors found boxes => manner.page around.depth selectors found boxes
  | .features families all => manner.features around.depth families all
  | .description head found =>
    manner.block around.depth ("@" ++ head) (manner.declarations (around.depth + 1) true found)
  | .unknown head none => head.render manner around.depth ++ ";"
  | .unknown head (some content) =>
    manner.group around.depth (head.render manner around.depth)
      (content.render manner (around.depth + 1))

/--
Rules with empty lines between them, except between two statements; `before` tells whether the
rule in front of them is one.
-/
def rules (manner : Manner) (around : Around) (before : Option Bool) : List Rule → String
  | [] => ""
  | first :: rest =>
    let gap :=
      match before with
      | none => ""
      | some wasStatement =>
        if wasStatement && isStatement first then manner.newline around.depth
        else manner.between around.depth
    gap ++ manner.rule around rest.isEmpty first ++
      manner.rules around (some (isStatement first)) rest

end

/-- A stylesheet behind its comments; it ends with a line break if it is wide. -/
def sheet (manner : Manner) (comments : List String) (all : List Rule) : String :=
  String.join (comments.map fun content => "/*" ++ content ++ "*/\n") ++
    manner.rules .nothing none all ++ manner.newline 0

end Manner

end StyleInline.Stylesheet
