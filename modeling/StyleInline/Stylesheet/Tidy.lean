import StyleInline.Stylesheet.Rule
import StyleInline.Stylesheet.SelectorSupport

/-!
# Tidy rules

Declarations that others override, rules that leave nothing and rules that say again what stands
before them are taken out, without a change of meaning.  A rule of which targets do not understand
all selectors is taken apart, so that each selector stands or falls for itself.
-/

namespace StyleInline.Stylesheet

/-- What a style rule sets: its selectors, and the names of its properties. -/
abbrev Settings := List Selector × List (String × List Prefix × Bool)

/-- A rule that is kept, and what it sets if a later rule may set the same. -/
structure Kept where
  rule : Rule
  sets : Option Settings
  isOverridden : Bool
  deriving Inhabited

namespace Kept

def always (rule : Rule) : Kept := ⟨rule, none, false⟩

end Kept

inductive Joint where
  /-- The selectors are the same. -/
  | declarations
  /-- The declarations are the same. -/
  | selectors
  /-- Both are the same but for prefixes in selectors. -/
  | prefixes
  deriving DecidableEq, Repr, Inhabited

namespace Rule

mutual

def depth : Rule → Nat
  | .style _ _ _ nested => depthOf nested + 1
  | .nest _ _ nested => depthOf nested + 1
  | .layer _ rules => depthOf rules + 1
  | .media _ rules => depthOf rules + 1
  | .supports _ rules => depthOf rules + 1
  | .container _ _ rules => depthOf rules + 1
  | .scope _ _ rules => depthOf rules + 1
  | .starting rules => depthOf rules + 1
  | .document rules => depthOf rules + 1
  | _ => 1

def depthOf : List Rule → Nat
  | [] => 0
  | first :: rest => max first.depth (depthOf rest)

end

/-- What a style rule without nested rules sets. -/
def sets? : Rule → Option Settings
  | .style selectors _ found [] =>
    some (selectors, found.map fun one => (one.property, one.prefixes, one.isImportant))
  | _ => none

def joint? (targets : Targets) (before rule : Rule) : Option Joint :=
  match before, rule with
  | .style others otherPrefixes otherFound [], .style selectors prefixes found [] =>
    let areUnderstood :=
      Selector.allUnderstood targets selectors && Selector.allUnderstood targets others
    if areUnderstood && selectors == others then some .declarations
    else if found != otherFound then none
    else if areUnderstood then some .selectors
    else if !prefixes.isEmpty && !otherPrefixes.isEmpty &&
        Selector.bareList selectors == Selector.bareList others then some .prefixes
    else none
  | _, _ => none

/-- The prefixes of two rules that become one: a later rule without a prefix tells for targets
which ones there are. -/
def sharedPrefixes (targets : Targets) (others prefixes : List Prefix) : List Prefix :=
  if prefixes.contains .plain && !targets.isEmpty then prefixes
  else Prefix.inOrder (others ++ prefixes)

def joined (targets : Targets) (before rule : Rule) : Joint → Rule
  | .declarations =>
    match before, rule with
    | .style others otherPrefixes otherFound nested, .style _ _ found _ =>
      .style others otherPrefixes (Declaration.tidy targets (otherFound ++ found)) nested
    | before, _ => before
  | .selectors =>
    match before, rule with
    | .style others otherPrefixes otherFound nested, .style selectors prefixes _ _ =>
      .style (others ++ selectors) (sharedPrefixes targets otherPrefixes prefixes) otherFound nested
    | before, _ => before
  | .prefixes =>
    match before, rule with
    | .style others otherPrefixes otherFound nested, .style _ prefixes _ _ =>
      .style others (sharedPrefixes targets otherPrefixes prefixes) otherFound nested
    | before, _ => before

/-- A rule behind others, which are given from the last one on; it becomes one with the last of
them as long as that can be. -/
def settle (targets : Targets) (last : Kept) : List Kept → List Kept
  | [] => [last]
  | before :: rest =>
    match if before.isOverridden then none else joint? targets before.rule last.rule with
    | some joint =>
      settle targets { before with rule := joined targets before.rule last.rule joint } rest
    | none => last :: before :: rest

def isEmptyStyle : Rule → Bool
  | .style selectors _ found nested => selectors.isEmpty || (found.isEmpty && nested.isEmpty)
  | _ => false

/-- A style rule behind others; an earlier rule that it overrides is marked. -/
def push (kept : List Kept) (rule : Rule) : List Kept :=
  if rule.isEmptyStyle then kept
  else
    let sets := rule.sets?
    let isOverridden (before : Kept) : Bool :=
      sets.isSome && before.sets == sets && before.rule.sets? == sets
    ⟨rule, sets, false⟩ :: kept.map fun before =>
      if isOverridden before then { before with isOverridden := true } else before

/-- The selectors that a rule keeps, and those for which it needs rules of their own. -/
def parted (targets : Targets) (selectors : List Selector) : List Selector × List Selector :=
  if selectors.length < 2 || targets.isEmpty || Selector.allUnderstood targets selectors then
    (selectors, [])
  else
    let weights := selectors.map Selector.weight
    if targets.allHave Selector.choices && !selectors.any (·.any Simple.isPseudoElement) &&
        weights.all (weights.head? == some ·) then
      ([[.choice .is selectors]], [])
    else selectors.partition (Selector.isUnderstood targets)

def extras (settled : Settled) (selectors : List Selector) : List Rule :=
  let directed (isLeftToRight : Bool) (pick : Directed → Declaration) : Rule :=
    .style (selectors.map (Selector.withDirection isLeftToRight)) [.plain]
      (settled.directed.map pick) []
  let isDark : Condition := .one (.equals "prefers-color-scheme" (Spaced.ofText "dark"))
  (if settled.directed.isEmpty then []
    else [directed true Directed.leftToRight, directed false Directed.rightToLeft]) ++
  (if settled.dark.isEmpty then []
    else [.media [⟨none, "all", some isDark⟩] [.style selectors [.plain] settled.dark []]])

def guarded (settled : Settled) (selectors : List Selector) : List Rule :=
  let levels := (settled.guarded.map Prod.fst).eraseDups
  levels.map fun level =>
    let found := (settled.guarded.filter (·.1 == level)).map Prod.snd
    let (important, usual) := found.partition Declaration.isImportant
    .supports (.declaration [.plain] "color" level.sample)
      [.style selectors [.plain] (usual ++ important) []]

/-- Puts a rule in the place of the first one for which `isSame` holds, or behind all. -/
def replace (isSame : Rule → Bool) (kept : List Kept) (rule : Rule) : List Kept :=
  if kept.any fun before => isSame before.rule then
    kept.map fun before => if isSame before.rule then { before with rule } else before
  else .always rule :: kept

def layerOf? : Rule → Option String
  | .layer name _ => name
  | _ => none

def tidyFrames (targets : Targets) (frames : List Frame) : List Frame :=
  frames.map fun frame => { frame with declarations := Declaration.tidy targets frame.declarations }

/-- An animation behind others; one of the same name is replaced, or gets more prefixes. -/
def addFrames (targets : Targets) (kept : List Kept) (prefixes : List Prefix) (name : String)
    (frames : List Frame) : List Kept :=
  let needed (prefixes : List Prefix) : List Prefix :=
    Declaration.prefixesFor targets "animation" prefixes
  let existing := kept.findSome? fun before =>
    match before.rule with
    | .frames others other otherFrames =>
      if other == name then some (others, otherFrames) else none
    | _ => none
  let isSame (rule : Rule) : Bool :=
    match rule with
    | .frames _ other _ => other == name
    | _ => false
  match existing with
  | none => .always (.frames (needed prefixes) name frames) :: kept
  | some (others, otherFrames) =>
    if others == prefixes then replace isSame kept (.frames prefixes name frames)
    else if otherFrames == frames then
      replace isSame kept (.frames (needed (others ++ prefixes)) name frames)
    else .always (.frames (needed prefixes) name frames) :: kept

def emptyLayers (declared : List String) : List Rule → List String
  | [] => []
  | .layer (some name) [] :: rest =>
    if declared.contains name then emptyLayers declared rest
    else name :: emptyLayers (name :: declared) rest
  | .layer none [] :: rest => emptyLayers declared rest
  | .layer _ _ :: _ => []
  | .imported _ (some _) :: _ => []
  | _ :: rest => emptyLayers declared rest

/-- Rules in which empty blocks of layers are statements about the order of layers; `isTold`
says that the next empty ones are part of a statement. -/
def orderLayers (declared : List String) (isTold : Bool) : List Rule → List Rule
  | [] => []
  | .layer (some name) [] :: rest =>
    if declared.contains name then orderLayers declared isTold rest
    else if isTold then orderLayers (name :: declared) true rest
    else
      .layers (name :: emptyLayers (name :: declared) rest) ::
        orderLayers (name :: declared) true rest
  | .layer none [] :: rest => orderLayers declared isTold rest
  | .layer name rules :: rest => .layer name rules :: orderLayers declared false rest
  | .imported content (some name) :: rest =>
    .imported content (some name) :: orderLayers (name.toList ++ declared) false rest
  | rule :: rest => rule :: orderLayers declared isTold rest

def addLayers (kept : List Kept) (names : List String) : List Kept :=
  names.foldl (fun kept name =>
    if kept.any fun before => layerOf? before.rule == some name then kept
    else .always (.layer (some name) []) :: kept) kept

/-- A layer behind others; what it holds goes to an earlier one of the same name. -/
def addLayer (kept : List Kept) (name : Option String) (rules : List Rule) : List Kept :=
  let extended (before : Kept) : Kept :=
    match before.rule with
    | .layer (some other) otherRules =>
      if name == some other then { before with rule := .layer name (otherRules ++ rules) }
      else before
    | _ => before
  if name.isSome && kept.any fun before => layerOf? before.rule == name then kept.map extended
  else .always (.layer name rules) :: kept

/-- Names for glyphs behind others; those for the same families are put together. -/
def addFeatures (kept : List Kept) (families : List Spaced) (all : List Glyphs) : List Kept :=
  let existing := kept.findSome? fun before =>
    match before.rule with
    | .features others glyphs => if others == families then some glyphs else none
    | _ => none
  let isSame (rule : Rule) : Bool :=
    match rule with
    | .features others _ => others == families
    | _ => false
  let glyphs := all.foldl Glyphs.add (existing.getD [])
  replace isSame kept (.features families glyphs)

/-- A property of the author's own behind others; one of the same name is replaced. -/
def addProperty (kept : List Kept) (name : String) (rule : Rule) : List Kept :=
  let isSame (rule : Rule) : Bool :=
    match rule with
    | .property other _ _ _ => other == name
    | _ => false
  replace isSame kept rule

def inOrder (found : List Declaration) : List Declaration :=
  let (important, usual) := found.partition Declaration.isImportant
  (usual ++ important).flatMap fun one => Declaration.tidy [] [one]

/-- The rules inside a group that goes on with the next one if that has the same head. -/
def grouped? (before rule : Rule) : Option (List Rule) :=
  match before, rule with
  | .media others first, .media queries rules =>
    if others == queries then some (first ++ rules) else none
  | .supports other first, .supports condition rules =>
    if other == condition then some (first ++ rules) else none
  | .container other otherCondition first, .container name condition rules =>
    if other == name && otherCondition == condition then some (first ++ rules) else none
  | _, _ => none

def withRules (rules : List Rule) : Rule → Rule
  | .media queries _ => .media queries rules
  | .supports condition _ => .supports condition rules
  | .container name condition _ => .container name condition rules
  | rule => rule

mutual

def add (targets : Targets) : Nat → List Kept → Rule → List Kept
  | 0, kept, rule => .always rule :: kept
  | fuel + 1, kept, rule =>
    let again : Option (List Rule) :=
      kept.head?.bind fun last => grouped? last.rule rule
    match again, kept with
    | some rules, last :: kept =>
      { last with rule := last.rule.withRules (tidyWithin targets fuel rules) } :: kept
    | _, kept =>
      match rule with
      | .style selectors _ found nested => addStyle targets fuel kept selectors found nested
      | .declarations all =>
        let all := (Declaration.settle targets all).declarations
        if all.isEmpty then kept else .always (.declarations all) :: kept
      | .nest selectors found nested =>
        .always (.nest selectors (Declaration.settle targets found).declarations
          (tidyWithin targets fuel nested)) :: kept
      | .media queries rules =>
        let rules := tidyWithin targets fuel rules
        if rules.isEmpty || MediaQuery.neverHold queries then kept
        else .always (.media queries rules) :: kept
      | .supports condition rules =>
        let rules := tidyWithin targets fuel rules
        if rules.isEmpty then kept
        else .always (.supports (condition.prefixed targets) rules) :: kept
      | .container name condition rules =>
        let rules := tidyWithin targets fuel rules
        if rules.isEmpty then kept else .always (.container name condition rules) :: kept
      | .scope start stop rules =>
        .always (.scope start stop (tidyWithin targets fuel rules)) :: kept
      | .starting rules =>
        let rules := tidyWithin targets fuel rules
        if rules.isEmpty then kept else .always (.starting rules) :: kept
      | .document rules => .always (.document (tidyWithin targets fuel rules)) :: kept
      | .layer name rules => addLayer kept name rules
      | .layers names => addLayers kept names
      | .frames prefixes name all =>
        addFrames targets kept prefixes name (tidyFrames targets all)
      | .property name kinds inherits initial =>
        addProperty kept name (.property name kinds inherits initial)
      | .page selectors found boxes =>
        let boxes := boxes.map fun box => { box with declarations := inOrder box.declarations }
        .always (.page selectors (inOrder found) boxes) :: kept
      | .features families all => addFeatures kept families all
      | .description head found => .always (.description head (inOrder found)) :: kept
      | rule => .always rule :: kept

/-- A style rule behind others.  Behind it come rules for what depends on the direction of the text
or on the theme, and rules for selectors that not all targets understand; rules inside it come
last then. -/
def addStyle (targets : Targets) :
    Nat → List Kept → List Selector → List Declaration → List Rule → List Kept
  | 0, kept, selectors, found, nested => .always (.style selectors [] found nested) :: kept
  | fuel + 1, kept, selectors, found, nested =>
    let settled := Declaration.settle targets found
    let nested := tidyWithin targets fuel nested
    let (own, others) := parted targets selectors
    let (own, prefixes) := Selector.lowered targets own
    let rule : Rule := .style own prefixes settled.declarations nested
    let joint :=
      kept.head?.bind fun last =>
        if last.isOverridden then none else joint? targets last.rule rule
    let (kept, own, left) : List Kept × List Selector × List Declaration :=
      match joint, kept with
      | some joint, last :: rest =>
        let kept := settle targets
          { last with rule := joined targets last.rule rule joint } rest
        (kept, if joint == .selectors then [] else own,
          if joint == .declarations then [] else settled.declarations)
      | _, kept => (kept, own, settled.declarations)
    let behind (selectors : List Selector) : List Kept :=
      ((tidyWithin targets fuel (extras settled selectors) ++ guarded settled selectors).map
        Kept.always).reverse
    let hasMore :=
      !settled.directed.isEmpty || !settled.dark.isEmpty || !settled.guarded.isEmpty ||
        !others.isEmpty
    let moved := if !own.isEmpty && hasMore then nested else []
    let pushed :=
      if joint.isSome then kept
      else push kept (.style own prefixes left (if moved.isEmpty then nested else []))
    let apart := others.reverse.flatMap fun selector =>
      let (selectors, prefixes) := Selector.lowered targets [selector]
      let rule : Rule := .style selectors prefixes left nested
      behind selectors ++ if rule.isEmptyStyle then [] else [.always rule]
    let nestedBehind : List Kept :=
      if moved.isEmpty then [] else [.always (.style own prefixes [] moved)]
    nestedBehind ++ apart ++ behind own ++ pushed

def tidyWithin (targets : Targets) : Nat → List Rule → List Rule
  | 0, rules => rules
  | fuel + 1, rules =>
    let kept := rules.foldl (add targets fuel) []
    let left := (kept.filter (!·.isOverridden)).reverse.map Kept.rule
    let tidied := left.map fun rule =>
      match rule with
      | .layer name rules => .layer name (tidyWithin targets fuel rules)
      | rule => rule
    orderLayers [] false tidied

end

/-- Tidy rules. -/
def tidy (targets : Targets) (rules : List Rule) : List Rule :=
  tidyWithin targets (3 * depthOf rules + 9) rules

end Rule

end StyleInline.Stylesheet
