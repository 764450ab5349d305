import StyleInline.Stylesheet.Raw
import StyleInline.Stylesheet.Selector

/-!
# Reading selectors

The compounds of a selector are read from left to right.  Behind a pseudo-element only states of
the element may follow; inside the argument of a pseudo-class no pseudo-element may be named.
-/

namespace StyleInline.Stylesheet

namespace Selector

open StyleInline.Stylesheet.Part (dropBlank placeOf splitAt)

def classes : List String :=
  ["hover", "active", "focus", "focus-visible", "focus-within", "current", "past", "future",
    "playing", "paused", "seeking", "buffering", "stalled", "muted", "volume-locked", "open",
    "closed", "modal", "picture-in-picture", "popover-open", "defined", "link", "local-link",
    "target", "target-within", "visited", "enabled", "disabled", "default", "checked",
    "indeterminate", "blank", "valid", "invalid", "in-range", "out-of-range", "required",
    "optional", "user-valid", "user-invalid", "active-view-transition"]

def places : List String := ["root", "empty", "scope"]

def scrollbarClasses : List String :=
  ["horizontal", "vertical", "decrement", "increment", "start", "end", "double-button",
    "single-button", "no-button", "corner-present", "window-inactive"]

def userStates : List String := ["active", "hover", "focus", "focus-within", "focus-visible"]

def elements : List String :=
  Simple.oldElements ++ ["cue", "cue-region", "marker", "view-transition"]

def scrollbars : List String :=
  ["-webkit-scrollbar", "-webkit-scrollbar-button", "-webkit-scrollbar-track",
    "-webkit-scrollbar-track-piece", "-webkit-scrollbar-thumb", "-webkit-scrollbar-corner",
    "-webkit-resizer"]

def transitions : List String :=
  ["view-transition-group", "view-transition-image-pair", "view-transition-old",
    "view-transition-new"]

/-- What a compound says up to a place in it. -/
inductive Reached where
  | element
  | slotted
  | part
  | pseudoElement
  | scrollbar
  | transition
  deriving DecidableEq, Repr, Inhabited

namespace Reached

def isPseudo (reached : Reached) : Bool := reached != .element

def isElement (reached : Reached) : Bool :=
  reached == .pseudoElement || reached == .scrollbar || reached == .transition

end Reached

structure Standing where
  allowsElements : Bool
  allowsCombinators : Bool
  deriving DecidableEq, Repr, Inhabited

namespace Standing

def outermost : Standing := ⟨true, true⟩

def listed : Standing := ⟨false, true⟩

def alone : Standing := ⟨false, false⟩

end Standing

def negativeDigits? (text : String) : Option Int :=
  match text.toLower.toList with
  | 'n' :: '-' :: digits =>
    if !digits.isEmpty && digits.all Char.isDigit then some (-(Number.natOf digits : Int)) else none
  | _ => none

def unsigned (stop : Place) (isNegative : Bool) (parts : List Part) :
    Except Fault (Int × List Part) :=
  match dropBlank parts with
  | .leaf ⟨.number value, _⟩ :: rest =>
    match value.sign, value.int? with
    | none, some found => .ok (if isNegative then -found else found, rest)
    | _, _ => .error ⟨.unexpected (.number value), placeOf stop rest⟩
  | parts => .error (Fault.behindNext stop parts)

/-- The place of the first element that is counted, behind the letter `n`. -/
def shift (stop : Place) (parts : List Part) : Except Fault (Int × List Part) :=
  match dropBlank parts with
  | .leaf ⟨.delim '+', _⟩ :: rest => unsigned stop false rest
  | .leaf ⟨.delim '-', _⟩ :: rest => unsigned stop true rest
  | .leaf ⟨.number value, _⟩ :: rest =>
    match value.sign, value.int? with
    | some _, some found => .ok (found, rest)
    | _, _ => .ok (0, parts)
  | _ => .ok (0, parts)

def namedSteps (stop : Place) (factor : Int) (name : String) (rest : List Part) :
    Except Fault ((Int × Int) × List Part) :=
  let lower := name.toLower
  if lower == "n" then do
    let (first, rest) ← shift stop rest
    return ((factor, first), rest)
  else if lower == "n-" then do
    let (first, rest) ← unsigned stop true rest
    return ((factor, first), rest)
  else
    match negativeDigits? name with
    | some first => .ok ((factor, first), rest)
    | none =>
      let name := if factor == -1 then "-" ++ name else name
      .error ⟨.unexpected (.ident name), placeOf stop rest⟩

def steps (stop : Place) (parts : List Part) : Except Fault ((Int × Int) × List Part) :=
  let word (name : String) (rest : List Part) : Except Fault ((Int × Int) × List Part) :=
    if name.toLower == "even" then .ok ((2, 0), rest)
    else if name.toLower == "odd" then .ok ((2, 1), rest)
    else namedSteps stop 1 name rest
  match dropBlank parts with
  | .leaf ⟨.number value, _⟩ :: rest =>
    match value.int? with
    | some first => .ok ((0, first), rest)
    | none => .error (Fault.behindNext stop parts)
  | .leaf ⟨.dimension value unit, _⟩ :: rest =>
    match value.int? with
    | some factor =>
      match namedSteps stop factor unit rest with
      | .ok found => .ok found
      | .error ⟨.unexpected (.ident _), place⟩ => .error ⟨.unexpected (.ident unit), place⟩
      | .error fault => .error fault
    | none => .error (Fault.behindNext stop parts)
  | .leaf ⟨.delim '+', _⟩ :: .leaf ⟨.ident name, _⟩ :: rest => word name rest
  | .leaf ⟨.delim '+', _⟩ :: rest =>
    match rest with
    | [] => .error ⟨.endOfInput, stop⟩
    | part :: behind => .error ⟨.unexpected part.first.token, placeOf stop behind⟩
  | .leaf ⟨.ident name, _⟩ :: rest =>
    match name.toList with
    | '-' :: letters => namedSteps stop (-1) (String.ofList letters) rest
    | _ => word name rest
  | parts => .error (Fault.behindNext stop parts)

def languages (stop : Place) (parts : List Part) : Except Fault (List String) :=
  (splitAt .comma parts).mapM fun (parts, comma) =>
    match dropBlank parts with
    | .leaf ⟨.ident name, _⟩ :: rest | .leaf ⟨.text name, _⟩ :: rest => do
      Fault.ofLeft rest
      return name
    | _ => .error (Fault.ofNext (comma.getD stop) parts)

def direction (stop : Place) (parts : List Part) : Except Fault Bool :=
  match dropBlank parts with
  | .leaf ⟨.ident name, place⟩ :: rest =>
    if ["ltr", "rtl"].contains name.toLower then do
      Fault.ofLeft rest
      return name.toLower == "ltr"
    else .error ⟨.unexpected (.ident name), placeOf place parts⟩
  | _ => .error (Fault.ofNext stop parts)

def names (stop : Place) : Nat → List Part → Except Fault (List String)
  | 0, _ => .ok []
  | fuel + 1, parts =>
    match dropBlank parts with
    | .leaf ⟨.ident name, _⟩ :: rest =>
      if (dropBlank rest).isEmpty then .ok [name]
      else (name :: ·) <$> names stop fuel rest
    | _ => .error (Fault.ofNext stop parts)

def attributeFlag (parts : List Part) : Except Fault (Option String) :=
  match dropBlank parts with
  | [] => .ok none
  | .leaf ⟨.ident flag, place⟩ :: rest =>
    if ["i", "s"].contains flag.toLower then do
      Fault.ofLeft rest
      return some flag.toLower
    else .error ⟨.unexpected (.ident flag), placeOf place parts⟩
  | part :: _ => .error ⟨.unexpected part.first.token, placeOf part.place parts⟩

def attributeTest (stop : Place) (parts : List Part) : Except Fault (Option AttributeTest) :=
  match dropBlank parts with
  | [] => .ok none
  | .leaf ⟨operator, place⟩ :: rest => do
    let operator ←
      match operator with
      | .delim '=' => .ok "="
      | .matching c => .ok (c.toString ++ "=")
      | _ => .error ⟨.attributeToken operator, placeOf place parts⟩
    match dropBlank rest with
    | .leaf ⟨.ident value, _⟩ :: behind | .leaf ⟨.text value, _⟩ :: behind =>
      return some ⟨operator, value, ← attributeFlag behind⟩
    | [] => .error ⟨.endOfInput, stop⟩
    | part :: _ => .error ⟨.attributeValue part.first.token, placeOf part.place rest⟩
  | part :: _ => .error ⟨.attributeToken part.first.token, placeOf part.place parts⟩

def attributeOf (stop : Place) (parts : List Part) : Except Fault Simple :=
  let behind (space : Option String) (name : String) (rest : List Part) : Except Fault Simple := do
    return .tested space name (← attributeTest stop rest)
  let behindBar (space : Option String) : List Part → Except Fault Simple
    | .leaf ⟨.ident name, _⟩ :: rest => behind space name rest
    | [] => .error ⟨.endOfInput, stop⟩
    | part :: _ => .error ⟨.attributeQualifier part.first.token, part.place⟩
  match dropBlank parts with
  | .leaf ⟨.ident space, _⟩ :: .leaf ⟨.delim '|', _⟩ :: rest => behindBar (some space) rest
  | .leaf ⟨.ident name, _⟩ :: rest => behind none name rest
  | .leaf ⟨.delim '*', _⟩ :: .leaf ⟨.delim '|', _⟩ :: rest => behindBar (some "*") rest
  | .leaf ⟨.delim '*', _⟩ :: part :: _ => .error ⟨.attributeBar part.first.token, part.place⟩
  | .leaf ⟨.delim '*', _⟩ :: [] => .error ⟨.endOfInput, stop⟩
  | .leaf ⟨.delim '|', _⟩ :: rest => behindBar none rest
  | part :: _ => .error ⟨.attributeName part.first.token, part.place⟩
  | [] => .error ⟨.endOfInput, stop⟩

def elementName (stop : Place) : List Part → Except Fault (List Simple × List Part)
  | .leaf ⟨.ident space, _⟩ :: .leaf ⟨.delim '|', _⟩ :: rest => behindBar space rest
  | .leaf ⟨.ident name, _⟩ :: rest => .ok ([.element name], rest)
  | .leaf ⟨.delim '*', _⟩ :: .leaf ⟨.delim '|', _⟩ :: rest => behindBar "*" rest
  | .leaf ⟨.delim '*', _⟩ :: rest => .ok ([.anything], rest)
  | .leaf ⟨.delim '|', _⟩ :: rest => behindBar "" rest
  | parts => .ok ([], parts)
where
  behindBar (space : String) : List Part → Except Fault (List Simple × List Part)
    | .leaf ⟨.ident name, _⟩ :: rest => .ok ([.space space, .element name], rest)
    | .leaf ⟨.delim '*', _⟩ :: rest => .ok ([.space space, .anything], rest)
    | [] => .error ⟨.endOfInput, stop⟩
    | part :: _ => .error ⟨.namespaceToken part.first.token, part.place⟩

def plainClass (reached : Reached) (name : String) (place : Place) : Except Fault Simple :=
  let lower := name.toLower
  let first := Counting.firstNames.lookup lower
  let only := Counting.onlyNames.lookup lower
  if reached == .slotted then .error ⟨.invalidState, place⟩
  else if !reached.isPseudo && first.isSome then
    .ok (.counted (first.getD .child) 0 1 none)
  else if (!reached.isPseudo && only.isSome) ||
      (reached == .transition && lower == "only-child") then
    .ok (.counted (only.getD .onlyChild) 0 1 none)
  else if !reached.isPseudo && lower == "host" then .ok (.host none)
  else if !reached.isPseudo && places.contains lower then .ok (.pseudoClass lower [])
  else if reached == .scrollbar &&
      !(scrollbarClasses ++ ["enabled", "disabled", "hover", "active"]).contains lower then
    .error ⟨.classBehindScrollbar, place⟩
  else if reached != .scrollbar && reached.isElement && !userStates.contains lower then
    .error ⟨.classBehindElement, place⟩
  else if !reached.isElement && scrollbarClasses.contains lower then
    .error ⟨.classOfScrollbar, place⟩
  else
    match Simple.spelled? Simple.prefixedClasses lower with
    | some (name, before) => .ok (.pseudoClass name [before])
    | none =>
      .ok (.pseudoClass (if (classes ++ scrollbarClasses).contains lower then lower else name) [])

/-- A pseudo-element without an argument, and what the compound is about behind it. -/
def plainElement (reached : Reached) (name : String) : Simple × Reached :=
  let lower := name.toLower
  match Simple.spelled? Simple.prefixedElements lower with
  | some (name, before) => (.pseudoElement name [before], .pseudoElement)
  | none =>
    if scrollbars.contains lower then (.pseudoElement lower [], .scrollbar)
    else if lower == "view-transition" then (.pseudoElement lower [], .transition)
    else if elements.contains lower then (.pseudoElement lower [], .pseudoElement)
    else (.pseudoElement name [], reached)

mutual

/-- Selectors between commas; those that cannot be read are left out of a forgiving list. -/
def list (standing : Standing) (isForgiving isRelative : Bool) (stop : Place) :
    Nat → List (List Part × Option Place) → Except Fault (List Selector)
  | 0, _ => .ok []
  | _, [] => .ok []
  | fuel + 1, (parts, comma) :: rest =>
    match selector standing isRelative (comma.getD stop) fuel parts with
    | .ok first => do return first :: (← list standing isForgiving isRelative stop fuel rest)
    | .error fault =>
      if isForgiving then list standing isForgiving isRelative stop fuel rest else .error fault

/-- A selector, which may start with a combinator if it is relative. -/
def selector (standing : Standing) (isRelative : Bool) (stop : Place) :
    Nat → List Part → Except Fault Selector
  | 0, _ => .ok []
  | fuel + 1, parts =>
    match dropBlank parts with
    | .leaf ⟨.delim c, place⟩ :: rest =>
      match if isRelative then Combinator.ofChar? c else none with
      | some sign => do return .combinator sign :: (← compounds standing stop fuel false rest)
      | none => compounds standing stop fuel false (.leaf ⟨.delim c, place⟩ :: rest)
    | parts => compounds standing stop fuel false parts

def compounds (standing : Standing) (stop : Place) :
    Nat → Bool → List Part → Except Fault Selector
  | 0, _, _ => .ok []
  | fuel + 1, isBehind, parts => do
    let parts := dropBlank parts
    let (found, reached, rest) ← compound standing stop fuel parts
    if found.isEmpty then
      .error ⟨if isBehind then .danglingCombinator else .emptySelector, placeOf stop parts⟩
    else if reached.isPseudo then
      Fault.ofLeft rest
      return found
    else
      let behind := dropBlank rest
      let next (sign : Combinator) (rest behindSign : List Part) : Except Fault Selector :=
        if standing.allowsCombinators then do
          return found ++ .combinator sign :: (← compounds standing stop fuel true rest)
        else .error ⟨.invalidState, placeOf stop behindSign⟩
      let hasBlank := rest.length != behind.length
      match behind with
      | [] => return found
      | .leaf ⟨.delim c, place⟩ :: more =>
        match Combinator.ofChar? c with
        | some sign => next sign more more
        | none =>
          if hasBlank then next .descendant behind behind
          else .error ⟨.unexpected (.delim c), place⟩
      | part :: _ =>
        if hasBlank then next .descendant behind behind
        else .error ⟨.unexpected part.first.token, part.place⟩

/-- A compound, what it is about in the end, and the parts behind it. -/
def compound (standing : Standing) (stop : Place) :
    Nat → List Part → Except Fault (List Simple × Reached × List Part)
  | 0, parts => .ok ([], .element, parts)
  | fuel + 1, parts => do
    let (outer, parts) : List Simple × List Part :=
      match parts with
      | .leaf ⟨.delim '&', _⟩ :: rest => ([.outer], rest)
      | parts => ([], parts)
    let (name, rest) ← elementName stop parts
    let (found, reached, rest) ← simples standing stop fuel .element rest
    return (outer ++ name ++ found, reached, rest)

def simples (standing : Standing) (stop : Place) :
    Nat → Reached → List Part → Except Fault (List Simple × Reached × List Part)
  | 0, reached, parts => .ok ([], reached, parts)
  | fuel + 1, reached, parts => do
    let more (first : Simple) (reached : Reached) (rest : List Part) :
        Except Fault (List Simple × Reached × List Part) := do
      let (found, reached, rest) ← simples standing stop fuel reached rest
      return (first :: found, reached, rest)
    let about (first : Simple) (token : Token) (place : Place) (rest : List Part) :
        Except Fault (List Simple × Reached × List Part) :=
      if reached.isPseudo then .error ⟨.behindElement token, place⟩ else more first reached rest
    match parts with
    | .leaf ⟨.hash name true, place⟩ :: rest => about (.id name) (.hash name true) place rest
    | .leaf ⟨.delim '.', place⟩ :: rest =>
      if reached.isPseudo then .error ⟨.behindElement (.delim '.'), place⟩
      else
        match rest with
        | .leaf ⟨.ident name, _⟩ :: rest => more (.className name) reached rest
        | part :: _ => .error ⟨.className part.first.token, part.place⟩
        | [] => .error ⟨.endOfInput, stop⟩
    | .block ⟨.opening .square, place⟩ inner innerStop :: rest =>
      if reached.isPseudo then .error ⟨.behindElement (.opening .square), place⟩
      else more (← attributeOf innerStop inner) reached rest
    | .leaf ⟨.delim '&', _⟩ :: rest => more .outer reached rest
    | .leaf ⟨.colon, _⟩ :: .leaf ⟨.colon, _⟩ :: rest => do
      let (first, reached, rest) ← pseudo standing stop fuel true reached rest
      more first reached rest
    | .leaf ⟨.colon, _⟩ :: rest => do
      let (first, reached, rest) ← pseudo standing stop fuel false reached rest
      more first reached rest
    | parts => return ([], reached, parts)

/-- A pseudo-class or a pseudo-element behind its colons, what the compound is about from there
on, and the parts behind it. -/
def pseudo (standing : Standing) (stop : Place) :
    Nat → Bool → Reached → List Part → Except Fault (Simple × Reached × List Part)
  | 0, _, reached, parts => .ok (.anything, reached, parts)
  | fuel + 1, isDouble, reached, parts => do
    let refuses := !standing.allowsElements || reached.isElement
    match parts with
    | .leaf ⟨.ident name, place⟩ :: rest =>
      if isDouble || Simple.oldElements.contains name.toLower then
        if refuses then .error ⟨.invalidState, placeOf stop rest⟩
        else
          let (found, reached) := plainElement reached name
          return (found, reached, rest)
      else return (← plainClass reached name place, reached, rest)
    | .block ⟨.function name, _⟩ inner innerStop :: rest =>
      if isDouble || Simple.oldElements.contains name.toLower then
        if refuses then .error ⟨.invalidState, placeOf innerStop inner⟩
        else
          let (found, reached) ← calledElement innerStop fuel reached name inner
          return (found, reached, rest)
      else return (← calledClass innerStop fuel reached name inner, reached, rest)
    | part :: rest => .error ⟨.pseudoName part.first.token, placeOf stop rest⟩
    | [] => .error ⟨.endOfInput, stop⟩

def calledElement (stop : Place) :
    Nat → Reached → String → List Part → Except Fault (Simple × Reached)
  | 0, reached, _, _ => .ok (.anything, reached)
  | fuel + 1, reached, name, inner => do
    let lower := name.toLower
    if lower == "part" || lower == "slotted" then
      if reached.isPseudo then .error ⟨.invalidState, placeOf stop inner⟩
      else if lower == "part" then return (.parts (← names stop (inner.length + 1) inner), .part)
      else return (.slotted (← selector .alone false stop fuel inner), .slotted)
    else if lower == "cue" || lower == "cue-region" then
      return (.cue lower (← selector .outermost false stop fuel inner), .pseudoElement)
    else if transitions.contains lower then
      return (.called true lower (Raw.source (Part.trimmed inner)), .transition)
    else return (.called true name (Raw.source inner), reached)

def calledClass (stop : Place) :
    Nat → Reached → String → List Part → Except Fault Simple
  | 0, _, _, _ => .ok .anything
  | fuel + 1, reached, name, inner => do
    let lower := name.toLower
    let several (isForgiving isRelative : Bool) : Except Fault (List Selector) :=
      list .listed isForgiving isRelative stop fuel (splitAt .comma inner)
    match Counting.names.lookup lower with
    | some counting =>
      if reached.isPseudo then .error ⟨.invalidState, placeOf stop inner⟩
      else
        let ((every, first), rest) ← steps stop inner
        match dropBlank rest with
        | .leaf ⟨.ident word, place⟩ :: behind =>
          if counting.allowsSelectors && word.toLower == "of" then
            let among ← list .listed false false stop fuel (splitAt .comma behind)
            return .counted counting every first (some among)
          else .error ⟨.unexpected (.ident word), placeOf place rest⟩
        | _ =>
          Fault.ofLeft rest
          return .counted counting every first none
    | none =>
      if lower == "is" then return .choice .is (← several true false)
      else if lower == "where" then return .choice .light (← several true false)
      else if lower == "has" then return .choice .has (← several true true)
      else if lower == "not" then return .choice .none (← several false false)
      else if lower == "host" then
        if reached.isPseudo then .error ⟨.invalidState, placeOf stop inner⟩
        else return .host (some (← selector .alone false stop fuel inner))
      else if lower == "-webkit-any" || lower == "-moz-any" then
        return .choice (.old (Prefix.split lower).1) (← several true false)
      else if reached.isPseudo then .error ⟨.invalidState, placeOf stop inner⟩
      else if lower == "lang" then return .languages (← languages stop inner)
      else if lower == "dir" then return .direction (← direction stop inner)
      else return .called false name (Raw.source inner)

end

def namesOuter (selector : Selector) : Bool := Simple.anyNamesOuter selector

def ofParts (stop : Place) (parts : List Part) : Except Fault (List Selector) :=
  let parts := Part.withoutComments parts
  list .outermost false false stop (4 * Part.count parts + 8) (splitAt .comma parts)

/-- The selectors of a nested rule: each names the elements around it, if only as those that it
starts from. -/
def ofNestedParts (stop : Place) (parts : List Part) : Except Fault (List Selector) := do
  let parts := Part.withoutComments parts
  let found ← list .outermost false true stop (4 * Part.count parts + 8) (splitAt .comma parts)
  return found.map fun selector =>
    if selector.head?.any Simple.isCombinator then .outer :: selector
    else if namesOuter selector then selector
    else .outer :: .combinator .descendant :: selector

end Selector

end StyleInline.Stylesheet
