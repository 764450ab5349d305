import StyleInline.Proofs.Words

/-!
# Values in front of what ends them

A name, a template with a tag, and an array of values on lines of their own, to any depth.  Wherever
a value may start, each of them is read up to the mark behind it.
-/

namespace StyleInline.Script

/-- A text on a line of its own, in the margin of a level. -/
def marginLine (level : Nat) (text : List Char) : List Char :=
  '\n' :: (List.replicate (4 * level) ' ' ++ text)

namespace Lexed

/-- Behind gaps of any kind, a text has this token in front, and this is left of it. -/
def Begins (isTyped : Bool) (chars : List Char) (token : Token) (rest : List Char) : Prop :=
  ∀ fuel newline,
    within isTyped (fuel + 1) newline none chars = ⟨token, newline, none, chars, rest, []⟩

namespace Begins

variable {isTyped : Bool} {chars rest other : List Char} {token same : Token}
  (begins : Begins isTyped chars token rest)
include begins

theorem unique (again : Begins isTyped chars same other) : same = token ∧ other = rest := by
  have seen := (again 0 false).symm.trans (begins 0 false)
  exact ⟨congrArg Lexed.token seen, congrArg Lexed.rest seen⟩

theorem ofChars_eq : ofChars isTyped chars = ⟨token, false, none, chars, rest, chars⟩ := by
  rw [ofChars, begins]

theorem ofChars_blank :
    ofChars isTyped (' ' :: chars) = ⟨token, false, none, chars, rest, ' ' :: chars⟩ := by
  have gap : within isTyped ((' ' :: chars).length + 1) false none (' ' :: chars) =
      within isTyped (chars.length + 1 + 1) false none chars := rfl
  rw [ofChars, gap, begins]

omit begins in
theorem within_replicate (fuel : Nat) (newline : Bool) (count : Nat) :
    within isTyped (fuel + 1) newline none (List.replicate count ' ' ++ chars) =
      within isTyped (fuel + 1) newline none chars := by
  induction count with
  | zero => rfl
  | succ count ih => exact ih

theorem ofChars_margin (level : Nat) :
    ofChars isTyped (marginLine level chars) =
      ⟨token, true, none, chars, rest, marginLine level chars⟩ := by
  have gap : within isTyped ((marginLine level chars).length + 1) false none
      (marginLine level chars) =
        within isTyped ((List.replicate (4 * level) ' ' ++ chars).length + 1 + 1) true none
          (List.replicate (4 * level) ' ' ++ chars) := rfl
  rw [ofChars, gap, within_replicate, begins]

end Begins

end Lexed

namespace Grammar

open Lexed (Begins)

section Name

variable {context : Context} {cursor : Cursor} {name mark : String} {after : Lexed}
  (free : isFree name = true) (seen : cursor.lexed.token = .word name)
  (next : Lexed.ofChars context.dialect.types cursor.lexed.rest = after)
  (quiet : after.noted = none) (ends : after.token = .punct mark) (noArrow : mark ≠ "=>")
  (recur : Read)
include free seen next quiet ends noArrow

theorem outcome_nameOrArrow (canBeArrow : Bool) :
    outcome (nameOrArrow recur canBeArrow) context cursor =
      (.ok (.ident .use { name }), { cursor with lexed := after }) := by
  have bindable := isBindable_of_isFree free
  simp [nameOrArrow, outcome_identifierName bindable seen next quiet, ends, plain_of_isFree free,
    noArrow, atIdentifier, isIdentifier]

/-- A name in front of a mark is read as a value. -/
theorem outcome_primary_name :
    outcome (primary recur) context cursor =
      (.ok (.ident .use { name }), { cursor with lexed := after }) := by
  have bindable := isBindable_of_isFree free
  simp [primary, seen, wordStart, plain_of_isBindable bindable, plain_of_isFree free, isReserved,
    not_mem_keywords bindable, outcome_nameOrArrow free seen next quiet ends noArrow]

end Name

/-- A value may end in front of the text. -/
inductive Ends : List Char → Prop
  | semicolon (tail : List Char) : Ends (';' :: tail)
  | comma (tail : List Char) : Ends (',' :: tail)
  | bracket (level : Nat) (tail : List Char) : Ends (marginLine level (']' :: tail))

theorem begins_bracket (isTyped : Bool) (tail : List Char) :
    Begins isTyped (']' :: tail) (.punct "]") tail := by
  rintro fuel (_ | _) <;> rfl

theorem begins_dots (isTyped : Bool) (tail : List Char) :
    Begins isTyped ('.' :: '.' :: '.' :: tail) (.punct "...") tail := by
  rintro fuel (_ | _) <;> rfl

theorem begins_opening (isTyped : Bool) (tail : List Char) :
    Begins isTyped ('[' :: tail) (.punct "[") tail := by
  rintro fuel (_ | _) <;> rfl

namespace Ends

variable {behind : List Char} (ends : Ends behind)
include ends

theorem closes (isTyped : Bool) : ∃ mark ∈ closers,
    (Lexed.ofChars isTyped behind).token = .punct mark ∧
      (Lexed.ofChars isTyped behind).noted = none := by
  cases ends with
  | semicolon => exact ⟨";", by decide, rfl, rfl⟩
  | comma => exact ⟨",", by decide, rfl, rfl⟩
  | bracket level tail =>
      have seen := (begins_bracket isTyped tail).ofChars_margin level
      exact ⟨"]", by decide, congrArg Lexed.token seen, congrArg Lexed.noted seen⟩

theorem stopsWord : ∃ c tail, behind = c :: tail ∧ Lexer.endsWord c = true := by
  cases ends <;> exact ⟨_, _, rfl, by decide⟩

end Ends

theorem ofChars_backtick (isTyped : Bool) (tail : List Char) :
    Lexed.ofChars isTyped ('\x60' :: tail) =
      ⟨.punct "\x60", false, none, '\x60' :: tail, tail, '\x60' :: tail⟩ :=
  rfl

theorem startsValue_of_isFree {name : String} (free : isFree name = true) :
    startsValue (.word name) = true := by
  have bindable := isBindable_of_isFree free
  have plain : name ∉ valueWords := by
    intro inside
    refine ne_of_isBindable bindable (List.contains_iff_mem.mpr ?_) rfl
    exact (by decide : valueWords ⊆ unboundWords) inside
  simp [startsValue, plain]

/-- Behind the word that it starts with, the text is read as a value, up to what ends it. -/
structure Gives (dialect : Dialect) (word : String) (tail : List Char) (value : Node) : Prop where
  free : isFree word = true
  whole : isWhole value = true
  ends : ∀ behind, Ends behind → ∃ c rest, tail ++ behind = c :: rest ∧ Lexer.endsWord c = true
  reads : ∀ {behind}, Ends behind → ∀ {context : Context} {cursor : Cursor},
    context.dialect = dialect → cursor.lexed.token = .word word →
      cursor.lexed.rest = tail ++ behind → ∀ recur fuel,
        outcome (member recur (fuel + 1)) context cursor =
          (.ok value, { cursor with lexed := Lexed.ofChars dialect.types behind })

/-- A name gives what it is the name of. -/
theorem gives_name (dialect : Dialect) {name : String} (free : isFree name = true) :
    Gives dialect name [] (.ident .use { name }) where
  free := free
  whole := rfl
  ends _ ends := ends.stopsWord
  reads := by
    rintro behind ends context cursor rfl seen rest recur fuel
    obtain ⟨mark, closing, stop, quiet⟩ := ends.closes context.dialect.types
    have noArrow : mark ≠ "=>" := by
      rintro rfl
      exact absurd closing (by decide)
    refine outcome_member_whole closing ?_ rfl stop ?_ fuel
    · rw [seen]
      exact startsValue_of_isFree free
    · exact outcome_primary_name free seen (congrArg _ rest) quiet stop noArrow recur

section Template

variable {tag : String} {chars : List Char} (free : isFree tag = true) (bare : IsBare chars)
  (closed : ¬ EndsOpen chars)
include free bare closed

/-- A tag in front of a template gives that template, with the text as it is. -/
theorem gives_template (dialect : Dialect) :
    Gives dialect tag ('\x60' :: (chars ++ ['\x60']))
      (rawTemplate (.ident .use { name := tag }) .absent chars) where
  free := free
  whole := rfl
  ends behind _ := ⟨_, _, rfl, by decide⟩
  reads := by
    rintro behind ends context cursor rfl seen rest recur fuel
    obtain ⟨mark, closing, stop, quiet⟩ := ends.closes context.dialect.types
    have rest : cursor.lexed.rest = '\x60' :: (chars ++ '\x60' :: behind) := by
      rw [rest, List.cons_append, List.append_assoc]
      rfl
    have start := @outcome_primary_name context cursor tag "\x60" _ free seen (congrArg _ rest) rfl
      rfl (by decide) recur
    have literal := @outcome_templateLiteral { context with beforeColon := false }
      { cursor with
        lexed := Lexed.ofChars context.dialect.types ('\x60' :: (chars ++ '\x60' :: behind)) }
      chars behind recur rfl bare closed
    have tagged : outcome (tagged recur (.ident .use { name := tag }) .absent) context
        { cursor with
          lexed := Lexed.ofChars context.dialect.types ('\x60' :: (chars ++ '\x60' :: behind)) } =
          (.ok (rawTemplate (.ident .use { name := tag }) .absent chars),
            { cursor with lexed := Lexed.ofChars context.dialect.types behind }) := by
      simp [Grammar.tagged, withoutColon, outcome_inContext, literal, rawTemplate, Cursor.seeing,
        quiet, Node.isOptionalChain]
    have raw : isWhole (rawTemplate (.ident .use { name := tag }) .absent chars) = true := rfl
    have stops (fuel : Nat) : outcome (extendWithin (subscript? recur false true) fuel
        { node := rawTemplate (.ident .use { name := tag }) .absent chars }) context
        { cursor with lexed := Lexed.ofChars context.dialect.types behind } =
          (.ok { node := rawTemplate (.ident .use { name := tag }) .absent chars },
            { cursor with lexed := Lexed.ofChars context.dialect.types behind }) := by
      have last := @outcome_subscript?_end context
        { cursor with lexed := Lexed.ofChars context.dialect.types behind } mark closing stop recur
        _ raw false true true
      cases fuel <;> simp [extendWithin, last]
    rw [ofChars_backtick] at start tagged
    let quoted : Cursor :=
      { cursor with
        lexed := ⟨.punct "\x60", false, none, '\x60' :: (chars ++ '\x60' :: behind),
          chars ++ '\x60' :: behind, '\x60' :: (chars ++ '\x60' :: behind)⟩ }
    have first : outcome (subscript? recur false true { node := .ident .use { name := tag } })
        context quoted =
          (.ok (some { node := rawTemplate (.ident .use { name := tag }) .absent chars }),
            { cursor with lexed := Lexed.ofChars context.dialect.types behind }) := by
      simp [subscript?, isBareWord, lastSubscript?, tagged, quoted]
    have all : outcome (subscripts recur false true (.ident .use { name := tag })) context quoted =
        (.ok (rawTemplate (.ident .use { name := tag }) .absent chars),
          { cursor with lexed := Lexed.ofChars context.dialect.types behind }) := by
      simp only [subscripts, extend, extendWithin, outcome_bind, outcome_charsLeft, first, stops,
        outcome_pure]
    simp [member, seen, plain_of_isFree free, start, isArrow, instantiated, instantiation?,
      atTypeArguments, atMarks, quoted] at all ⊢
    exact all

end Template

/-- A token that a value may start with: it is no mark behind which something else stands. -/
def opensValue : Token → Bool
  | .punct mark => !(["]", ",", "...", ";", "\x7d"].contains mark)
  | .fault _ | .eof => false
  | _ => true

/-- In this context the text is read as a value, in front of what ends it. -/
structure Reads (context : Context) (text : List Char) (value : Node) : Prop where
  begins : ∀ behind, Ends behind → ∃ token rest,
    Begins context.dialect.types (text ++ behind) token rest ∧ opensValue token = true
  reads : ∀ {behind}, Ends behind → ∀ {lexed : Lexed},
    Begins context.dialect.types (text ++ behind) lexed.token lexed.rest →
      ∀ depth, depthFor text.length ≤ depth → ∀ start, ∃ finish,
        outcome (reader depth .assignment) context { lexed, arrowStart := start } =
          (.ok value,
            { lexed := Lexed.ofChars context.dialect.types behind, arrowStart := finish })

/-- Wherever a value may start, the text is read as this one. -/
def IsValue (dialect : Dialect) (text : List Char) (value : Node) : Prop :=
  ∀ context : Context, context.dialect = dialect → context.inGenerator = false →
    Reads context text value

theorem exists_fuel {length depth : Nat} (deep : depthFor length ≤ depth) :
    ∃ fuel, depth = fuel + 2 ∧ 16 * length ≤ fuel := by
  refine ⟨depth - 2, ?_⟩
  rw [depthFor] at deep
  omega

/-- What is given behind its first word is a value. -/
theorem isValue_of_gives {dialect : Dialect} {word : String} {tail : List Char} {value : Node}
    (gives : Gives dialect word tail value) : IsValue dialect (word.toList ++ tail) value := by
  rintro context rfl outside
  have seen (behind : List Char) (ends : Ends behind) :
      Begins context.dialect.types (word.toList ++ tail ++ behind) (.word word) (tail ++ behind) := by
    intro fuel newline
    obtain ⟨c, rest, split, stops⟩ := gives.ends behind ends
    rw [List.append_assoc, split, Lexed.within_word _ (isWord_of_isBindable
      (isBindable_of_isFree gives.free)) stops, String.ofList_toList]
  constructor
  · exact fun behind ends => ⟨_, _, seen behind ends, rfl⟩
  · intro behind ends lexed begins depth deep start
    obtain ⟨fuel, rfl, -⟩ := exists_fuel deep
    obtain ⟨mark, closing, stop, quiet⟩ := ends.closes context.dialect.types
    obtain ⟨first, rest⟩ := (seen behind ends).unique begins
    have starts : startsValue lexed.token = true := by
      rw [first]
      exact startsValue_of_isFree gives.free
    exact @outcome_assignment_whole context { lexed, arrowStart := start } mark closing value
      { lexed := Lexed.ofChars context.dialect.types behind } starts gives.whole stop fuel outside
      fun start => ⟨start, fun count =>
        @Gives.reads _ _ _ _ gives behind ends context { lexed, arrowStart := start } rfl first rest
          (reader fuel) count⟩

theorem isValue_name (dialect : Dialect) {name : String} (free : isFree name = true) :
    IsValue dialect name.toList (.ident .use { name }) := by
  have value := isValue_of_gives (gives_name dialect free)
  rwa [List.append_nil] at value

/-- The text of a template with a tag. -/
def taggedText (tag : String) (chars : List Char) : List Char :=
  tag.toList ++ '\x60' :: (chars ++ ['\x60'])

theorem isValue_template {tag : String} {chars : List Char} (free : isFree tag = true)
    (bare : IsBare chars) (closed : ¬ EndsOpen chars) (dialect : Dialect) :
    IsValue dialect (taggedText tag chars)
      (rawTemplate (.ident .use { name := tag }) .absent chars) :=
  isValue_of_gives (gives_template free bare closed dialect)

/-- An element of an array with its text: a value, or all that a value holds, behind dots. -/
inductive IsElement (dialect : Dialect) : List Char → Node → Prop
  | single {text : List Char} {value : Node} (isValue : IsValue dialect text value) :
      IsElement dialect text value
  | spread {text : List Char} {value : Node} (isValue : IsValue dialect text value) :
      IsElement dialect ('.' :: '.' :: '.' :: text) (.form .spread [value])

def elementsTail (level : Nat) : List (List Char × Node) → List Char → List Char
  | [], behind => marginLine level (']' :: behind)
  | element :: elements, behind =>
    ',' :: marginLine (level + 1) (element.1 ++ elementsTail level elements behind)

theorem ends_elementsTail (level : Nat) (elements : List (List Char × Node)) (behind : List Char) :
    Ends (elementsTail level elements behind) := by
  cases elements with
  | nil => exact .bracket _ _
  | cons => exact .comma _

theorem begins_element {dialect : Dialect} {text behind : List Char} {value : Node}
    (isElement : IsElement dialect text value) (ends : Ends behind) :
    ∃ token rest, Begins dialect.types (text ++ behind) token rest ∧
      token ∉ [.punct "]", .punct ",", .eof] := by
  cases isElement with
  | single isValue =>
      obtain ⟨token, rest, begins, opens⟩ := (isValue { dialect } rfl rfl).begins behind ends
      refine ⟨token, rest, begins, fun inside => ?_⟩
      simp only [List.mem_cons, List.not_mem_nil, or_false] at inside
      rcases inside with rfl | rfl | rfl <;> cases opens
  | spread isValue => exact ⟨.punct "...", _, begins_dots _ _, by decide⟩

def elementStep (recur : Read) (list : OpenList) : Parse (Option OpenList) := do
  if (← atMark "]") || (← atEnd) then return none
  if ← eatMark "," then return some (list.push (.form .hole []) false)
  pushItem list "]" (← argument recur)

section Array

variable {context : Context} {behind : List Char} (outside : context.inGenerator = false)
include outside

/-- In front of what ends it, an element is read. -/
theorem outcome_argument_element {text : List Char} {value : Node}
    (isElement : IsElement context.dialect text value) (ends : Ends behind) {lexed : Lexed}
    (begins : Begins context.dialect.types (text ++ behind) lexed.token lexed.rest) {depth : Nat}
    (deep : depthFor text.length ≤ depth) (start : Option Nat) : ∃ finish,
      outcome (argument (reader depth)) context { lexed, arrowStart := start } =
        (.ok value,
          { lexed := Lexed.ofChars context.dialect.types behind, arrowStart := finish }) := by
  cases isElement with
  | single isValue =>
      have reads := isValue { context with allowIn := true } rfl outside
      obtain ⟨token, rest, first, opens⟩ := reads.begins behind ends
      obtain ⟨seen, -⟩ := begins.unique first
      have noDots : lexed.token ≠ .punct "..." := by
        intro dots
        rw [seen, dots] at opens
        cases opens
      obtain ⟨finish, read⟩ := reads.reads ends begins depth deep start
      refine ⟨finish, ?_⟩
      simp [argument, withIn, outcome_inContext, noDots, read]
  | @spread text value isValue =>
      have reads := isValue { context with allowIn := true } rfl outside
      obtain ⟨token, rest, first, -⟩ := reads.begins behind ends
      obtain ⟨seen, left⟩ := (begins_dots context.dialect.types (text ++ behind)).unique begins
      have shallow : depthFor text.length ≤ depth := by
        simp only [depthFor, List.length_cons] at deep ⊢
        omega
      have next := first.ofChars_eq
      obtain ⟨finish, read⟩ := @Reads.reads _ _ _ reads behind ends
        ⟨token, false, none, text ++ behind, rest, text ++ behind⟩ first depth shallow start
      refine ⟨finish, ?_⟩
      simp [argument, withIn, outcome_inContext, seen, left, next, read]

/-- An element is taken into the list, and the comma behind it is left behind. -/
theorem outcome_elementStep (level : Nat) {element : List Char × Node}
    {elements : List (List Char × Node)}
    (areElements : ∀ other ∈ element :: elements, IsElement context.dialect other.1 other.2)
    {depth : Nat} (deep : depthFor element.1.length ≤ depth) (list : OpenList)
    (start : Option Nat) : ∃ finish,
      outcome (elementStep (reader depth) list) context
          { lexed := Lexed.ofChars context.dialect.types
              (marginLine (level + 1) (element.1 ++ elementsTail level elements behind))
            arrowStart := start } =
        (.ok (some (list.push element.2 false)),
          { lexed := Lexed.ofChars context.dialect.types
              (match elements with
              | [] => elementsTail level [] behind
              | next :: elements =>
                marginLine (level + 1) (next.1 ++ elementsTail level elements behind))
            arrowStart := finish }) := by
  obtain ⟨isElement, others⟩ := List.forall_mem_cons.mp areElements
  have ends := ends_elementsTail level elements behind
  obtain ⟨token, rest, begins, opens⟩ := begins_element isElement ends
  simp only [List.mem_cons, List.not_mem_nil, or_false, not_or] at opens
  have here := begins.ofChars_margin (level + 1)
  obtain ⟨finish, read⟩ := @outcome_argument_element context _ outside element.1 element.2 isElement
    ends (Lexed.ofChars context.dialect.types
      (marginLine (level + 1) (element.1 ++ elementsTail level elements behind)))
    (by rw [here]; exact begins) depth deep start
  rw [here] at read ⊢
  refine ⟨finish, ?_⟩
  cases elements with
  | nil =>
      have ended := (begins_bracket context.dialect.types behind).ofChars_margin level
      rw [← elementsTail] at ended
      rw [ended] at read ⊢
      simp [elementStep, opens, read, pushItem]
  | cons next elements =>
      obtain ⟨isNext, -⟩ := List.forall_mem_cons.mp others
      obtain ⟨other, after, following, solid⟩ :=
        begins_element isNext (ends_elementsTail level elements behind)
      simp only [List.mem_cons, List.not_mem_nil, or_false, not_or] at solid
      have comma : Lexed.ofChars context.dialect.types
          (elementsTail level (next :: elements) behind) =
            ⟨.punct ",", false, none, elementsTail level (next :: elements) behind,
              marginLine (level + 1) (next.1 ++ elementsTail level elements behind),
              elementsTail level (next :: elements) behind⟩ := rfl
      have next_eq := following.ofChars_margin (level + 1)
      have unclosed : (other == Token.punct "]") = false := beq_eq_false_iff_ne.mpr solid.1
      simp [elementStep, opens, read, pushItem, comma, expectMark, next_eq, unclosed]

/-- The elements of an array are read one after the other. -/
theorem outcome_elements (level : Nat) {element : List Char × Node}
    {elements : List (List Char × Node)}
    (areElements : ∀ other ∈ element :: elements, IsElement context.dialect other.1 other.2)
    {depth : Nat} (deep : ∀ other ∈ element :: elements, depthFor other.1.length ≤ depth)
    (list : OpenList) {steps : Nat} (enough : elements.length < steps) (start : Option Nat) :
    ∃ finish, outcome (extendWithin (elementStep (reader depth)) steps list) context
        { lexed := Lexed.ofChars context.dialect.types
            (marginLine (level + 1) (element.1 ++ elementsTail level elements behind))
          arrowStart := start } =
      (.ok ⟨((element :: elements).map Prod.snd).reverse ++ list.reversed, false⟩,
        { lexed := Lexed.ofChars context.dialect.types (elementsTail level [] behind)
          arrowStart := finish }) := by
  induction elements generalizing element list steps start with
  | nil =>
      obtain ⟨steps, rfl⟩ := Nat.exists_eq_add_of_lt enough
      obtain ⟨finish, first⟩ := outcome_elementStep outside level areElements
        (deep element List.mem_cons_self) list start
      refine ⟨finish, ?_⟩
      have ended := (begins_bracket context.dialect.types behind).ofChars_margin level
      rw [extendWithin, outcome_bind, first]
      cases steps <;>
        simp [extendWithin, elementStep, elementsTail, ended, OpenList.push]
  | cons next elements ih =>
      obtain ⟨steps, rfl⟩ := Nat.exists_eq_add_of_lt enough
      obtain ⟨middle, first⟩ := outcome_elementStep outside level areElements
        (deep element List.mem_cons_self) list start
      have fewer : elements.length < elements.length + 1 + steps := by omega
      obtain ⟨finish, rest⟩ := ih (fun other member => areElements other (.tail _ member))
        (fun other member => deep other (.tail _ member)) (list.push element.2 false) fewer middle
      refine ⟨finish, ?_⟩
      rw [extendWithin, outcome_bind, first]
      simpa [OpenList.push] using rest

end Array

theorem length_le_elementsTail (level : Nat) (elements : List (List Char × Node))
    (behind : List Char) : elements.length < (elementsTail level elements behind).length := by
  induction elements with
  | nil => exact Nat.succ_pos _
  | cons element elements ih =>
      simp only [elementsTail, marginLine, List.length_cons, List.length_append]
      omega

theorem length_le_of_mem_elementsTail (level : Nat) {element : List Char × Node}
    {elements : List (List Char × Node)} (member : element ∈ elements) (behind : List Char) :
    element.1.length < (elementsTail level elements behind).length := by
  induction member with
  | head =>
      simp only [elementsTail, marginLine, List.length_cons, List.length_append]
      omega
  | tail _ _ ih =>
      simp only [elementsTail, marginLine, List.length_cons, List.length_append]
      omega

/-- The text of an array in the margin of a level, each element on a line of its own. -/
def arrayText (level : Nat) : List (List Char × Node) → List Char
  | [] => ['[', ']']
  | element :: elements =>
    '[' :: marginLine (level + 1) (element.1 ++ elementsTail level elements [])

theorem elementsTail_append (level : Nat) (elements : List (List Char × Node))
    (behind : List Char) :
    elementsTail level elements [] ++ behind = elementsTail level elements behind := by
  induction elements with
  | nil => simp [elementsTail, marginLine]
  | cons element elements ih => simp [elementsTail, marginLine, ih]

section Array

variable {context : Context} {behind : List Char} (outside : context.inGenerator = false)
  {level : Nat} {elements : List (List Char × Node)}
  (areElements : ∀ other ∈ elements, IsElement context.dialect other.1 other.2)
include outside areElements

/-- An array is read with its elements, and nothing is left of it. -/
theorem outcome_primary_array (ends : Ends behind) {lexed : Lexed}
    (begins : Begins context.dialect.types (arrayText level elements ++ behind) lexed.token
      lexed.rest) {depth : Nat}
    (deep : ∀ other ∈ elements, depthFor other.1.length ≤ depth) (start : Option Nat) :
    ∃ finish, outcome (primary (reader depth)) context { lexed, arrowStart := start } =
      (.ok (.form (.array false) (elements.map Prod.snd)),
        { lexed := Lexed.ofChars context.dialect.types behind, arrowStart := finish }) := by
  obtain ⟨mark, closing, stop, settled⟩ := ends.closes context.dialect.types
  have unfolded : (elementList fun _ => argument (reader depth)) = (do
      let found ← extend (elementStep (reader depth)) {}
      expectMark "]"
      return (found.reversed.reverse, found.isTrailed)) := rfl
  cases elements with
  | nil =>
      obtain ⟨seen, rest⟩ := (begins_opening context.dialect.types (']' :: behind)).unique begins
      have ended := (begins_bracket context.dialect.types behind).ofChars_eq
      refine ⟨start, ?_⟩
      simp [primary, arrayLiteral, seen, rest, unfolded, extend, extendWithin, elementStep, ended,
        expectMark, settled]
  | cons element elements =>
      have whole : arrayText level (element :: elements) ++ behind =
          '[' :: marginLine (level + 1) (element.1 ++ elementsTail level elements behind) := by
        simp [arrayText, marginLine, ← elementsTail_append level elements behind]
      have opening : Begins context.dialect.types (arrayText level (element :: elements) ++ behind)
          (.punct "[")
          (marginLine (level + 1) (element.1 ++ elementsTail level elements behind)) := by
        rw [whole]
        exact begins_opening _ _
      obtain ⟨seen, rest⟩ := opening.unique begins
      obtain ⟨token, after, first, -⟩ := begins_element (areElements element List.mem_cons_self)
        (ends_elementsTail level elements behind)
      have first_eq := first.ofChars_margin (level + 1)
      have long : elements.length <
          (element.1 ++ elementsTail level elements behind).length + 1 := by
        have bound := length_le_elementsTail level elements behind
        rw [List.length_append]
        omega
      obtain ⟨finish, read⟩ := @outcome_elements context behind outside level element elements
        areElements depth deep {} _ long start
      have closes := (begins_bracket context.dialect.types behind).ofChars_margin level
      rw [elementsTail, closes, first_eq, List.length_append] at read
      refine ⟨finish, ?_⟩
      simp [primary, arrayLiteral, seen, rest, first_eq, unfolded, extend, read, expectMark,
        settled]

end Array

theorem isValue_array (level : Nat) {dialect : Dialect} {elements : List (List Char × Node)}
    (areElements : ∀ other ∈ elements, IsElement dialect other.1 other.2) :
    IsValue dialect (arrayText level elements)
      (.form (.array false) (elements.map Prod.snd)) := by
  rintro context rfl outside
  have opening (behind : List Char) : ∃ rest,
      Begins context.dialect.types (arrayText level elements ++ behind) (.punct "[") rest := by
    cases elements <;> exact ⟨_, begins_opening _ _⟩
  constructor
  · intro behind _
    obtain ⟨rest, begins⟩ := opening behind
    exact ⟨_, rest, begins, rfl⟩
  · intro behind ends lexed begins depth deep start
    obtain ⟨fuel, rfl, large⟩ := exists_fuel deep
    have enough : ∀ other ∈ elements, depthFor other.1.length ≤ fuel := by
      intro other member
      cases elements with
      | nil => cases member
      | cons element elements =>
          simp only [arrayText, marginLine, depthFor, List.length_cons, List.length_append] at deep ⊢
          rcases List.mem_cons.mp member with rfl | member
          · omega
          · have bound := length_le_of_mem_elementsTail level member []
            omega
    obtain ⟨mark, closing, stop, quiet⟩ := ends.closes context.dialect.types
    have starts : startsValue lexed.token = true := by
      obtain ⟨rest, first⟩ := opening behind
      rw [(first.unique begins).1]
      rfl
    refine @outcome_assignment_whole context { lexed, arrowStart := start } mark closing _
      { lexed := Lexed.ofChars context.dialect.types behind } starts rfl stop fuel outside
      fun start => ?_
    obtain ⟨finish, read⟩ := @outcome_primary_array context behind outside level elements
      areElements ends lexed begins fuel enough start
    exact ⟨finish, @outcome_member_whole context { lexed, arrowStart := start } mark closing _
      { lexed := Lexed.ofChars context.dialect.types behind, arrowStart := finish } starts rfl stop
      _ read⟩

end Grammar

end StyleInline.Script
