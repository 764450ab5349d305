import StyleInline.Proofs.Lines

/-!
# Classes line by line

A class that extends another one, with each of its members on lines of its own.  It is read member
by member wherever a class may stand: as an item, exported or not, and as the value of a constant.
-/

namespace StyleInline.Script

namespace Grammar

section Parent

variable {context : Context} {cursor : Cursor} {name base : String} {after : Lexed}

theorem ofChars_opening (isTyped : Bool) (tail : List Char) :
    Lexed.ofChars isTyped (' ' :: '\x7b' :: tail) =
      ⟨.punct "\x7b", false, none, '\x7b' :: tail, tail, ' ' :: '\x7b' :: tail⟩ :=
  rfl

theorem outcome_leftHandSide_name (free : isFree name = true)
    (seen : cursor.lexed.token = .word name)
    (next : Lexed.ofChars context.dialect.types cursor.lexed.rest = after)
    (quiet : after.noted = none) (ends : after.token = .punct "\x7b") (recur : Read) :
    outcome (leftHandSide recur) context cursor =
      (.ok (.ident .use { name }), { cursor with lexed := after }) := by
  have starts : startsValue cursor.lexed.token = true := by
    rw [seen]
    exact startsValue_of_isFree free
  have closing : "\x7b" ∈ closers := by decide
  exact outcome_leftHandSide_whole closing starts rfl ends fun fuel =>
    outcome_member_whole closing starts rfl ends
      (outcome_primary_name free seen next quiet ends (by decide) recur) fuel

/-- A class extends what is named in front of its brace. -/
theorem outcome_parentClass? (free : isFree base = true)
    (seen : cursor.lexed.token = .word "extends") {tail : List Char}
    (rest : cursor.lexed.rest = ' ' :: (base.toList ++ ' ' :: '\x7b' :: tail)) (recur : Read) :
    outcome (parentClass? recur) context cursor =
      (.ok (.ident .use { name := base }, .absent),
        { cursor with lexed := Lexed.ofChars context.dialect.types (' ' :: '\x7b' :: tail) }) := by
  have blank := ofChars_bindable (isBindable_of_isFree free) context.dialect.types
    Lexer.endsWord_blank ('\x7b' :: tail)
  have parent := @outcome_leftHandSide_name context
    { cursor with
      lexed := ⟨.word base, false, none, base.toList ++ ' ' :: '\x7b' :: tail,
        ' ' :: '\x7b' :: tail, ' ' :: (base.toList ++ ' ' :: '\x7b' :: tail)⟩ }
    base _ free rfl rfl rfl rfl recur
  rw [ofChars_opening] at parent
  simp [parentClass?, parentClass, seen, rest, blank, parent, ofChars_opening, typeArguments?,
    eatMarkIf]

end Parent

def ofMembers (dialect : Dialect) : Context :=
  { dialect, inClass := true, allowSuper := true, hasParent := true }

/-- On a line of its own between the braces of a class, whatever stands behind that line, the text
is read as a member. -/
structure Belongs (dialect : Dialect) (text : List Char) (member : Node) : Prop where
  starts : ∀ behind, behind.length <
    (Lexed.ofChars dialect.types ('\n' :: (text ++ '\n' :: behind))).start.length
  quiet : ∀ behind, (Lexed.ofChars dialect.types ('\n' :: (text ++ '\n' :: behind))).noted = none
  solid : ∀ behind, (Lexed.ofChars dialect.types ('\n' :: (text ++ '\n' :: behind))).token ∉
    [.punct "\x7d", .punct ";", .eof]
  reads : ∀ behind, (Lexed.ofChars dialect.types ('\n' :: behind)).noted = none →
    ∀ depth, depthFor text.length ≤ depth → ∀ start, ∃ finish,
      outcome (classMember (reader depth)) (ofMembers dialect)
          { lexed := Lexed.ofChars dialect.types ('\n' :: (text ++ '\n' :: behind))
            arrowStart := start } =
        (.ok member,
          { lexed := Lexed.ofChars dialect.types ('\n' :: behind), arrowStart := finish })

section Members

theorem ofChars_brace (isTyped : Bool) (tail : List Char) :
    Lexed.ofChars isTyped ('\n' :: '\x7d' :: tail) =
      ⟨.punct "\x7d", true, none, '\x7d' :: tail, tail, '\n' :: '\x7d' :: tail⟩ :=
  rfl

def memberStep (recur : Read) (members : List Node) : Parse (Option (List Node)) := do
  if (← atMark "\x7d") || (← atEnd) then return none
  if ← eatMark ";" then return some (.form .empty [] :: members)
  let member ← classMember recur
  if !(← read).isAmbient && isFullConstructor member && members.any isFullConstructor then
    note .secondConstructor
  return some (member :: members)

variable {dialect : Dialect} {lines : List (List Char × Node)}
  (belongs : ∀ line ∈ lines, Belongs dialect line.1 line.2)
include belongs

theorem quiet_members (behind : List Char) :
    (Lexed.ofChars dialect.types ('\n' :: (page lines ++ '\x7d' :: behind))).noted = none := by
  cases lines with
  | nil => rfl
  | cons line lines =>
      rw [page_cons, List.append_assoc]
      exact (belongs line List.mem_cons_self).quiet _

/-- Line by line, the members are read one after the other, up to the closing brace. -/
theorem outcome_members {depth : Nat} (deep : ∀ line ∈ lines, depthFor line.1.length ≤ depth)
    {reversed : List Node}
    (single : (lines.map Prod.snd).countP isFullConstructor +
      reversed.countP isFullConstructor ≤ 1)
    {fuel : Nat} (enough : lines.length < fuel) (behind : List Char) (start : Option Nat) :
    ∃ finish, outcome (extendWithin (memberStep (reader depth)) fuel reversed) (ofMembers dialect)
        { lexed := Lexed.ofChars dialect.types ('\n' :: (page lines ++ '\x7d' :: behind))
          arrowStart := start } =
      (.ok ((lines.map Prod.snd).reverse ++ reversed),
        { lexed := Lexed.ofChars dialect.types ('\n' :: '\x7d' :: behind)
          arrowStart := finish }) := by
  induction lines generalizing fuel reversed start with
  | nil =>
      obtain ⟨fuel, rfl⟩ := Nat.exists_eq_add_of_lt enough
      refine ⟨start, ?_⟩
      simp [extendWithin, memberStep, page, ofChars_brace]
  | cons line lines ih =>
      obtain ⟨fuel, rfl⟩ := Nat.exists_eq_add_of_lt enough
      have here := belongs line List.mem_cons_self
      have others : ∀ line ∈ lines, Belongs dialect line.1 line.2 :=
        fun other inside => belongs other (List.mem_cons_of_mem _ inside)
      obtain ⟨finish, read⟩ := here.reads (page lines ++ '\x7d' :: behind)
        (quiet_members others behind) depth (deep line List.mem_cons_self) start
      have solid := here.solid (page lines ++ '\x7d' :: behind)
      simp only [List.mem_cons, List.not_mem_nil, or_false, not_or] at solid
      simp only [List.map_cons, List.countP_cons] at single
      have alone : isFullConstructor line.2 = true → reversed.any isFullConstructor = false := by
        intro full
        rw [if_pos full] at single
        rw [List.any_eq_false]
        exact List.countP_eq_zero.mp (by omega)
      have fewer : lines.length < lines.length + 1 + fuel := by omega
      obtain ⟨last, rest⟩ := @ih others
        (fun other inside => deep other (List.mem_cons_of_mem _ inside)) (line.2 :: reversed)
        (by rw [List.countP_cons]; omega) _ fewer finish
      have stepped : outcome (memberStep (reader depth) reversed) (ofMembers dialect)
          { lexed := Lexed.ofChars dialect.types
              ('\n' :: (line.1 ++ '\n' :: (page lines ++ '\x7d' :: behind)))
            arrowStart := start } =
          (.ok (some (line.2 :: reversed)),
            { lexed := Lexed.ofChars dialect.types ('\n' :: (page lines ++ '\x7d' :: behind))
              arrowStart := finish }) := by
        cases full : isFullConstructor line.2 with
        | false => simp [memberStep, solid, read, full]
        | true => simp [memberStep, solid, read, alone full]
      refine ⟨last, ?_⟩
      rw [page_cons, List.append_assoc, List.cons_append, extendWithin, outcome_bind, stepped]
      simpa using rest

/-- The members between the braces of a class, from its opening brace on. -/
theorem outcome_classMembers {depth : Nat}
    (deep : ∀ line ∈ lines, depthFor line.1.length ≤ depth)
    (single : (lines.map Prod.snd).countP isFullConstructor ≤ 1) (behind : List Char)
    (start : Option Nat) :
    ∃ finish, outcome (classMembers (reader depth)) (ofMembers dialect)
        { lexed := Lexed.ofChars dialect.types ('\n' :: (page lines ++ '\x7d' :: behind))
          arrowStart := start } =
      (.ok (lines.map Prod.snd),
        { lexed := Lexed.ofChars dialect.types ('\n' :: '\x7d' :: behind)
          arrowStart := finish }) := by
  have enough : lines.length < (Lexed.ofChars dialect.types
      ('\n' :: (page lines ++ '\x7d' :: behind))).start.length + 1 := by
    cases lines with
    | nil => exact Nat.succ_pos _
    | cons line lines =>
        have starts := (belongs line List.mem_cons_self).starts (page lines ++ '\x7d' :: behind)
        have bound := length_le_page lines
        rw [page_cons, List.append_assoc, List.cons_append]
        simp only [List.length_append, List.length_cons] at starts ⊢
        omega
  obtain ⟨finish, read⟩ := @outcome_members dialect lines belongs depth deep [] single _ enough
    behind start
  rw [List.append_nil] at read
  have unfolded : classMembers (reader depth) = do
      return (← extendWithin (memberStep (reader depth)) ((← charsLeft) + 1) []).reverse := rfl
  refine ⟨finish, ?_⟩
  rw [unfolded]
  simp [read]

end Members

section Export

variable {context : Context} {cursor last : Cursor} {recur : Read} {node : Node}

@[simp]
theorem outcome_set (other : Cursor) :
    outcome (set other : Parse Unit) context cursor = (.ok (), other) := rfl

/-- A trial that comes to nothing leaves everything as it was. -/
theorem outcome_attempt? {α : Type} {reader : Parse (Option α)} {after : Cursor}
    (passes : outcome reader context { cursor with isTrial := true } = (.ok none, after))
    (same : after.noted = cursor.noted) :
    outcome (attempt? reader) context cursor = (.ok none, cursor) := by
  have back : cursor.afterTrial after = cursor := by rw [Cursor.afterTrial, same]
  cases types : context.dialect.types with
  | false => simp [attempt?, types]
  | true => simp [attempt?, types, passes, back]

/-- A class is no export that only the language with types has, and neither is a default. -/
theorem outcome_typedExport? {word : String} (known : word ∈ ["class", "default"])
    (seen : cursor.lexed.token = .word word) :
    outcome (typedExport? recur []) context cursor = (.ok none, cursor) := by
  simp only [List.mem_cons, List.not_mem_nil, or_false] at known
  have none : outcome (typedDeclaration? recur [] false true word) context
      { cursor with isTrial := true } = (.ok none, { cursor with isTrial := true }) := by
    rcases known with rfl | rfl <;> simp [typedDeclaration?]
  have passes := outcome_attempt? none rfl
  rcases known with rfl | rfl <;> simp [typedExport?, seen, passes]

def classWord (tail : List Char) : Lexed :=
  ⟨.word "class", false, none, 'c' :: 'l' :: 'a' :: 's' :: 's' :: ' ' :: tail, ' ' :: tail,
    ' ' :: 'c' :: 'l' :: 'a' :: 's' :: 's' :: ' ' :: tail⟩

theorem ofChars_classWord (isTyped : Bool) (tail : List Char) :
    Lexed.ofChars isTyped (' ' :: 'c' :: 'l' :: 'a' :: 's' :: 's' :: ' ' :: tail) =
      classWord tail :=
  rfl

/-- An export of a class is read as the class behind its word. -/
theorem outcome_exportItem {tail : List Char}
    (rest : cursor.lexed.rest = ' ' :: 'c' :: 'l' :: 'a' :: 's' :: 's' :: ' ' :: tail)
    (read : outcome (openClass recur true) context { cursor with lexed := classWord tail } =
      (.ok node, last)) :
    outcome (exportItem recur []) context cursor =
      (.ok (.form .exportDeclaration [node]), last) := by
  have next := ofChars_classWord context.dialect.types tail
  rw [openClass, classWord] at read
  have untyped := @outcome_typedExport? context { cursor with lexed := classWord tail } recur
    "class" (by decide) rfl
  rw [classWord] at next untyped
  simp [exportItem, rest, next, demand, untyped, eatWordIf, exportedDeclaration?, exportDecorators,
    classDeclaration, read]

/-- A class that is exported by default is read behind the words for it. -/
theorem outcome_exportItem_default {tail : List Char}
    (rest : cursor.lexed.rest = ' ' :: 'd' :: 'e' :: 'f' :: 'a' :: 'u' :: 'l' :: 't' ::
      ' ' :: 'c' :: 'l' :: 'a' :: 's' :: 's' :: ' ' :: tail)
    (read : outcome (openClass recur false) context { cursor with lexed := classWord tail } =
      (.ok node, last)) :
    outcome (exportItem recur []) context cursor =
      (.ok (.form .exportDefaultDeclaration [node]), last) := by
  have next := ofChars_classWord context.dialect.types tail
  let lexed : Lexed :=
    ⟨.word "default", false, none, 'd' :: 'e' :: 'f' :: 'a' :: 'u' :: 'l' :: 't' ::
        ' ' :: 'c' :: 'l' :: 'a' :: 's' :: 's' :: ' ' :: tail,
      ' ' :: 'c' :: 'l' :: 'a' :: 's' :: 's' :: ' ' :: tail,
      ' ' :: 'd' :: 'e' :: 'f' :: 'a' :: 'u' :: 'l' :: 't' ::
        ' ' :: 'c' :: 'l' :: 'a' :: 's' :: 's' :: ' ' :: tail⟩
  have first : Lexed.ofChars context.dialect.types
      (' ' :: 'd' :: 'e' :: 'f' :: 'a' :: 'u' :: 'l' :: 't' ::
        ' ' :: 'c' :: 'l' :: 'a' :: 's' :: 's' :: ' ' :: tail) = lexed := rfl
  have untyped := @outcome_typedExport? context { cursor with lexed } recur "default" (by decide)
    rfl
  rw [openClass, classWord] at read
  rw [classWord] at next
  simp only [lexed] at first untyped
  simp [exportItem, rest, first, next, demand, untyped, eatWordIf, exportDefault, typedDefault?,
    atWords, exportDecorators, classDeclaration, read]

/-- The word of an export starts one. -/
theorem outcome_item_export {dialect : Dialect} {fuel : Nat}
    (seen : cursor.lexed.token = .word "export")
    (read : outcome (exportItem (reader (fuel + 1)) []) { dialect } cursor = (.ok node, last)) :
    outcome (reader (fuel + 2) .item) { dialect } cursor =
      (.ok node, { last with isTrial := cursor.isTrial }) := by
  have undecorated : outcome (reader (fuel + 1) .decorators) { dialect } cursor =
      (.ok (.form .decorators []), cursor) := by
    simp [reader, step, decorators, seen]
  have all : outcome (item (reader (fuel + 1))) { dialect } cursor =
      (.ok node, { last with isTrial := cursor.isTrial }) := by
    simp [item, withoutColon, outcome_inContext, decorated, undecorated, seen, read]
  exact all

end Export

section Class

variable {dialect : Dialect} {lines : List (List Char × Node)} {cursor : Cursor}
  {base : String} {behind : List Char}

/-- Nothing is abstract, and there is one constructor at most. -/
def areOrdinary (members : List Node) : Bool :=
  members.countP isFullConstructor ≤ 1 && members.all (!isAbstractMember ·)

def extendingClass (isDeclaration : Bool) (name : Option Ident) (base : Ident)
    (members : List Node) : Node :=
  .classNode { isDeclaration, isDeclared := false, isAbstract := false, name }
    [] members (.ident .use base) [.absent, .absent, .typing (.group [])]

def IsClassName (name : Option String) : Prop :=
  ∀ word ∈ name, isBindable word = true ∧ word ∉ typeNames

def parentText (base : String) (tail : List Char) : List Char :=
  ' ' :: 'e' :: 'x' :: 't' :: 'e' :: 'n' :: 'd' :: 's' :: ' ' ::
    (base.toList ++ ' ' :: '\x7b' :: tail)

/-- The text of a class behind its word, in front of the line end behind its opening brace. -/
def classFront (name : Option String) (base : String) (tail : List Char) : List Char :=
  (name.elim [] fun word => ' ' :: word.toList) ++ parentText base tail

theorem ofChars_parentText (isTyped : Bool) (base : String) (tail : List Char) :
    Lexed.ofChars isTyped (parentText base tail) =
      ⟨.word "extends", false, none,
        'e' :: 'x' :: 't' :: 'e' :: 'n' :: 'd' :: 's' :: ' ' ::
          (base.toList ++ ' ' :: '\x7b' :: tail),
        ' ' :: (base.toList ++ ' ' :: '\x7b' :: tail), parentText base tail⟩ :=
  rfl

/-- The name of a class is read in front of its parent, if it has one. -/
theorem outcome_className? {context : Context} {name : Option String} (named : IsClassName name)
    {isNamed : Bool} (required : isNamed = true → name.isSome = true) {tail : List Char}
    (here : cursor.lexed = Lexed.ofChars context.dialect.types (classFront name base tail)) :
    outcome (className? isNamed) context cursor =
      (.ok (name.map fun word => { name := word }),
        { cursor with lexed := Lexed.ofChars context.dialect.types (parentText base tail) }) := by
  cases name with
  | none =>
      cases isNamed with
      | true => cases required rfl
      | false =>
          obtain ⟨lexed, noted, isTrial, arrowStart⟩ := cursor
          have here : lexed = Lexed.ofChars context.dialect.types (parentText base tail) := here
          rw [ofChars_parentText] at here ⊢
          simp [className?, bindingName?, atIdentifier, isIdentifier, isReserved, keywords, here]
  | some word =>
      obtain ⟨bindable, untyped⟩ := named word rfl
      have front : classFront (some word) base tail = ' ' :: (word.toList ++ parentText base tail) :=
        rfl
      rw [front, parentText, ofChars_bindable bindable _ Lexer.endsWord_blank, ← parentText] at here
      have bound := @outcome_bindingName word bindable context cursor
        (Lexed.ofChars context.dialect.types (parentText base tail)) (by rw [here]) (by rw [here])
        rfl true
      cases isNamed <;>
        simp [className?, bindingName?, atIdentifier, isIdentifier, isReserved, here,
          not_mem_keywords bindable, plain_of_isBindable bindable, bound, untyped]

theorem outcome_classRest {name : Option String} (named : IsClassName name) {isNamed : Bool}
    (required : isNamed = true → name.isSome = true) (parent : isFree base = true)
    (belongs : ∀ line ∈ lines, Belongs dialect line.1 line.2)
    (ordinary : areOrdinary (lines.map Prod.snd) = true) {depth : Nat}
    (deep : ∀ line ∈ lines, depthFor line.1.length ≤ depth)
    (settled : (Lexed.ofChars dialect.types behind).noted = none) (isDeclaration : Bool)
    (seen : cursor.lexed.token = .word "class")
    (rest : cursor.lexed.rest =
      classFront name base ('\n' :: (page lines ++ '\x7d' :: behind)))
    (quiet : cursor.noted = none) (untried : cursor.isTrial = false) :
    ∃ finish, outcome (classRest (reader depth)
        { isDeclaration, isDeclared := false, isAbstract := false, name := none } [] isNamed)
          { dialect } cursor =
      (.ok (extendingClass isDeclaration (name.map fun word => { name := word }) { name := base }
          (lines.map Prod.snd)),
        { lexed := Lexed.ofChars dialect.types behind, arrowStart := finish }) := by
  simp only [areOrdinary, Bool.and_eq_true, decide_eq_true_eq] at ordinary
  obtain ⟨single, concrete⟩ := ordinary
  have solid : ¬∃ member, member ∈ lines.map Prod.snd ∧ isAbstractMember member = true := by
    rintro ⟨member, inside, abstract⟩
    have concrete := List.all_eq_true.mp concrete member inside
    rw [abstract] at concrete
    cases concrete
  let body := '\n' :: (page lines ++ '\x7d' :: behind)
  have intact : (Lexed.ofChars dialect.types (classFront name base body)).noted = none := by
    cases name with
    | none => rfl
    | some word =>
        have front : classFront (some word) base body =
          ' ' :: (word.toList ++ parentText base body) := rfl
        rw [front, parentText, ofChars_bindable (named word rfl).1 _ Lexer.endsWord_blank]
  have called := @outcome_className?
    { cursor with lexed := Lexed.ofChars dialect.types (classFront name base body) } base
    { dialect, inClass := true } name named isNamed required body rfl
  have extended := @outcome_parentClass? { dialect, inClass := true }
    { cursor with lexed := Lexed.ofChars dialect.types (parentText base body) } base parent
    (by rw [ofChars_parentText]) body (by rw [ofChars_parentText]) (reader depth)
  obtain ⟨finish, members⟩ := outcome_classMembers belongs deep single behind cursor.arrowStart
  have settledMembers := quiet_members belongs behind
  obtain ⟨lexed, noted, isTrial, arrowStart⟩ := cursor
  subst quiet untried
  rw [ofChars_parentText] at called
  rw [ofChars_parentText, ofChars_opening] at extended
  rw [ofMembers] at members
  dsimp only at seen rest called extended members
  refine ⟨finish, ?_⟩
  simp only [classRest, outcome_inContext, outcome_bind, expectWord, outcome_eatWord, seen]
  simp [rest, intact, body, called, typeParameters?, extended,
    implementedTypes, eatWordIf, expectMark, outcome_inContext, Node.isAbsent, settledMembers,
    members, if_neg solid, ofChars_brace, settled, extendingClass]

/-- The lines of a class, given those of its members. -/
def classLines (name : Option String) (base : String) (lines : List (List Char × Node)) :
    List Char :=
  "class".toList ++ classFront name base ('\n' :: (page lines ++ ['\x7d']))

theorem classLines_eq (name : Option String) (base : String) (lines : List (List Char × Node)) :
    classLines name base lines =
      "class".toList ++ classFront name base ('\n' :: (page lines ++ ['\x7d'])) :=
  rfl

theorem exists_classFront (name : Option String) (base : String) (tail : List Char) :
    ∃ rest, classFront name base tail = ' ' :: rest := by
  cases name <;> exact ⟨_, rfl⟩

theorem classFront_append (name : Option String) (base : String) (tail behind : List Char) :
    classFront name base tail ++ behind = classFront name base (tail ++ behind) := by
  simp [classFront, parentText]

end Class

/-- Where a class stands among the items of a module. -/
inductive ClassPlace where
  | plain
  | exported
  | byDefault
  deriving DecidableEq, Repr

namespace ClassPlace

def item : ClassPlace → Node → Node
  | plain, declaration => declaration
  | exported, declaration => .form .exportDeclaration [declaration]
  | byDefault, declaration => .form .exportDefaultDeclaration [declaration]

def front : ClassPlace → List Char → List Char
  | plain, lines => lines
  | exported, lines => "export".toList ++ ' ' :: lines
  | byDefault, lines => "export".toList ++ ' ' :: ("default".toList ++ ' ' :: lines)

theorem front_plain (lines : List Char) : plain.front lines = lines := rfl

theorem front_exported (lines : List Char) :
    exported.front lines = "export".toList ++ ' ' :: lines :=
  rfl

theorem front_byDefault (lines : List Char) :
    byDefault.front lines = "export".toList ++ ' ' :: ("default".toList ++ ' ' :: lines) :=
  rfl

def Allows (place : ClassPlace) (name : Option String) : Prop :=
  place ≠ byDefault → name.isSome = true

end ClassPlace

section Item

variable {dialect : Dialect} {lines : List (List Char × Node)} {cursor : Cursor}
  {base : String} {behind : List Char} {name : Option String} (named : IsClassName name)
  (parent : isFree base = true)
  (belongs : ∀ line ∈ lines, Belongs dialect line.1 line.2)
  (ordinary : areOrdinary (lines.map Prod.snd) = true)
include named parent belongs ordinary

/-- A class is read member by member, behind what stands in front of its word. -/
theorem outcome_class {isNamed : Bool} (required : isNamed = true → name.isSome = true)
    (isDeclaration : Bool) {fuel : Nat}
    (deep : depthFor (classLines name base lines).length ≤ fuel + 16)
    (settled : (Lexed.ofChars dialect.types behind).noted = none)
    (seen : cursor.lexed.token = .word "class")
    (rest : cursor.lexed.rest =
      classFront name base ('\n' :: (page lines ++ ['\x7d'])) ++ behind)
    (quiet : cursor.noted = none) (untried : cursor.isTrial = false) :
    ∃ finish, outcome (reader (fuel + 1) (.classRest
        { isDeclaration, isDeclared := false, isAbstract := false, name := none } [] isNamed))
          { dialect } cursor =
      (.ok (extendingClass isDeclaration (name.map fun word => { name := word }) { name := base }
          (lines.map Prod.snd)),
        { lexed := Lexed.ofChars dialect.types behind, arrowStart := finish }) := by
  have enough : ∀ line ∈ lines, depthFor line.1.length ≤ fuel := by
    intro line member
    have bound := length_le_page_of_mem member
    simp only [depthFor, classLines_eq, classFront, parentText, List.length_append,
      List.length_cons] at deep ⊢
    omega
  rw [classFront_append, List.cons_append, List.append_assoc] at rest
  exact outcome_classRest named required parent belongs ordinary enough settled isDeclaration seen
    rest quiet untried

/-- A class is read as the value of a constant. -/
theorem reads_class : Reads { dialect } (classLines name base lines)
    (extendingClass false (name.map fun word => { name := word }) { name := base }
      (lines.map Prod.snd)) := by
  have seen (behind : List Char) : Lexed.Begins dialect.types (classLines name base lines ++ behind)
      (.word "class") (classFront name base ('\n' :: (page lines ++ ['\x7d'])) ++ behind) := by
    intro fuel newline
    obtain ⟨rest, front⟩ := exists_classFront name base ('\n' :: (page lines ++ ['\x7d']))
    rw [classLines_eq, List.append_assoc, front]
    exact Lexed.within_word dialect.types (by decide) Lexer.endsWord_blank _ fuel newline
  constructor
  · exact fun behind _ => ⟨_, _, seen behind, rfl⟩
  · intro behind ends lexed begins depth deep start
    obtain ⟨mark, closing, stop, quiet⟩ := ends.closes dialect.types
    obtain ⟨first, rest⟩ := (seen behind).unique begins
    obtain ⟨fuel, rfl⟩ := exists_depth 3 (by decide) deep
    have starts : startsValue lexed.token = true := by
      rw [first]
      rfl
    have enough : depthFor (classLines name base lines).length ≤ fuel + 16 := by omega
    have unrequired : false = true → name.isSome = true := fun wrong => absurd wrong (by decide)
    refine @outcome_assignment_whole { dialect } { lexed, arrowStart := start } mark closing _
      { lexed := Lexed.ofChars dialect.types behind } starts rfl stop (fuel + 1) rfl fun start => ?_
    obtain ⟨finish, read⟩ := @outcome_class dialect lines { lexed, arrowStart := start } base behind
      name named parent belongs ordinary false unrequired false fuel enough quiet first rest rfl rfl
    have whole : outcome (primary (reader (fuel + 1))) { dialect } { lexed, arrowStart := start } =
        (.ok (extendingClass false (name.map fun word => { name := word }) { name := base }
          (lines.map Prod.snd)),
          { lexed := Lexed.ofChars dialect.types behind, arrowStart := finish }) := by
      simp [primary, first, wordStart, classExpression, read]
    exact ⟨finish, @outcome_member_whole { dialect } { lexed, arrowStart := start } mark closing _
      { lexed := Lexed.ofChars dialect.types behind, arrowStart := finish } starts rfl stop _ whole⟩

section Front

variable {front : List Char}
  (begun : classFront name base ('\n' :: (page lines ++ ['\x7d'])) = ' ' :: front)
include begun

/-- A class at the start of a line, or behind the words for its export. -/
theorem outcome_openClass {isNamed : Bool} (required : isNamed = true → name.isSome = true)
    {fuel : Nat} (deep : depthFor ("class".toList ++ ' ' :: front).length ≤ fuel + 16)
    (opens : Opens dialect behind) {lexed : Lexed} (seen : lexed.token = .word "class")
    (rest : lexed.rest = ' ' :: (front ++ '\n' :: behind)) (start : Option Nat) :
    ∃ finish, outcome (openClass (reader (fuel + 1)) isNamed) { dialect }
        { lexed, arrowStart := start } =
      (.ok (extendingClass true (name.map fun word => { name := word }) { name := base }
          (lines.map Prod.snd)),
        { lexed := Lexed.onLine dialect.types ('\n' :: behind) behind, arrowStart := finish }) := by
  rw [← begun, ← classLines_eq] at deep
  have behindWord : lexed.rest =
      classFront name base ('\n' :: (page lines ++ ['\x7d'])) ++ '\n' :: behind := by
    rw [rest, begun, List.cons_append]
  obtain ⟨finish, read⟩ := @outcome_class dialect lines { lexed, arrowStart := start } base
    ('\n' :: behind) name named parent belongs ordinary isNamed required true fuel deep opens.settled
    seen behindWord rfl rfl
  rw [Lexed.ofChars_newline] at read
  exact ⟨finish, read⟩

theorem stands_declared (placed : name.isSome = true) :
    Stands dialect ("class".toList ++ ' ' :: front)
      (extendingClass true (name.map fun word => { name := word }) { name := base }
        (lines.map Prod.snd)) := by
  refine stands_of_word (by decide) (by decide) (by decide)
    fun behind opens depth deep before start => ?_
  obtain ⟨fuel, rfl⟩ := exists_depth 2 (by decide) deep
  obtain ⟨word, same⟩ := Option.isSome_iff_exists.mp placed
  have named_front : ∃ tail, ' ' :: (front ++ '\n' :: behind) = ' ' :: (word.toList ++ ' ' :: tail) := by
    rw [← List.cons_append, ← begun, same]
    exact ⟨_, by simp [classFront, parentText]; rfl⟩
  obtain ⟨tail, behindWord⟩ := named_front
  have enough : depthFor ("class".toList ++ ' ' :: front).length ≤ fuel + 16 := by
    simp only [depthFor, List.length_append, List.length_cons] at deep ⊢
    omega
  obtain ⟨finish, read⟩ := @outcome_openClass dialect lines base behind name named parent
    belongs ordinary front begun true (fun _ => placed) fuel enough opens
    ⟨.word (String.ofList "class".toList), true, none,
      "class".toList ++ ' ' :: (front ++ '\n' :: behind), ' ' :: (front ++ '\n' :: behind), before⟩
    rfl rfl start
  exact ⟨finish, @outcome_item_keyword _ _ _ dialect "class" word fuel (by decide)
    (named word same).1 rfl tail behindWord (outcome_keyword_class read)⟩

theorem stands_exported (placed : name.isSome = true) :
    Stands dialect ("export".toList ++ ' ' :: ("class".toList ++ ' ' :: front))
      (.form .exportDeclaration [extendingClass true (name.map fun word => { name := word })
        { name := base } (lines.map Prod.snd)]) := by
  refine stands_of_word (by decide) (by decide) (by decide)
    fun behind opens depth deep before start => ?_
  obtain ⟨fuel, rfl⟩ := exists_depth 2 (by decide) deep
  have enough : depthFor ("class".toList ++ ' ' :: front).length ≤ fuel + 16 := by
    simp only [depthFor, List.length_append, List.length_cons] at deep ⊢
    omega
  obtain ⟨finish, read⟩ := @outcome_openClass dialect lines base behind name named parent
    belongs ordinary front begun true (fun _ => placed) fuel enough opens
    (classWord (front ++ '\n' :: behind)) rfl rfl start
  have exporting := @outcome_exportItem { dialect }
    { lexed := ⟨.word (String.ofList "export".toList), true, none,
        "export".toList ++ ' ' :: ("class".toList ++ ' ' :: front ++ '\n' :: behind),
        ' ' :: ("class".toList ++ ' ' :: front ++ '\n' :: behind), before⟩
      arrowStart := start } _ (reader (fuel + 1)) _ _ rfl read
  exact ⟨finish, @outcome_item_export _ _ _ dialect fuel rfl exporting⟩

theorem stands_exportedDefault :
    Stands dialect ("export".toList ++ ' ' :: ("default".toList ++ ' ' ::
        ("class".toList ++ ' ' :: front)))
      (.form .exportDefaultDeclaration [extendingClass true (name.map fun word => { name := word })
        { name := base } (lines.map Prod.snd)]) := by
  refine stands_of_word (by decide) (by decide) (by decide)
    fun behind opens depth deep before start => ?_
  obtain ⟨fuel, rfl⟩ := exists_depth 2 (by decide) deep
  have unrequired : false = true → name.isSome = true := fun wrong => absurd wrong (by decide)
  have enough : depthFor ("class".toList ++ ' ' :: front).length ≤ fuel + 16 := by
    simp only [depthFor, List.length_append, List.length_cons] at deep ⊢
    omega
  obtain ⟨finish, read⟩ := @outcome_openClass dialect lines base behind name named parent
    belongs ordinary front begun false unrequired fuel enough opens
    (classWord (front ++ '\n' :: behind)) rfl rfl start
  have exporting := @outcome_exportItem_default { dialect }
    { lexed := ⟨.word (String.ofList "export".toList), true, none,
        "export".toList ++ ' ' ::
          ("default".toList ++ ' ' :: ("class".toList ++ ' ' :: front) ++ '\n' :: behind),
        ' ' :: ("default".toList ++ ' ' :: ("class".toList ++ ' ' :: front) ++ '\n' :: behind),
        before⟩
      arrowStart := start } _ (reader (fuel + 1)) _ _ rfl read
  exact ⟨finish, @outcome_item_export _ _ _ dialect fuel rfl exporting⟩

end Front

/-- A class is read member by member as the item of its place. -/
theorem stands_class (place : ClassPlace) (placed : place.Allows name) :
    Stands dialect (place.front (classLines name base lines))
      (place.item (extendingClass true (name.map fun word => { name := word }) { name := base }
        (lines.map Prod.snd))) := by
  obtain ⟨front, begun⟩ := exists_classFront name base ('\n' :: (page lines ++ ['\x7d']))
  rw [classLines_eq, begun]
  cases place with
  | plain =>
      exact stands_declared named parent belongs ordinary begun (placed (by decide))
  | exported =>
      exact stands_exported named parent belongs ordinary begun (placed (by decide))
  | byDefault =>
      exact stands_exportedDefault named parent belongs ordinary begun

end Item

end Grammar

end StyleInline.Script
