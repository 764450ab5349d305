import StyleInline.Proofs.Exactness
import StyleInline.Proofs.Printing
import StyleInline.Proofs.UnchangedNodes
import StyleInline.Proofs.VisitorReuse

/-!
# Styles of classes, filled in

A class that extends the base class, when its styles are filled in, line by line.  Its members are
printed on lines of their own, and read again the styles that a field or a getter tells have the
texts of their stylesheets, to whatever depth arrays of them are nested.
-/

namespace StyleInline

open Script Script.Grammar Rewrite

/-- The stylesheets that are known are the same. -/
structure Progress.Agrees (known progress : Progress) : Prop where
  tag : known.tag = progress.tag
  bindings : known.bindings = progress.bindings
  scan : known.scan = progress.scan

/-- The template that is read where a stylesheet was put. -/
def readTemplate (name : Ident) (content : String) : Node :=
  rawTemplate (.ident .use { name := name.name }) .absent content.toList

mutual

/-- A value of styles in the margin of a level, with its text and what is read there: a stylesheet
that is filled in, a value that no stylesheet is referred to in, or an array of values. -/
inductive StylesValue (plan : Plan) (dialect : Dialect) (progress : Progress) :
    Nat → Node → List Char × Node → Prop
  | sheet {level : Nat} {binding name : Ident} {sheet : StyleBinding}
      (named : progress.tag = some name) (found : progress.binding? binding = some sheet)
      (bare : IsBare sheet.content.toList) (closed : ¬ EndsOpen sheet.content.toList) :
      StylesValue plan dialect progress level (.ident .use binding)
        (taggedText name.name sheet.content.toList, readTemplate name sheet.content)
  | other {level : Nat} {value read : Node} {text : List Char}
      (unbound : ∀ id ∈ readIn value, progress.binding? id = none)
      (unstyled : ∀ id ∈ readIn value, id ∉ progress.scan.styleImports)
      (quiet : Quiet plan (fun _ => False) (sights plan.config.baseClass {} false value))
      (adds : Text.Layout.Adds level (Printer.piece value).layout text)
      (isValue : IsValue dialect text read) :
      StylesValue plan dialect progress level value (text, read)
  | listed {level : Nat} (isTrailed : Bool) {nodes : List Node}
      {elements : List (List Char × Node)}
      (listed : StylesElements plan dialect progress (level + 1) nodes elements) :
      StylesValue plan dialect progress level (.form (.array isTrailed) nodes)
        (arrayText level elements, .form (.array false) (elements.map Prod.snd))

/-- The elements of an array of styles, some of them all the elements of another one. -/
inductive StylesElements (plan : Plan) (dialect : Dialect) (progress : Progress) :
    Nat → List Node → List (List Char × Node) → Prop
  | nil {level : Nat} : StylesElements plan dialect progress level [] []
  | single {level : Nat} {value : Node} {nodes : List Node} {element : List Char × Node}
      {elements : List (List Char × Node)}
      (valued : StylesValue plan dialect progress level value element)
      (others : StylesElements plan dialect progress level nodes elements) :
      StylesElements plan dialect progress level (value :: nodes) (element :: elements)
  | spread {level : Nat} {value : Node} {nodes : List Node} {element : List Char × Node}
      {elements : List (List Char × Node)}
      (valued : StylesValue plan dialect progress level value element)
      (others : StylesElements plan dialect progress level nodes elements) :
      StylesElements plan dialect progress level (.form .spread [value] :: nodes)
        (('.' :: '.' :: '.' :: element.1, .form .spread [element.2]) :: elements)

end

/-- A name that comes from elsewhere is a value of styles. -/
theorem stylesValue_name {plan : Plan} {dialect : Dialect} {progress : Progress} (level : Nat)
    {id : Ident} (unbound : progress.binding? id = none)
    (unstyled : id ∉ progress.scan.styleImports) (free : isFree id.name = true) :
    StylesValue plan dialect progress level (.ident .use id)
      (id.name.toList, .ident .use { name := id.name }) := by
  refine .other (List.forall_mem_singleton.mpr unbound) (List.forall_mem_singleton.mpr unstyled) ?_
    (adds_name level (isEmpty_of_isFree free)) (isValue_name dialect free)
  constructor
  · intro spot declaration member
    simp [sights] at member
  · intro tagged spot head members member
    simp [sights] at member

/-- A member of a class that extends the base class, with its lines and what is read there: a field
or a getter that tells styles, or a member that gives a rewriting nothing to do. -/
inductive MemberLine (plan : Plan) (dialect : Dialect) (progress : Progress) :
    Node → List Char × Node → Prop
  | field {value : Node} {text : List Char × Node}
      (valued : StylesValue plan dialect progress 1 value text) :
      MemberLine plan dialect progress (stylesField value) (fieldText text.1, stylesField text.2)
  | getter {value : Node} {text : List Char × Node}
      (valued : StylesValue plan dialect progress 2 value text) :
      MemberLine plan dialect progress (stylesGetter value)
        (getterText text.1, stylesGetter text.2)
  | other {member read : Node} {lines : List Char} (unstyled : isStylesMember member = false)
      (quiet : Quiet plan (fun _ => False) (sights plan.config.baseClass {} false member))
      (prints : member.PrintsInside lines) (belongs : Belongs dialect lines read) :
      MemberLine plan dialect progress member (lines, read)

section Styles

variable {plan : Plan} {dialect : Dialect} {progress : Progress}

mutual

/-- A value of styles is read as it tells. -/
theorem isValue_styles (free : ∀ name ∈ progress.tag, isFree name.name = true) {level : Nat}
    {value : Node} {text : List Char × Node}
    (valued : StylesValue plan dialect progress level value text) :
    IsValue dialect text.1 text.2 := by
  cases valued with
  | sheet named found bare closed => exact isValue_template (free _ named) bare closed dialect
  | other unbound unstyled quiet adds isValue => exact isValue
  | listed isTrailed listed => exact isValue_array level (isElement_styles free listed)

theorem isElement_styles (free : ∀ name ∈ progress.tag, isFree name.name = true) {level : Nat}
    {nodes : List Node} {elements : List (List Char × Node)}
    (listed : StylesElements plan dialect progress level nodes elements) :
    ∀ element ∈ elements, IsElement dialect element.1 element.2 := by
  cases listed with
  | nil => exact List.forall_mem_nil _
  | single valued others =>
      exact List.forall_mem_cons.mpr
        ⟨.single (isValue_styles free valued), isElement_styles free others⟩
  | spread valued others =>
      exact List.forall_mem_cons.mpr
        ⟨.spread (isValue_styles free valued), isElement_styles free others⟩

end

section Rewriting

variable {σ : Type} {fetch : Fetch σ}

mutual

/-- In front of the filling of styles their values stay as they are. -/
theorem still_value {level : Nat} {value : Node} {text : List Char × Node}
    (valued : StylesValue plan dialect progress level value text) {run : Run σ}
    (active : run.failure = none) : Still value run (rewriteNode plan fetch value run) := by
  cases valued with
  | sheet => exact ⟨run.events, rfl⟩
  | other unbound unstyled quiet =>
      exact still_node {} false value ⟨active, fun _ _ _ none => none.elim⟩ quiet
  | listed isTrailed listed =>
      obtain ⟨events, same⟩ := still_elements listed active
      exact ⟨events, by rw [rewriteNode_form, same]⟩

theorem still_elements {level : Nat} {nodes : List Node}
    {elements : List (List Char × Node)}
    (listed : StylesElements plan dialect progress level nodes elements) {run : Run σ}
    (active : run.failure = none) : Still nodes run (rewriteNodes plan fetch nodes run) := by
  cases listed with
  | nil => exact ⟨run.events, rfl⟩
  | single valued others =>
      obtain ⟨first, here⟩ := still_value valued active
      obtain ⟨last, same⟩ := @still_elements _ _ _ others { run with events := first } active
      refine ⟨last, ?_⟩
      rw [rewriteNodes_cons, here]
      simp only [same]
  | spread valued others =>
      obtain ⟨first, here⟩ := still_value valued active
      obtain ⟨last, same⟩ := @still_elements _ _ _ others { run with events := first } active
      have none (run : Run σ) : rewriteNodes plan fetch [] run = ([], run) := rfl
      refine ⟨last, ?_⟩
      rw [rewriteNodes_cons, rewriteNode_form, rewriteNodes_cons, here]
      simp only [none, same]

end

theorem rewriteNode_field {value : Node} {run : Run σ} {events : List Event}
    (same : rewriteNode plan fetch value run = (value, { run with events })) :
    rewriteNode plan fetch (stylesField value) run = (stylesField value, { run with events }) := by
  have key : rewriteNode plan fetch (.form (.key "styles") []) run =
    (.form (.key "styles") [], run) := rfl
  have front : rewriteNodes plan fetch [] run = ([], run) := rfl
  have back (run : Run σ) : rewriteNodes plan fetch [.absent, .form .decorators []] run =
    ([.absent, .form .decorators []], run) := rfl
  simp only [stylesField, rewriteNode_member, key, front, same, back]

theorem rewriteNode_getter {value : Node} {run : Run σ} {events : List Event}
    (same : rewriteNode plan fetch value run = (value, { run with events })) :
    rewriteNode plan fetch (stylesGetter value) run = (stylesGetter value, { run with events }) := by
  have key : rewriteNode plan fetch (.form (.key "styles") []) run =
    (.form (.key "styles") [], run) := rfl
  have front : rewriteNodes plan fetch [.group [], .form .decorators []] run =
    ([.group [], .form .decorators []], run) := rfl
  have back (run : Run σ) : rewriteNodes plan fetch [.absent, .absent] run =
    ([.absent, .absent], run) := rfl
  have none (run : Run σ) : rewriteNodes plan fetch [] run = ([], run) := rfl
  simp only [stylesGetter, stylesMember, rewriteNode_member, key, front, rewriteNode_form,
    rewriteNodes_cons, same, none, back]

end Rewriting

section Filling

variable {setting : Substitution.Setting}

mutual

/-- A value of styles is filled in, and printed as the text that tells of it. -/
theorem substitute_value (free : ∀ name ∈ progress.tag, isFree name.name = true)
    (agrees : setting.progress.Agrees progress) {level : Nat} {value : Node}
    {text : List Char × Node} (valued : StylesValue plan dialect progress level value text)
    {tally : Substitution.Tally} (active : tally.failure = none) :
    ∃ count result, Substitution.substitute setting value tally = (result, { tally with count }) ∧
      Text.Layout.Adds level (Printer.piece result).layout text.1 := by
  have same (id : Ident) : setting.progress.binding? id = progress.binding? id := by
    rw [Progress.binding?, agrees.bindings]
    rfl
  cases valued with
  | @sheet _ binding name sheet named found bare closed =>
      have replaced : Substitution.outcome setting binding =
          .replace (Emit.template name sheet.content) := by
        simp only [Substitution.outcome, same, found, agrees.tag, named]
      refine ⟨tally.count + 1, Emit.template name sheet.content, ?_,
        adds_template level (isEmpty_of_isFree (free _ named)) sheet.content⟩
      rw [Substitution.substitute_ident_read _ _ _ _ rfl active, replaced]
      rfl
  | other unbound unstyled quiet adds isValue =>
      have kept : ∀ id ∈ readIn value, Substitution.outcome setting id = .keep := by
        intro id member
        simp [Substitution.outcome, same, unbound id member, agrees.scan, unstyled id member]
      exact ⟨tally.count, value, Substitution.substitute_kept active kept, adds⟩
  | @listed _ isTrailed nodes elements listed =>
      obtain ⟨count, results, replaced, adds⟩ :=
        substitute_elements free agrees listed active
      refine ⟨count, .form (.array isTrailed) results, ?_, adds_array level isTrailed adds⟩
      rw [Substitution.substitute_form, replaced]

theorem substitute_elements (free : ∀ name ∈ progress.tag, isFree name.name = true)
    (agrees : setting.progress.Agrees progress) {level : Nat} {nodes : List Node}
    {elements : List (List Char × Node)}
    (listed : StylesElements plan dialect progress level nodes elements)
    {tally : Substitution.Tally} (active : tally.failure = none) :
    ∃ count results,
      Substitution.substituteAll setting nodes tally = (results, { tally with count }) ∧
        List.Forall₂ (fun node element =>
          Text.Layout.Adds level (Printer.piece node).layout element.1) results elements := by
  cases listed with
  | nil => exact ⟨tally.count, [], rfl, .nil⟩
  | single valued others =>
      obtain ⟨middle, result, here, adds⟩ := substitute_value free agrees valued active
      obtain ⟨count, results, rest, printed⟩ := @substitute_elements free agrees _ _ _
        others { tally with count := middle } active
      refine ⟨count, result :: results, ?_, .cons adds printed⟩
      rw [Substitution.substituteAll_cons, here]
      simp only [rest]
  | spread valued others =>
      obtain ⟨middle, result, here, adds⟩ := substitute_value free agrees valued active
      obtain ⟨count, results, rest, printed⟩ := @substitute_elements free agrees _ _ _
        others { tally with count := middle } active
      have none (tally : Substitution.Tally) :
        Substitution.substituteAll setting [] tally = ([], tally) := rfl
      refine ⟨count, .form .spread [result] :: results, ?_, .cons (adds_spread adds) printed⟩
      rw [Substitution.substituteAll_cons, Substitution.substitute_form,
        Substitution.substituteAll_cons, here]
      simp only [none, rest]

end

end Filling

end Styles

section Members

variable {plan : Plan} {dialect : Dialect} {progress : Progress} {members : List Node}
  {lines : List (List Char × Node)}
  (filled : List.Forall₂ (MemberLine plan dialect progress) members lines)
include filled

theorem belongs_members (free : ∀ name ∈ progress.tag, isFree name.name = true) :
    ∀ line ∈ lines, Belongs dialect line.1 line.2 := by
  induction filled with
  | nil => exact List.forall_mem_nil _
  | cons first _ ih =>
      refine List.forall_mem_cons.mpr ⟨?_, ih⟩
      cases first with
      | field valued => exact belongs_field (isValue_styles free valued)
      | getter valued => exact belongs_getter (isValue_styles free valued)
      | other unstyled quiet prints belongs => exact belongs

/-- In front of the filling of styles the members stay as they are. -/
theorem still_members {σ : Type} {fetch : Fetch σ} {run : Run σ} (active : run.failure = none) :
    Still members run (rewriteNodes plan fetch members run) := by
  induction filled generalizing run with
  | nil => exact ⟨run.events, rfl⟩
  | @cons member _ _ _ first _ ih =>
      have here : Still member run (rewriteNode plan fetch member run) := by
        cases first with
        | field valued =>
            obtain ⟨events, same⟩ := @still_value plan dialect progress σ fetch _ _ _ valued run active
            exact ⟨events, rewriteNode_field same⟩
        | getter valued =>
            obtain ⟨events, same⟩ := @still_value plan dialect progress σ fetch _ _ _ valued run active
            exact ⟨events, rewriteNode_getter same⟩
        | other unstyled quiet =>
            exact still_node {} false member ⟨active, fun _ _ _ none => none.elim⟩ quiet
      obtain ⟨events, same⟩ := here
      obtain ⟨later, others⟩ := @ih { run with events } active
      refine ⟨later, ?_⟩
      rw [rewriteNodes_cons, same]
      dsimp only
      rw [others]

/-- The styles of fields and getters are filled in, each with the stylesheets that they refer to. -/
theorem substitute_members (free : ∀ name ∈ progress.tag, isFree name.name = true)
    {className : String} {known : Progress} (agrees : known.Agrees progress)
    {tally : Substitution.Tally} (active : tally.failure = none) :
    ∃ count results, Substitution.substituteMembers ⟨known, className⟩ members tally =
        (results, { tally with count }) ∧
      List.Forall₂ (fun member line => member.PrintsInside line.1) results lines := by
  induction filled generalizing tally with
  | nil => exact ⟨tally.count, [], rfl, .nil⟩
  | @cons member line rest others first _ ih =>
      cases first with
      | @field value text valued =>
          obtain ⟨middle, result, replaced, adds⟩ := @substitute_value plan dialect progress
            ⟨known, className⟩ free agrees 1 value text valued tally active
          obtain ⟨count, results, same, prints⟩ := @ih { tally with count := middle } active
          refine ⟨count, stylesField result :: results, ?_, .cons (prints_field adds) prints⟩
          have styles : isStylesMember (stylesField value) = true := rfl
          rw [stylesField] at styles ⊢
          rw [Substitution.substituteMembers_member, if_pos styles, replaced]
          simp only [same, stylesField]
      | @getter value text valued =>
          obtain ⟨middle, result, replaced, adds⟩ := @substitute_value plan dialect progress
            ⟨known, className⟩ free agrees 2 value text valued tally active
          obtain ⟨count, results, same, prints⟩ := @ih { tally with count := middle } active
          refine ⟨count, stylesGetter result :: results, ?_, .cons (prints_getter adds) prints⟩
          have body : Substitution.substitute ⟨known, className⟩
              (.form .body [.form .returnValue [value]]) tally =
                (.form .body [.form .returnValue [result]], { tally with count := middle }) := by
            have none (tally : Substitution.Tally) :
              Substitution.substituteAll ⟨known, className⟩ [] tally = ([], tally) := rfl
            rw [Substitution.substitute_form, Substitution.substituteAll_cons,
              Substitution.substitute_form, Substitution.substituteAll_cons, replaced]
            simp only [none]
          have styles : isStylesMember (stylesGetter value) = true := rfl
          rw [stylesGetter, stylesMember] at styles ⊢
          rw [Substitution.substituteMembers_member, if_pos styles, body]
          simp only [same, stylesGetter, stylesMember]
      | other unstyled quiet prints belongs =>
          obtain ⟨count, results, same, printed⟩ := @ih tally active
          refine ⟨count, member :: results, ?_, .cons prints printed⟩
          cases member with
          | member head key front core back =>
              rw [Substitution.substituteMembers_member, if_neg (by rw [unstyled]; decide), same]
          | _ => rw [Substitution.substituteMembers_other _ _ (by simp), same]

end Members

/-- A class that extends the base class gets its members filled in. -/
theorem rewriteNode_styled {σ : Type} {plan : Plan} {fetch : Fetch σ} {tag : Tag}
    {dialect : Dialect} (tagged : plan.config.tag = some tag) (isDeclaration : Bool)
    (name : Option Ident) {base : Ident} {members : List Node} {lines : List (List Char × Node)}
    (extending : base.name = plan.config.baseClass) {run : Run σ}
    (free : ∀ name ∈ run.progress.tag, isFree name.name = true)
    (filled : List.Forall₂ (MemberLine plan dialect run.progress) members lines)
    (active : run.failure = none) :
    ∃ results events,
      rewriteNode plan fetch (extendingClass isDeclaration name base members) run =
        (extendingClass isDeclaration name base results, { run with events }) ∧
      List.Forall₂ (fun member line => member.PrintsInside line.1) results lines := by
  let head : ClassHead := { isDeclaration, isDeclared := false, isAbstract := false, name }
  have matching : isMatching plan (.ident .use base) = true := by
    rw [isMatching, tagged, extendsBase]
    simp [Node.asUse?, extending]
  let called := run.called (some (classNameOf head))
  obtain ⟨events, still⟩ := @still_members plan dialect _ members lines filled σ fetch called active
  obtain ⟨count, results, substituted, prints⟩ :=
    @substitute_members plan dialect _ members lines filled free (classNameOf head)
      called.progress ⟨rfl, rfl, rfl⟩ {} rfl
  obtain ⟨later, done⟩ :=
    @fillStyles_eq σ members { called with events } (classNameOf head) active rfl
  rw [substituted] at done
  refine ⟨results, later, ?_, prints⟩
  have undecorated (run : Run σ) : rewriteNodes plan fetch [] run = ([], run) := rfl
  have parent (run : Run σ) : rewriteNode plan fetch (.ident .use base) run =
    (.ident .use base, run) := rfl
  have others (run : Run σ) : rewriteNodes plan fetch [.absent, .absent, .typing (.group [])] run =
    ([.absent, .absent, .typing (.group [])], run) := rfl
  have named : run.called (some (classNameOf head)) = called := rfl
  rw [extendingClass, rewriteNode_classNode_matching run head [] members (.ident .use base) _ active
    matching]
  simp only [undecorated, named, still, parent, others, done]
  rw [← active]
  rfl

section Item

variable {σ : Type} {plan : Plan} {fetch : Fetch σ} {run after : Run σ} {node result : Node}
  (rewritten : rewriteNode plan fetch node run = (result, after))
include rewritten

theorem rewriteNode_item (place : ClassPlace) :
    rewriteNode plan fetch (place.item node) run = (place.item result, after) := by
  have none (run : Run σ) : rewriteNodes plan fetch [] run = ([], run) := rfl
  cases place <;>
    simp only [ClassPlace.item, rewriteNode_form, rewriteNodes_cons, rewritten, none]

theorem rewriteNode_constant (binding : Ident) :
    rewriteNode plan fetch (Emit.constant binding node) run =
      (Emit.constant binding result, after) := by
  have none (run : Run σ) : rewriteNodes plan fetch [] run = ([], run) := rfl
  have name (run : Run σ) : rewriteNode plan fetch (.ident .bind binding) run =
    (.ident .bind binding, run) := rfl
  simp only [Emit.constant, rewriteNode_form, rewriteNodes_cons, name, rewritten, none]

end Item

end StyleInline
