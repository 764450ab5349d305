import StyleInline.Proofs.Substitution

/-!
# A substitution, reference by reference

A substitution decides about the references that it meets one after the other: a reference stays, or
a template with a tag and a text stands for it.  Behind the first one that fails all of them stay.
-/

namespace StyleInline

open Script

/-- A reference, and the tag and the text that stand for it if it does not stay. -/
abbrev Decision := Ident × Option (Ident × String)

namespace Decision

mutual

/-- The result is the node with its references, in visiting order, treated as decided. -/
def Makes : Node → List Decision → Node → Prop
  | .ident role id, decided, result =>
    if role.reads then ∃ choice, decided = [(id, choice)] ∧ result = Rules.written role id choice
    else decided = [] ∧ result = .ident role id
  | .importDecl declaration attributes, decided, result =>
    ∃ inner, Makes attributes decided inner ∧ result = .importDecl declaration inner
  | .exportNames declaration attributes, decided, result =>
    ∃ inner, Makes attributes decided inner ∧ result = .exportNames declaration inner
  | .classNode head decorators members parent rest, decided, result =>
    ∃ first second third fourth decorators' members' parent' rest',
      MakesAll decorators first decorators' ∧ MakesAll members second members' ∧
      Makes parent third parent' ∧ MakesAll rest fourth rest' ∧
      decided = first ++ second ++ third ++ fourth ∧
      result = .classNode head decorators' members' parent' rest'
  | .member head key front core back, decided, result =>
    ∃ first second third fourth key' front' core' back',
      Makes key first key' ∧ MakesAll front second front' ∧ Makes core third core' ∧
      MakesAll back fourth back' ∧ decided = first ++ second ++ third ++ fourth ∧
      result = .member head key' front' core' back'
  | .items body, decided, result => ∃ inner, MakesAll body decided inner ∧ result = .items inner
  | .form shape parts, decided, result =>
    ∃ inner, MakesAll parts decided inner ∧ result = .form shape inner

def MakesAll : List Node → List Decision → List Node → Prop
  | [], decided, results => decided = [] ∧ results = []
  | node :: rest, decided, results =>
    ∃ first others result results', Makes node first result ∧ MakesAll rest others results' ∧
      decided = first ++ others ∧ results = result :: results'

end

/-- The results are the members of a class with the references in the cores of the styles members
treated as decided. -/
def MakesStyles : List Node → List Decision → List Node → Prop
  | [], decided, results => decided = [] ∧ results = []
  | .member head key front core back :: rest, decided, results =>
    if isStylesMember (.member head key front core back) then
      ∃ first others core' results', Makes core first core' ∧ MakesStyles rest others results' ∧
        decided = first ++ others ∧ results = .member head key front core' back :: results'
    else
      ∃ results', MakesStyles rest decided results' ∧
        results = .member head key front core back :: results'
  | node :: rest, decided, results =>
    ∃ results', MakesStyles rest decided results' ∧ results = node :: results'

theorem makesStyles_other {node : Node} {rest results : List Node} {decided : List Decision}
    (other : ∀ head key front core back, node ≠ .member head key front core back) :
    MakesStyles (node :: rest) decided results ↔
      ∃ results', MakesStyles rest decided results' ∧ results = node :: results' := by
  rw [MakesStyles]
  exact other

end Decision

namespace Substitution

open Decision

def choice? (setting : Setting) (id : Ident) : Option (Ident × String) :=
  match setting.progress.tag, setting.progress.binding? id with
  | some tag, some binding => some (tag, binding.content)
  | _, _ => none

/-- What is decided about references that are met one after the other. -/
def decisions (setting : Setting) : List Ident → List Decision
  | [] => []
  | id :: rest =>
    if (fault setting id).isSome then (id :: rest).map fun other => (other, none)
    else (id, choice? setting id) :: decisions setting rest

/-- What is decided about references, if there may have been a failure before. -/
def resumed (setting : Setting) (failed : Bool) (ids : List Ident) : List Decision :=
  if failed then ids.map fun other => (other, none) else decisions setting ids

section Decisions

variable {setting : Setting}

theorem choice?_keep {id : Ident} (kept : outcome setting id = .keep) :
    choice? setting id = none := by
  rw [choice?]
  rw [outcome] at kept
  cases bound : setting.progress.binding? id with
  | none => cases setting.progress.tag <;> rfl
  | some binding =>
      rw [bound] at kept
      dsimp only at kept
      split at kept <;> cases kept

theorem choice?_replace {id : Ident} {template : Node}
    (replaced : outcome setting id = .replace template) :
    ∃ tag content, choice? setting id = some (tag, content) ∧
      template = Emit.template tag content := by
  obtain ⟨tag, binding, named, bound, rfl⟩ := outcome_replace replaced
  exact ⟨tag, binding.content, by rw [choice?, named, bound], rfl⟩

/-- Behind the first reference that fails all stay. -/
theorem decisions_of_unmet {asked unread : List Ident} {id : Ident} {error : InlineError}
    (met : ∀ other ∈ asked, fault setting other = none) (unmet : fault setting id = some error) :
    decisions setting (asked ++ id :: unread) =
      (asked.map fun other => (other, choice? setting other)) ++
        (id :: unread).map fun other => (other, none) := by
  induction asked with
  | nil =>
      rw [List.nil_append, decisions, unmet, Option.isSome_some, if_pos rfl]
      rfl
  | cons first rest ih =>
      obtain ⟨here, later⟩ := List.forall_mem_cons.mp met
      rw [List.cons_append, decisions, here, Option.isSome_none, if_neg Bool.false_ne_true,
        ih later]
      rfl

theorem decisions_append (first second : List Ident) :
    decisions setting (first ++ second) =
      decisions setting first ++
        resumed setting (first.findSome? (fault setting)).isSome second := by
  induction first with
  | nil => rfl
  | cons id rest ih =>
      rw [List.cons_append, decisions, decisions, List.findSome?_cons]
      cases failed : fault setting id with
      | none => simp only [Option.isSome_none, Bool.false_eq_true, ↓reduceIte, ih, List.cons_append]
      | some error =>
          simp only [Option.isSome_some, ↓reduceIte, resumed, List.map_append, List.map_cons,
            List.cons_append]

theorem resumed_append (start : Option InlineError) (first second : List Ident) :
    resumed setting start.isSome (first ++ second) =
      resumed setting start.isSome first ++
        resumed setting (start.or (first.findSome? (fault setting))).isSome second := by
  cases start with
  | none =>
      rw [Option.none_or, Option.isSome_none, resumed, resumed, if_neg Bool.false_ne_true,
        if_neg Bool.false_ne_true]
      exact decisions_append first second
  | some error =>
      rw [Option.some_or, Option.isSome_some, resumed, resumed, resumed, if_pos rfl, if_pos rfl,
        if_pos rfl]
      exact List.map_append

/-- One reference is treated as is decided about it. -/
theorem makes_ident (role : Role) (id : Ident) (tally : Tally) (base : String) (spot : Spot)
    (isStyles : Bool) :
    Makes (.ident role id)
      (resumed setting tally.failure.isSome (readsOf (sights base spot isStyles (.ident role id))))
      (substitute setting (.ident role id) tally).1 := by
  rw [Makes]
  cases read : role.reads with
  | false =>
      have unread : readsOf (sights base spot isStyles (.ident role id)) = [] := by
        simp [sights, readsOf, Sight.read?, read]
      rw [substitute_ident_unread setting tally role id read, unread, resumed, decisions,
        List.map_nil, ite_self, if_neg Bool.false_ne_true]
      exact ⟨rfl, rfl⟩
  | true =>
      have one : readsOf (sights base spot isStyles (.ident role id)) = [id] := by
        simp [sights, readsOf, Sight.read?, read]
      rw [one, if_pos rfl]
      cases failed : tally.failure with
      | some error =>
          rw [substitute_ident_failed setting tally role id (by rw [failed]; rfl)]
          exact ⟨none, rfl, rfl⟩
      | none =>
          rw [substitute_ident_read setting tally role id read failed, resumed, Option.isSome_none,
            if_neg Bool.false_ne_true, decisions, decisions]
          cases kind : outcome setting id with
          | keep =>
              have faultless : fault setting id = none := by rw [fault, kind]
              rw [faultless, choice?_keep kind, Option.isSome_none, if_neg Bool.false_ne_true]
              exact ⟨none, rfl, rfl⟩
          | replace template =>
              obtain ⟨tag, content, known, rfl⟩ := choice?_replace kind
              have faultless : fault setting id = none := by rw [fault, kind]
              rw [faultless, known, Option.isSome_none, if_neg Bool.false_ne_true]
              refine ⟨some (tag, content), rfl, ?_⟩
              cases role <;> rfl
          | fail error =>
              have faulty : fault setting id = some error := by rw [fault, kind]
              rw [faulty, Option.isSome_some, if_pos rfl]
              exact ⟨none, rfl, rfl⟩

mutual

/-- A substitution makes of a node what it decides about its references. -/
theorem makes_substitute (setting : Setting) (base : String) (spot : Spot) (isStyles : Bool)
    (node : Node) (tally : Tally) :
    Makes node
      (resumed setting tally.failure.isSome (readsOf (sights base spot isStyles node)))
      (substitute setting node tally).1 := by
  cases node with
  | ident role id => exact makes_ident role id tally base spot isStyles
  | importDecl declaration attributes =>
      have inner := makes_substitute setting base spot false attributes tally
      have unread : readsOf [.imported spot declaration false] = [] := rfl
      rw [sights, readsOf_append, unread, List.append_nil]
      exact ⟨_, inner, rfl⟩
  | exportNames declaration attributes =>
      have inner := makes_substitute setting base spot false attributes tally
      have unread : readsOf ((Scan.exportedBindings declaration).map (Sight.exported spot)) = [] :=
        by simp [readsOf, List.filterMap_map, Function.comp_def, Sight.read?]
      rw [sights, readsOf_append, unread, List.append_nil]
      exact ⟨_, inner, rfl⟩
  | classNode head decorators members parent rest =>
      have unread : readsOf (if extendsBase base parent then [.styled spot head members] else [])
          = [] := by
        split <;> rfl
      have first := makes_substituteAll setting base spot false decorators tally
      have second := makes_substituteAll setting base spot (extendsBase base parent) members
        (substituteAll setting decorators tally).2
      have third := makes_substitute setting base spot false parent
        (substituteAll setting members (substituteAll setting decorators tally).2).2
      have fourth := makes_substituteAll setting base spot false rest
        (substitute setting parent
          (substituteAll setting members (substituteAll setting decorators tally).2).2).2
      refine ⟨_, _, _, _, _, _, _, _, first, second, third, fourth, ?_, rfl⟩
      rw [sights]
      simp only [readsOf_append, unread, List.append_nil, resumed_append,
        substitute_failure setting base spot false parent,
        substituteAll_failure setting base spot (extendsBase base parent) members,
        substituteAll_failure setting base spot false decorators, or_findSome?_append]
  | member head key front core back =>
      let around := if isStyles then spot.within .beside else spot
      let filled := if isStyles then spot.within .filled else spot
      have first := makes_substitute setting base around false key tally
      have second := makes_substituteAll setting base around false front
        (substitute setting key tally).2
      have third := makes_substitute setting base filled false core
        (substituteAll setting front (substitute setting key tally).2).2
      have fourth := makes_substituteAll setting base around false back
        (substitute setting core (substituteAll setting front (substitute setting key tally).2).2).2
      refine ⟨_, _, _, _, _, _, _, _, first, second, third, fourth, ?_, rfl⟩
      rw [sights]
      simp only [readsOf_append, resumed_append,
        substitute_failure setting base filled false core,
        substituteAll_failure setting base around false front,
        substitute_failure setting base around false key, or_findSome?_append, around, filled]
  | items body => exact ⟨_, makes_substituteItems setting base spot body tally, rfl⟩
  | form shape parts => exact ⟨_, makes_substituteAll setting base spot false parts tally, rfl⟩
termination_by node.weight
decreasing_by all_goals (subst_vars; simp only [Node.weight]; omega)

theorem makes_substituteAll (setting : Setting) (base : String) (spot : Spot) (matching : Bool)
    (nodes : List Node) (tally : Tally) :
    MakesAll nodes
      (resumed setting tally.failure.isSome (readsOf (sightsOfAll base spot matching nodes)))
      (substituteAll setting nodes tally).1 := by
  cases nodes with
  | nil =>
      refine ⟨?_, rfl⟩
      simp [sightsOfAll, readsOf, resumed, decisions]
  | cons node rest =>
      have first := makes_substitute setting base spot (matching && isStylesMember node) node tally
      have others := makes_substituteAll setting base spot matching rest
        (substitute setting node tally).2
      refine ⟨_, _, _, _, first, others, ?_, rfl⟩
      rw [sightsOfAll, readsOf_append, resumed_append,
        substitute_failure setting base spot (matching && isStylesMember node) node]
termination_by Node.weightOf nodes
decreasing_by all_goals (subst_vars; simp only [Node.weightOf]; omega)

theorem makes_substituteItems (setting : Setting) (base : String) (spot : Spot)
    (items : List Node) (tally : Tally) :
    MakesAll items
      (resumed setting tally.failure.isSome (readsOf (sightsOfItems base spot items)))
      (substituteAll setting items tally).1 := by
  cases items with
  | nil =>
      refine ⟨?_, rfl⟩
      simp [sightsOfItems, readsOf, resumed, decisions]
  | cons item rest =>
      have others := makes_substituteItems setting base spot rest (substitute setting item tally).2
      rcases item.isImport_or with ⟨declaration, attributes, rfl⟩ | plain
      · have inner := makes_substitute setting base (spot.inside declaration) false attributes tally
        refine ⟨_, _, _, _, ⟨_, inner, rfl⟩, others, ?_, rfl⟩
        have unread : readsOf (.imported spot declaration true :: sightsOfItems base spot rest) =
            readsOf (sightsOfItems base spot rest) := rfl
        rw [sightsOfItems, readsOf_append, unread, resumed_append, substitute_importDecl,
          substitute_failure setting base (spot.inside declaration) false attributes]
      · have first := makes_substitute setting base spot false item tally
        refine ⟨_, _, _, _, first, others, ?_, rfl⟩
        rw [sightsOfItems_cons base spot rest plain, readsOf_append, resumed_append,
          substitute_failure setting base spot false item]
termination_by Node.weightOf items
decreasing_by all_goals (subst_vars; simp only [Node.weight, Node.weightOf]; omega)

end

/-- A substitution in the styles of a class makes of them what it decides about the references in
the cores of the styles members. -/
theorem makes_substituteMembers (setting : Setting) (base : String) (members : List Node)
    (tally : Tally) :
    MakesStyles members
      (resumed setting tally.failure.isSome
        (readsOf (sightsOfAll base {} false (stylesCores members))))
      (substituteMembers setting members tally).1 := by
  induction members generalizing tally with
  | nil =>
      refine ⟨?_, rfl⟩
      simp [stylesCores, sightsOfAll, readsOf, resumed, decisions]
  | cons node rest ih =>
      rcases Rules.isMember_or node with ⟨head, key, front, core, back, rfl⟩ | other
      · rw [substituteMembers_member, stylesCores_member, MakesStyles]
        cases styles : isStylesMember (.member head key front core back) with
        | true =>
            have inner := makes_substitute setting base {} (false && isStylesMember core) core tally
            have others := ih (substitute setting core tally).2
            simp only [↓reduceIte]
            refine ⟨_, _, _, _, inner, others, ?_, rfl⟩
            rw [sightsOfAll, readsOf_append, resumed_append,
              substitute_failure setting base {} (false && isStylesMember core) core]
        | false =>
            simp only [Bool.false_eq_true, ↓reduceIte]
            exact ⟨_, ih tally, rfl⟩
      · rw [substituteMembers_other setting tally other, stylesCores_other rest other,
          makesStyles_other other]
        exact ⟨_, ih tally, rfl⟩

end Decisions

end Substitution

end StyleInline
