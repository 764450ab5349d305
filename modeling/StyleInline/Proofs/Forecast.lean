import Mathlib.Data.List.Basic
import StyleInline.Proofs.Rewrite
import StyleInline.Proofs.Rules.Views
import StyleInline.Proofs.Substitution

/-!
# Forecasts

How the rewriting of a module ends can be told from what a visit of the module comes upon.  It is
ended by an import that is refused, or by a class whose styles ask for a stylesheet too early;
otherwise every stylesheet that was passed is known to the classes behind it.
-/

namespace StyleInline

open Script

def Sight.readsAmong (isBad : Ident → Bool) (sight : Sight) : List Ident :=
  sight.read?.toList.filter isBad

theorem readsOf_filter (isBad : Ident → Bool) (seen : List Sight) :
    (readsOf seen).filter isBad = seen.flatMap (Sight.readsAmong isBad) := by
  rw [readsOf, List.filterMap_eq_flatMap_toList, List.filter_flatMap]
  rfl

/-- What the rewriting of a module is going to meet. -/
structure Forecast where
  plan : Plan
  scan : Scan
  answer : Path → Except InlineError String

/-- How far the rewriting comes. -/
inductive Verdict where
  /-- It passes these stylesheets, the last one first. -/
  | clear (passed : List (Ident × Path))
  /-- An import cannot be resolved, or its stylesheet cannot be had. -/
  | refused
  /-- A class asks for a stylesheet too early; it stands in the attributes of the hosts. -/
  | unmet (className : String) (id : Ident) (hosts : List Import)

namespace Verdict

def next : Verdict → (List (Ident × Path) → Verdict) → Verdict
  | clear passed, rest => rest passed
  | refused, _ => refused
  | unmet className id hosts, _ => unmet className id hosts

/-- The same verdict, as told by a visit that started at `outer`. -/
def seenFrom (outer : Spot) : Verdict → Verdict
  | clear passed => clear passed
  | refused => refused
  | unmet className id hosts => unmet className id (hosts ++ outer.hosts)

theorem next_next (verdict : Verdict) (first second : List (Ident × Path) → Verdict) :
    (verdict.next first).next second = verdict.next fun passed => (first passed).next second := by
  cases verdict <;> rfl

theorem next_seenFrom (outer : Spot) (verdict : Verdict) (rest : List (Ident × Path) → Verdict) :
    (verdict.next rest).seenFrom outer =
      (verdict.seenFrom outer).next fun passed => (rest passed).seenFrom outer := by
  cases verdict <;> rfl

@[simp]
theorem next_clear (verdict : Verdict) : verdict.next .clear = verdict := by
  cases verdict <;> rfl

end Verdict

namespace Forecast

def isSheet (forecast : Forecast) (declaration : Import) : Bool :=
  (forecast.plan.sheet? declaration).isSome

/-- The import of a tag is none of a stylesheet. -/
theorem isSheet_tagDeclaration (forecast : Forecast) (name : Ident) (tag : Tag) :
    forecast.isSheet (Emit.tagDeclaration name tag) = false := by
  cases found : forecast.plan.sheet? (Emit.tagDeclaration name tag) with
  | none => rw [isSheet, found, Option.isSome_none]
  | some sheet =>
      obtain ⟨binding, path⟩ := sheet
      obtain ⟨_, _, member⟩ := Plan.of_sheet? found
      cases member

def refuses (forecast : Forecast) (declaration : Import) : Bool :=
  (forecast.plan.refusal? forecast.answer declaration).isSome

def tagIdent (forecast : Forecast) (tag : Tag) : Ident :=
  { name := forecast.scan.freshName tag.localName }

/-- The bindings that the styles of a class ask for. -/
def uses (forecast : Forecast) (members : List Node) : List Ident :=
  readsOf
    ((sightsOfAll forecast.plan.config.baseClass {} false (stylesCores members)).filter
      fun sight => !sight.spot.hosts.any forecast.isSheet)

def isEarly (forecast : Forecast) (passed : List (Ident × Path)) (id : Ident) : Bool :=
  forecast.scan.styleImports.contains id && (passed.lookup id).isNone

def judge (forecast : Forecast) : Sight → List (Ident × Path) → Verdict
  | .imported _ declaration true, passed =>
    if forecast.refuses declaration then .refused
    else .clear ((forecast.plan.sheet? declaration).toList ++ passed)
  | .styled spot head members, passed =>
    if forecast.plan.config.tag.isNone then .clear passed
    else
      match (forecast.uses members).find? (forecast.isEarly passed) with
      | some id => .unmet (Rewrite.classNameOf head) id spot.hosts
      | none => .clear passed
  | _, passed => .clear passed

/-- How far the rewriting comes with several sights. -/
def judgeAll (forecast : Forecast) : List Sight → List (Ident × Path) → Verdict
  | [], passed => .clear passed
  | sight :: rest, passed => (forecast.judge sight passed).next (forecast.judgeAll rest)

theorem judgeAll_append (forecast : Forecast) (first second : List Sight)
    (passed : List (Ident × Path)) :
    forecast.judgeAll (first ++ second) passed =
      (forecast.judgeAll first passed).next (forecast.judgeAll second) := by
  induction first generalizing passed with
  | nil => rfl
  | cons sight rest ih =>
      simp only [List.cons_append, judgeAll, Verdict.next_next]
      congr 1
      funext passed
      exact ih passed

@[simp]
theorem judgeAll_singleton (forecast : Forecast) (sight : Sight) (passed : List (Ident × Path)) :
    forecast.judgeAll [sight] passed = forecast.judge sight passed :=
  Verdict.next_clear _

theorem judge_seenFrom (forecast : Forecast) (outer : Spot) (sight : Sight)
    (passed : List (Ident × Path)) :
    forecast.judge (sight.seenFrom outer) passed =
      (forecast.judge sight passed).seenFrom outer := by
  cases sight with
  | name spot role id => rfl
  | exported spot id => rfl
  | imported spot declaration isItem =>
      cases isItem
      · rfl
      · simp only [Sight.seenFrom, judge]
        split <;> rfl
  | styled spot head members =>
      simp only [Sight.seenFrom, judge]
      split
      · rfl
      · split <;> rfl

theorem judgeAll_seenFrom (forecast : Forecast) (outer : Spot) (seen : List Sight)
    (passed : List (Ident × Path)) :
    forecast.judgeAll (seen.map (Sight.seenFrom outer)) passed =
      (forecast.judgeAll seen passed).seenFrom outer := by
  induction seen generalizing passed with
  | nil => rfl
  | cons sight rest ih =>
      simp only [List.map_cons, judgeAll, judge_seenFrom, Verdict.next_seenFrom]
      congr 1
      funext passed
      exact ih passed

/-- Imports that do not stand among items are no obstacles. -/
theorem judgeAll_imported (forecast : Forecast) (spot : Spot) (declaration : Import) :
    forecast.judgeAll [.imported spot declaration false] = .clear := rfl

/-- Exports are no obstacles. -/
theorem judgeAll_exported (forecast : Forecast) (spot : Spot) (ids : List Ident) :
    forecast.judgeAll (ids.map (Sight.exported spot)) = .clear := by
  induction ids with
  | nil => rfl
  | cons id rest ih => exact ih

/-- The stylesheet that makes room for itself at a sight. -/
def sheetAt? (forecast : Forecast) : Sight → Option (Ident × Path)
  | .imported _ declaration true => forecast.plan.sheet? declaration
  | _ => none

def passedIn (forecast : Forecast) (seen : List Sight) : List (Ident × Path) :=
  (seen.filterMap forecast.sheetAt?).reverse

theorem passedIn_cons (forecast : Forecast) (sight : Sight) (rest : List Sight) :
    forecast.passedIn (sight :: rest) =
      forecast.passedIn rest ++ (forecast.sheetAt? sight).toList := by
  rw [passedIn, passedIn, List.filterMap_cons]
  cases forecast.sheetAt? sight <;> simp

theorem passedIn_append (forecast : Forecast) (first second : List Sight) :
    forecast.passedIn (first ++ second) = forecast.passedIn second ++ forecast.passedIn first := by
  rw [passedIn, List.filterMap_append, List.reverse_append]
  rfl

theorem mem_passedIn {forecast : Forecast} {seen : List Sight} {sheet : Ident × Path} :
    sheet ∈ forecast.passedIn seen ↔ ∃ sight ∈ seen, forecast.sheetAt? sight = some sheet := by
  rw [passedIn, List.mem_reverse, List.mem_filterMap]

/-- A sight ends the rewriting that has passed some stylesheets. -/
def Stops (forecast : Forecast) (passed : List (Ident × Path)) : Sight → Prop
  | .imported _ declaration true => forecast.refuses declaration = true
  | .styled _ _ members =>
    forecast.plan.config.tag.isSome = true ∧
      ∃ id ∈ forecast.uses members, forecast.isEarly passed id = true
  | _ => False

/-- A sight that does not end the rewriting adds its stylesheet. -/
theorem judge_passing {forecast : Forecast} {sight : Sight} {passed : List (Ident × Path)}
    (passes : ¬ forecast.Stops passed sight) :
    forecast.judge sight passed = .clear ((forecast.sheetAt? sight).toList ++ passed) := by
  cases sight with
  | name spot role id => rfl
  | exported spot id => rfl
  | imported spot declaration isItem =>
      cases isItem with
      | false => rfl
      | true => exact if_neg passes
  | styled spot head members =>
      simp only [judge]
      split
      next => rfl
      next tagged =>
        split
        next id early =>
          refine absurd ⟨?_, id, List.mem_of_find?_eq_some early, List.find?_some early⟩ passes
          rwa [Option.isNone_iff_eq_none, ← ne_eq, ← Option.isSome_iff_ne_none] at tagged
        next => rfl

theorem judge_stopping {forecast : Forecast} {sight : Sight} {passed : List (Ident × Path)}
    (stops : forecast.Stops passed sight) (later : List (Ident × Path)) :
    forecast.judge sight passed ≠ .clear later := by
  cases sight with
  | name spot role id => exact stops.elim
  | exported spot id => exact stops.elim
  | imported spot declaration isItem =>
      cases isItem with
      | false => exact stops.elim
      | true =>
          have refused : forecast.refuses declaration = true := stops
          rw [judge, if_pos refused]
          nofun
  | styled spot head members =>
      obtain ⟨tagged, id, member, early⟩ := stops
      simp only [judge]
      rw [if_neg (by rw [Option.isNone_iff_eq_none]; exact Option.isSome_iff_ne_none.mp tagged)]
      split
      next => nofun
      next missing => exact absurd early (List.find?_eq_none.mp missing id member)

/-- None of some sights ends the rewriting that has passed some stylesheets before. -/
def Passes (forecast : Forecast) (seen : List Sight) (passed : List (Ident × Path)) : Prop :=
  ∀ before sight after, seen = before ++ sight :: after →
    ¬ forecast.Stops (forecast.passedIn before ++ passed) sight

theorem passes_cons {forecast : Forecast} {sight : Sight} {rest : List Sight}
    {passed : List (Ident × Path)} :
    forecast.Passes (sight :: rest) passed ↔
      ¬ forecast.Stops passed sight ∧
        forecast.Passes rest ((forecast.sheetAt? sight).toList ++ passed) := by
  constructor
  · intro passes
    refine ⟨passes [] sight rest rfl, fun before other after same => ?_⟩
    have here := passes (sight :: before) other after (by rw [same, List.cons_append])
    rwa [passedIn_cons, List.append_assoc] at here
  · rintro ⟨here, others⟩ before other after same
    cases before with
    | nil =>
        cases same
        exact here
    | cons first before =>
        cases same
        have later := others before other after rfl
        rwa [passedIn_cons, List.append_assoc]

/-- Sights that do not end the rewriting add their stylesheets. -/
theorem judgeAll_eq_clear_iff (forecast : Forecast) (seen : List Sight)
    (passed later : List (Ident × Path)) :
    forecast.judgeAll seen passed = .clear later ↔
      forecast.Passes seen passed ∧ later = forecast.passedIn seen ++ passed := by
  induction seen generalizing passed with
  | nil =>
      have passes : forecast.Passes [] passed := by
        intro before sight after same
        cases before <;> cases same
      simp [judgeAll, passes, passedIn, eq_comm]
  | cons sight rest ih =>
      rw [judgeAll, passes_cons]
      by_cases stops : forecast.Stops passed sight
      · simp only [stops, not_true_eq_false, false_and, iff_false]
        intro clear
        cases verdict : forecast.judge sight passed with
        | clear middle => exact judge_stopping stops middle verdict
        | refused =>
            rw [verdict] at clear
            cases clear
        | unmet className id hosts =>
            rw [verdict] at clear
            cases clear
      · rw [judge_passing stops, Verdict.next, ih, passedIn_cons, List.append_assoc]
        simp [stops]

/-- The rewriting is ended by the first sight that ends it. -/
theorem judgeAll_eq_iff (forecast : Forecast) (seen : List Sight)
    (passed : List (Ident × Path)) {verdict : Verdict} (ended : ∀ later, verdict ≠ .clear later) :
    forecast.judgeAll seen passed = verdict ↔
      ∃ before sight after, seen = before ++ sight :: after ∧ forecast.Passes before passed ∧
        forecast.judge sight (forecast.passedIn before ++ passed) = verdict := by
  constructor
  · intro judged
    induction seen generalizing passed with
    | nil => exact absurd judged.symm (ended passed)
    | cons sight rest ih =>
        by_cases stops : forecast.Stops passed sight
        · refine ⟨[], sight, rest, rfl, ?_, ?_⟩
          · intro before other after same
            cases before <;> cases same
          · rw [judgeAll] at judged
            cases here : forecast.judge sight passed with
            | clear middle => exact absurd here (judge_stopping stops middle)
            | refused | unmet className id hosts =>
                rw [here] at judged
                exact here.trans judged
        · rw [judgeAll, judge_passing stops] at judged
          obtain ⟨before, other, after, same, passes, judged⟩ := ih _ judged
          refine ⟨sight :: before, other, after, by rw [same, List.cons_append],
            passes_cons.mpr ⟨stops, passes⟩, ?_⟩
          rwa [passedIn_cons, List.append_assoc]
  · rintro ⟨before, sight, after, rfl, passes, judged⟩
    have clear := (forecast.judgeAll_eq_clear_iff before passed _).mpr ⟨passes, rfl⟩
    rw [judgeAll_append, clear, Verdict.next, judgeAll, judged]
    cases verdict with
    | clear later => exact absurd rfl (ended later)
    | refused | unmet className id hosts => rfl

/-- The bindings of a kind that the styles of a class ask for. -/
theorem uses_filter (forecast : Forecast) (members : List Node) (isBad : Ident → Bool) :
    (forecast.uses members).filter isBad =
      Rules.left forecast.isSheet (Sight.readsAmong isBad)
        (sightsOfAll forecast.plan.config.baseClass {} false (stylesCores members)) := by
  rw [uses, readsOf_filter, Rules.left_eq_flatMap_filter]

def lead (forecast : Forecast) : Node :=
  match forecast.plan.config.tag with
  | none => .absent
  | some tag => Emit.tagImport (forecast.tagIdent tag) tag

def isLed (forecast : Forecast) (passed : List (Ident × Path)) : Bool :=
  forecast.plan.config.tag.isNone || !passed.isEmpty

/-- What stands in the place of the import of a stylesheet. -/
def inlined (forecast : Forecast) (binding : Ident) (content : String) : List Node :=
  match forecast.plan.config.tag with
  | none => [Emit.constant binding (Emit.string content)]
  | some tag =>
    if forecast.scan.isStylesOnly binding then []
    else [Emit.constant binding (Emit.template (forecast.tagIdent tag) content)]

/-- The rules that a rewriting follows which has passed some stylesheets. -/
def rules (forecast : Forecast) (passed : List (Ident × Path)) : Rules where
  fills := Rewrite.isMatching forecast.plan
  keeps declaration := forecast.isSheet declaration = false
  replaces declaration items :=
    ∃ binding path content, forecast.plan.sheet? declaration = some (binding, path) ∧
      forecast.answer path = .ok content ∧ items = forecast.inlined binding content
  reads id
    | none => id ∉ forecast.scan.styleImports
    | some (name, content) =>
      (∃ tag, forecast.plan.config.tag = some tag ∧ name = forecast.tagIdent tag) ∧
        id ∈ forecast.scan.stylesReferences ∧
          ∃ path, (id, path) ∈ passed ∧ forecast.answer path = .ok content

theorem rules_within (forecast : Forecast) {passed later : List (Ident × Path)}
    (more : passed ⊆ later) : (forecast.rules passed).Within (forecast.rules later) where
  fills := rfl
  keeps _ kept := kept
  replaces _ _ replaced := replaced
  reads _ choice read := by
    cases choice with
    | none => exact read
    | some template =>
        obtain ⟨named, asked, path, member, answered⟩ := read
        exact ⟨named, asked, path, more member, answered⟩

end Forecast

end StyleInline
