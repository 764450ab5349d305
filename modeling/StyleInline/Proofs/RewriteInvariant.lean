import StyleInline.Proofs.Announcement
import StyleInline.Proofs.Forecast
import StyleInline.Proofs.Scan

/-!
# A rewriting that has not failed

As long as nothing fails, what is remembered is told by the stylesheets that were passed.  One more
is passed when it is imported, and the styles of a class are filled in unless they ask for a
stylesheet that was not passed yet.
-/

namespace StyleInline

open Script Rewrite

/-- What is read in the cores of styles members is read in styles. -/
theorem sights_stylesCores (base : String) (spot : Spot) {members : List Node} {sight : Sight}
    (member : sight ∈ sightsOfAll base {} false (stylesCores members)) :
    sight.seenFrom (spot.within .filled) ∈ sightsOfAll base spot true members := by
  induction members with
  | nil => cases member
  | cons node rest ih =>
      rw [sightsOfAll, List.mem_append]
      rcases Rules.isMember_or node with ⟨head, key, front, core, back, rfl⟩ | other
      · rw [stylesCores_member] at member
        split at member
        next styles =>
          rw [sightsOfAll, List.mem_append] at member
          rcases member with here | later
          · have inside := List.mem_map_of_mem (f := Sight.seenFrom (spot.within .filled)) here
            rw [Bool.false_and, ← sights_join, Spot.join_start] at inside
            refine .inl ?_
            rw [styles, Bool.and_self, sights]
            simp [inside]
          · exact .inr (ih later)
        next => exact .inr (ih member)
      · rw [stylesCores_other rest other] at member
        exact .inr (ih member)

namespace Forecast

variable {σ : Type}

def tagBehind (forecast : Forecast) (passed : List (Ident × Path)) : Option Ident :=
  match forecast.plan.config.tag with
  | none => none
  | some tag => if passed.isEmpty then none else some (forecast.tagIdent tag)

/-- The text that is put in the place of a binding behind some stylesheets. -/
def known? (forecast : Forecast) (passed : List (Ident × Path)) (id : Ident) : Option String :=
  if forecast.plan.config.tag.isSome && forecast.scan.stylesReferences.contains id then
    (passed.lookup id).bind fun path => (forecast.answer path).toOption
  else none

/-- A binding that no class behind the passed stylesheets can have. -/
def isUnknown (forecast : Forecast) (passed : List (Ident × Path))
    (id : Ident) : Bool :=
  forecast.scan.styleImports.contains id && (forecast.known? passed id).isNone

/-- No stylesheet bears the name of a tag, and no styles ask for it. -/
def IsFresh (forecast : Forecast) : Prop :=
  ∀ tag, forecast.tagIdent tag ∉ forecast.scan.styleImports ∧
    forecast.tagIdent tag ∉ forecast.scan.stylesReferences

/-- A text that is known is that of a stylesheet that was passed. -/
theorem of_known? {forecast : Forecast} {passed : List (Ident × Path)} {id : Ident}
    {content : String} (known : forecast.known? passed id = some content) :
    (∃ tag, forecast.plan.config.tag = some tag ∧
        forecast.tagBehind passed = some (forecast.tagIdent tag)) ∧
      id ∈ forecast.scan.stylesReferences ∧
        ∃ path, (id, path) ∈ passed ∧ forecast.answer path = .ok content := by
  rw [known?] at known
  split at known
  next asked =>
    obtain ⟨tagged, asked⟩ := Bool.and_eq_true_iff.mp asked
    obtain ⟨tag, tagged⟩ := Option.isSome_iff_exists.mp tagged
    obtain ⟨path, found, answered⟩ := Option.bind_eq_some_iff.mp known
    obtain ⟨before, after, rfl, _⟩ := List.lookup_eq_some_iff.mp found
    refine ⟨⟨tag, tagged, ?_⟩, List.contains_iff_mem.mp asked, path, by simp, ?_⟩
    · cases before <;> simp [tagBehind, tagged]
    · cases answer : forecast.answer path with
      | error error =>
          rw [answer] at answered
          cases answered
      | ok text =>
          rw [answer] at answered
          cases answered
          rfl
  next => cases known

/-- The texts that are known behind one more stylesheet. -/
theorem known?_cons {forecast : Forecast} (tagged : forecast.plan.config.tag.isSome = true)
    {passed : List (Ident × Path)} {binding : Ident} {path : Path} {content : String}
    (answered : forecast.answer path = .ok content) (id : Ident) :
    forecast.known? ((binding, path) :: passed) id =
      if id = binding ∧ binding ∈ forecast.scan.stylesReferences then some content
      else forecast.known? passed id := by
  rw [known?, known?, tagged, Bool.true_and, List.lookup_cons]
  by_cases same : id = binding
  · subst same
    by_cases asked : id ∈ forecast.scan.stylesReferences
    · simp [asked, answered, Except.toOption]
    · simp [asked]
  · simp [beq_eq_false_iff_ne.mpr same, same]

/-- What an import leaves behind the stylesheets that were passed. -/
inductive Leaves (forecast : Forecast) (passed : List (Ident × Path)) (declaration : Import)
    (attributes : Node) : List Node → Prop
  | itself (other : forecast.plan.sheet? declaration = none) :
      Leaves forecast passed declaration attributes [.importDecl declaration attributes]
  | inlined {binding : Ident} {path : Path} {content : String}
      (found : forecast.plan.sheet? declaration = some (binding, path))
      (answered : forecast.answer path = .ok content) :
      Leaves forecast passed declaration attributes
        ((if forecast.isLed passed then [] else [forecast.lead]) ++
          forecast.inlined binding content)

/-- A rewriting has passed some stylesheets without a failure. -/
structure Standing (forecast : Forecast) (fetch : Fetch σ) (passed : List (Ident × Path))
    (name : Option String) (run : Run σ) : Prop where
  active : run.failure = none
  called : run.progress.className = name
  tag : run.progress.tag = forecast.tagBehind passed
  imports : run.progress.scan.styleImports = forecast.scan.styleImports
  styles : run.progress.scan.stylesReferences = forecast.scan.stylesReferences
  others : run.progress.scan.otherReferences = forecast.scan.otherReferences
  names : run.progress.tag = none → run.progress.scan = forecast.scan
  texts : ∀ id, (run.progress.binding? id).map StyleBinding.content = forecast.known? passed id
  answers : fetch.answers forecast.plan.filename run.world = forecast.answer
  had : ∀ sheet ∈ passed, ∃ content, forecast.answer sheet.2 = .ok content

namespace Standing

variable {forecast : Forecast} {fetch : Fetch σ} {passed : List (Ident × Path)}
  {name : Option String} {run : Run σ}

theorem report (standing : forecast.Standing fetch passed name run) (events : List Event) :
    forecast.Standing fetch passed name { run with events } :=
  ⟨standing.active, standing.called, standing.tag, standing.imports, standing.styles,
    standing.others, standing.names, standing.texts, standing.answers, standing.had⟩

theorem rename (standing : forecast.Standing fetch passed name run) (other : Option String) :
    forecast.Standing fetch passed other (run.called other) :=
  ⟨standing.active, rfl, standing.tag, standing.imports, standing.styles,
    standing.others, standing.names, standing.texts, standing.answers, standing.had⟩

/-- The name that the tag has or is going to get. -/
theorem tagIdent (standing : forecast.Standing fetch passed name run) {tag : Tag}
    (tagged : forecast.plan.config.tag = some tag) :
    run.progress.tagIdent tag = forecast.tagIdent tag := by
  rw [Progress.tagIdent]
  cases known : run.progress.tag with
  | none => rw [standing.names known, Option.getD_none, Forecast.tagIdent]
  | some other =>
      rw [standing.tag] at known
      simp only [tagBehind, tagged] at known
      split at known
      · cases known
      · cases known
        rfl

/-- Other answers of an unfailing fetch are no different. -/
theorem move (standing : forecast.Standing fetch passed name run)
    (steady : fetch.IsSteady forecast.plan.filename) {path : Path} {content : String}
    (answered : fetch.answers forecast.plan.filename run.world path = .ok content)
    (events : List Event) :
    forecast.Standing fetch passed name
      { run with events, world := (fetch path forecast.plan.filename run.world).2 } :=
  ⟨standing.active, standing.called, standing.tag, standing.imports, standing.styles,
    standing.others, standing.names, standing.texts,
    (steady run.world path content answered).trans standing.answers, standing.had⟩

/-- Without a tag a stylesheet is passed and nothing is remembered of it. -/
theorem inline_string (standing : forecast.Standing fetch passed name run)
    (tagged : forecast.plan.config.tag = none) (binding : Ident) (path : Path) {content : String}
    (answered : forecast.answer path = .ok content) :
    forecast.Standing fetch ((binding, path) :: passed) name
        (Rewrite.inline forecast.plan binding path content run).2 ∧
      (Rewrite.inline forecast.plan binding path content run).1 =
        (if forecast.isLed passed then [] else [forecast.lead]) ++
          forecast.inlined binding content := by
  obtain ⟨events, same⟩ := Rewrite.inline_string tagged binding path content run
  rw [same]
  refine ⟨⟨standing.active, standing.called, ?_, standing.imports, standing.styles,
    standing.others, standing.names, fun id => ?_, standing.answers,
    List.forall_mem_cons.mpr ⟨⟨content, answered⟩, standing.had⟩⟩, ?_⟩
  · have before := standing.tag
    rw [tagBehind, tagged] at before ⊢
    exact before
  · have before := standing.texts id
    rw [known?, tagged] at before ⊢
    exact before
  · rw [isLed, inlined, tagged]
    rfl

/-- With a tag its name is known from the first stylesheet on, and a text that styles ask for is
remembered. -/
theorem inline_template (standing : forecast.Standing fetch passed name run) {tag : Tag}
    (tagged : forecast.plan.config.tag = some tag) (binding : Ident) (path : Path)
    {content : String} (answered : forecast.answer path = .ok content) :
    forecast.Standing fetch ((binding, path) :: passed) name
        (Rewrite.inline forecast.plan binding path content run).2 ∧
      (Rewrite.inline forecast.plan binding path content run).1 =
        (if forecast.isLed passed then [] else [forecast.lead]) ++
          forecast.inlined binding content := by
  obtain ⟨events, same⟩ := Rewrite.inline_template tagged binding path content run
  rw [same]
  refine ⟨⟨standing.active, ?_, ?_, ?_, ?_, ?_, ?_, fun id => ?_, standing.answers,
    List.forall_mem_cons.mpr ⟨⟨content, answered⟩, standing.had⟩⟩, ?_⟩
  · simpa using standing.called
  · simp [standing.tagIdent tagged, tagBehind, tagged]
  · simpa using standing.imports
  · simpa using standing.styles
  · simpa using standing.others
  · intro unnamed
    simp at unnamed
  · rw [Progress.binding?_knowing, Progress.named_stylesReferences, standing.styles,
      Progress.named_binding?, known?_cons (by rw [tagged]; rfl) answered, apply_ite (Option.map _),
      standing.texts, Option.map_some]
  · have front : run.progress.lead tag =
        if forecast.isLed passed then [] else [forecast.lead] := by
      rw [Progress.lead, standing.tag, standing.tagIdent tagged, isLed, Forecast.lead]
      simp only [tagBehind, tagged]
      cases passed <;> rfl
    have only : run.progress.scan.isStylesOnly binding = forecast.scan.isStylesOnly binding := by
      rw [Scan.isStylesOnly, Scan.isStylesOnly, standing.styles, standing.others]
    simp only [front, only, inlined, tagged, Progress.named_isStylesOnly,
      standing.tagIdent tagged]

/-- An import that makes room for its stylesheet has passed one more. -/
theorem inline (standing : forecast.Standing fetch passed name run) (binding : Ident) (path : Path)
    {content : String} (answered : forecast.answer path = .ok content) :
    forecast.Standing fetch ((binding, path) :: passed) name
        (Rewrite.inline forecast.plan binding path content run).2 ∧
      (Rewrite.inline forecast.plan binding path content run).1 =
        (if forecast.isLed passed then [] else [forecast.lead]) ++
          forecast.inlined binding content := by
  cases tagged : forecast.plan.config.tag with
  | none => exact standing.inline_string tagged binding path answered
  | some tag => exact standing.inline_template tagged binding path answered

/-- An import that is not refused stays, or it makes room for its stylesheet. -/
theorem passImport (standing : forecast.Standing fetch passed name run)
    (steady : fetch.IsSteady forecast.plan.filename) {declaration : Import}
    (passes : forecast.refuses declaration = false) (attributes : Node) :
    let result := rewriteImport forecast.plan fetch declaration attributes run
    forecast.Standing fetch ((forecast.plan.sheet? declaration).toList ++ passed) name result.2 ∧
      forecast.Leaves passed declaration attributes result.1 := by
  rcases @rewriteImport_cases σ forecast.plan fetch declaration attributes run with
    ⟨error, events, world, refused, same⟩ | ⟨events, _, other, same⟩ |
    ⟨binding, path, content, events, _, found, answered, same⟩
  · rw [standing.answers] at refused
    rw [refuses, refused] at passes
    cases passes
  · simp only [same, other]
    exact ⟨standing.report events, .itself other⟩
  · have moved := standing.move steady answered events
    rw [standing.answers] at answered
    obtain ⟨stands, items⟩ := moved.inline binding path answered
    simp only [same, found, items]
    exact ⟨stands, .inlined found answered⟩

/-- The only failure of a substitution is a stylesheet that is asked for too early. -/
theorem fault (standing : forecast.Standing fetch passed name run) (className : String)
    (id : Ident) :
    Substitution.fault ⟨run.progress, className⟩ id =
      if forecast.isUnknown passed id then some (.stylesBeforeImport className id.name)
      else none := by
  have text := standing.texts id
  simp only [Substitution.fault, Substitution.outcome, standing.imports]
  cases known : run.progress.binding? id with
  | none =>
      rw [known, Option.map_none] at text
      have bad : forecast.isUnknown passed id = forecast.scan.styleImports.contains id := by
        rw [isUnknown, ← text, Option.isNone_none, Bool.and_true]
      rw [bad]
      cases forecast.scan.styleImports.contains id <;> rfl
  | some binding =>
      rw [known, Option.map_some] at text
      have good : forecast.isUnknown passed id = false := by
        rw [isUnknown, ← text, Option.isNone_some, Bool.and_false]
      obtain ⟨⟨tag, _, named⟩, _⟩ := of_known? text.symm
      rw [← standing.tag] at named
      simp only [good, named]
      rfl

/-- Behind the passed stylesheets a binding that styles ask for is unknown if it is asked for too
early. -/
theorem isUnknown_eq (standing : forecast.Standing fetch passed name run)
    (tagged : forecast.plan.config.tag.isSome = true) {id : Ident}
    (asked : id ∈ forecast.scan.stylesReferences) :
    forecast.isUnknown passed id = forecast.isEarly passed id := by
  rw [isUnknown, isEarly, known?, tagged, Bool.true_and, if_pos (List.contains_iff_mem.mpr asked)]
  cases found : passed.lookup id with
  | none => rfl
  | some path =>
      obtain ⟨before, after, same, _⟩ := List.lookup_eq_some_iff.mp found
      obtain ⟨content, answered⟩ := standing.had (id, path) (by simp [same])
      simp [answered, Except.toOption]

/-- What a class cannot have is asked for in the result where it was asked for before, less the
attributes of imports that made room. -/
theorem traces (standing : forecast.Standing fetch passed name run) (fresh : forecast.IsFresh)
    {tag : Tag} (tagged : forecast.plan.config.tag = some tag) :
    (forecast.rules passed).Traces forecast.plan.config.baseClass forecast.isSheet
      (Sight.readsAmong (forecast.isUnknown passed))
      (Sight.readsAmong (forecast.isUnknown passed)) := by
  have known : forecast.isUnknown passed (forecast.tagIdent tag) = false := by
    rw [isUnknown, Bool.and_eq_false_iff]
    left
    simpa using (fresh tag).1
  have here (spot : Spot) : Sight.readsAmong (forecast.isUnknown passed)
      (.name spot .use (forecast.tagIdent tag)) = [] := by
    simp [Sight.readsAmong, Sight.read?, Role.reads, known]
  refine ⟨?_, fun _ _ _ _ _ => rfl, ?_, fun _ _ _ => rfl, fun _ _ _ => rfl,
    fun _ _ _ kept => ⟨kept, rfl⟩, ?_, fun _ _ _ => ⟨rfl, rfl⟩⟩
  · funext parent
    simp [rules, isMatching, tagged]
  · rintro spot spot' role id name content - read ⟨⟨other, same, rfl⟩, asked, path, member, _⟩
    cases tagged.symm.trans same
    rw [here]
    have early : forecast.isEarly passed id = false := by
      rw [isEarly, Bool.and_eq_false_iff]
      right
      simpa using ⟨path, member⟩
    have isKnown := standing.isUnknown_eq (by rw [tagged]; rfl) asked
    simp [Sight.readsAmong, Sight.read?, read, isKnown, early]
  · rintro spot spot' declaration items ⟨binding, path, content, found, _, rfl⟩
    refine ⟨by rw [isSheet, found]; rfl, ?_⟩
    have nothing : Sight.readsAmong (forecast.isUnknown passed)
        (.imported spot declaration true) = [] := rfl
    rw [inlined, tagged, nothing]
    dsimp only
    split
    · rfl
    · have bound : Sight.readsAmong (forecast.isUnknown passed) (.name spot' .bind binding) = [] :=
        rfl
      rw [Rules.sightsOfItems_constant, List.flatMap_cons, bound, List.flatMap_singleton, here]
      rfl

/-- What a class cannot have is what its styles ask for too early. -/
theorem find?_isUnknown (standing : forecast.Standing fetch passed name run)
    (fresh : forecast.IsFresh) {tag : Tag} (tagged : forecast.plan.config.tag = some tag)
    {members middle : List Node} (put : Bool)
    (asked : ∀ id ∈ forecast.uses members, id ∈ forecast.scan.stylesReferences)
    (allowed : (forecast.rules passed).AllowsAll false false
      (announceAll forecast.isSheet forecast.lead members put).1 middle) :
    (readsOf (sightsOfAll forecast.plan.config.baseClass {} false (stylesCores middle))).find?
        (forecast.isUnknown passed) =
      (forecast.uses members).find? (forecast.isEarly passed) := by
  let isBad := forecast.isUnknown passed
  have lead : forecast.lead =
      .importDecl (Emit.tagDeclaration (forecast.tagIdent tag) tag) .absent := by
    rw [Forecast.lead, tagged]
    rfl
  have announced :
      Rules.left forecast.isSheet (Sight.readsAmong isBad)
          (sightsOfAll forecast.plan.config.baseClass {} false
            (stylesCores (announceAll forecast.isSheet forecast.lead members put).1)) =
        Rules.left forecast.isSheet (Sight.readsAmong isBad)
          (sightsOfAll forecast.plan.config.baseClass {} false (stylesCores members)) := by
    rw [lead]
    exact announced_stylesCores _ _ _ (fun _ => by split <;> rfl) (fun _ _ _ => by split <;> rfl)
      members put
  rw [← List.head?_filter, readsOf_filter,
    (standing.traces fresh tagged).all {} (by simp) rfl allowed.stylesCores, announced,
    ← uses_filter]
  have same : (forecast.uses members).filter isBad =
      (forecast.uses members).filter (forecast.isEarly passed) :=
    List.filter_congr fun id member =>
      standing.isUnknown_eq (by rw [tagged]; rfl) (asked id member)
  rw [same, List.head?_filter]

/-- What a substitution does with results is allowed by the rules for the passed stylesheets. -/
theorem absorbs (standing : forecast.Standing fetch passed name run) (fresh : forecast.IsFresh)
    {tag : Tag} (tagged : forecast.plan.config.tag = some tag) (className base : String) :
    (forecast.rules passed).Absorbs
      (Substitution.rules ⟨run.progress, className⟩ base true) := by
  have fixed : (Substitution.rules ⟨run.progress, className⟩ base true).Fixes
      (forecast.tagIdent tag) := by
    intro choice read
    cases choice with
    | none => rfl
    | some template =>
        obtain ⟨_, binding, bound, _⟩ := read
        have text := standing.texts (forecast.tagIdent tag)
        rw [bound, Option.map_some] at text
        exact absurd (of_known? text.symm).2.1 (fresh tag).2
  refine ⟨?_, fun _ _ impossible => impossible, ?_, ?_⟩
  · intro id choice read
    cases choice with
    | none =>
        have other := Substitution.outcome_keep (read rfl)
        rwa [standing.imports] at other
    | some template =>
        obtain ⟨other, content⟩ := template
        obtain ⟨named, binding, bound, rfl⟩ := read
        have text := standing.texts id
        rw [bound, Option.map_some] at text
        obtain ⟨⟨tag, also, behind⟩, asked, path, member, answered⟩ := of_known? text.symm
        refine ⟨⟨tag, also, ?_⟩, asked, path, member, answered⟩
        rw [← standing.tag] at behind
        exact Option.some.inj (named.symm.trans behind)
  · rintro id name content ⟨⟨other, also, rfl⟩, _⟩
    cases tagged.symm.trans also
    exact fixed
  · rintro declaration items ⟨binding, path, content, _, _, rfl⟩ results allowed
    rw [inlined, tagged] at allowed ⊢
    dsimp only at allowed ⊢
    split at allowed
    next only =>
      rw [if_pos only]
      exact allowed
    next kept =>
      rw [if_neg kept]
      rw [Rules.allowsItems_cons (Emit.constant_plain _ _)] at allowed
      obtain ⟨first, _, here, rfl, rfl⟩ := allowed
      rw [fixed.constant content binding here]

/-- The styles of a class are filled in, unless they ask for a stylesheet too early. -/
theorem fill {className : String} (standing : forecast.Standing fetch passed (some className) run)
    (fresh : forecast.IsFresh) {tag : Tag} (tagged : forecast.plan.config.tag = some tag)
    {members middle : List Node} (put : Bool)
    (asked : ∀ id ∈ forecast.uses members, id ∈ forecast.scan.stylesReferences)
    (allowed : (forecast.rules passed).AllowsAll false false
      (announceAll forecast.isSheet forecast.lead members put).1 middle) :
    match (forecast.uses members).find? (forecast.isEarly passed) with
    | some id =>
      (fillStyles middle run).2.failure = some (.stylesBeforeImport className id.name) ∧
        fetch.answers forecast.plan.filename (fillStyles middle run).2.world = forecast.answer
    | none =>
      forecast.Standing fetch passed (some className) (fillStyles middle run).2 ∧
        (forecast.rules passed).AllowsAll false true
          (announceAll forecast.isSheet forecast.lead members put).1
          (fillStyles middle run).1 := by
  obtain ⟨events, same⟩ := fillStyles_eq middle standing.active standing.called
  have failure :
      (Substitution.substituteMembers ⟨run.progress, className⟩ middle {}).2.failure =
        ((forecast.uses members).find? (forecast.isEarly passed)).map
          fun id => .stylesBeforeImport className id.name := by
    rw [Substitution.substituteMembers_failure _ forecast.plan.config.baseClass,
      ← standing.find?_isUnknown fresh tagged put asked allowed,
      ← Substitution.findSome?_guarded, Option.none_or]
    congr 1
    funext id
    exact standing.fault className id
  rw [same]
  cases early : (forecast.uses members).find? (forecast.isEarly passed) with
  | some id =>
      rw [early, Option.map_some] at failure
      exact ⟨failure, standing.answers⟩
  | none =>
      rw [early, Option.map_none] at failure
      refine ⟨⟨failure, standing.called, standing.tag, standing.imports, standing.styles,
        standing.others, standing.names, standing.texts, standing.answers, standing.had⟩, ?_⟩
      exact (standing.absorbs fresh tagged className "").fill allowed
        (Substitution.fills_substituteMembers middle {} fun _ => failure)

end Standing

end Forecast

end StyleInline
