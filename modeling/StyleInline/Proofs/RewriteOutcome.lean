import StyleInline.Proofs.RewriteInvariant

/-!
# The outcome of a rewriting

The rewriting of a module comes as far as its forecast tells, and what was rewritten without a
failure is allowed by the rules for the stylesheets that were passed.
-/

namespace StyleInline

open Script Rewrite

namespace Forecast

variable {σ : Type}

/-- The rewriting ends as a verdict tells; if nothing fails, something holds behind the stylesheets
that were passed. -/
def Ends (forecast : Forecast) (fetch : Fetch σ) (name : Option String)
    (yields : List (Ident × Path) → Prop) (run : Run σ) : Verdict → Prop
  | .clear passed => forecast.Standing fetch passed name run ∧ yields passed
  | .refused => ∃ error, run.failure = some error ∧ error.isContractViolation = false
  | .unmet className id hosts =>
    if hosts.any forecast.refuses then
      ∃ error, run.failure = some error ∧ error.isContractViolation = false
    else
      run.failure = some (.stylesBeforeImport className id.name) ∧
        fetch.answers forecast.plan.filename run.world = forecast.answer

namespace Ends

variable {forecast : Forecast} {fetch : Fetch σ} {name : Option String}
  {yields yields' : List (Ident × Path) → Prop} {run run' : Run σ}

theorem mono {verdict : Verdict} (ends : forecast.Ends fetch name yields run verdict)
    (weaker : ∀ passed, yields passed → yields' passed) :
    forecast.Ends fetch name yields' run verdict := by
  cases verdict with
  | clear passed => exact ⟨ends.1, weaker passed ends.2⟩
  | refused => exact ends
  | unmet className id hosts => exact ends

/-- Behind a failure neither the failure nor the answers change any more. -/
theorem next {verdict : Verdict} {rest : List (Ident × Path) → Verdict} {name' : Option String}
    (ends : forecast.Ends fetch name yields run verdict)
    (later : ∀ passed, forecast.Standing fetch passed name run → yields passed →
      forecast.Ends fetch name' yields' run' (rest passed))
    (frozen : run.failure.isSome = true → run'.failure = run.failure ∧ run'.world = run.world) :
    forecast.Ends fetch name' yields' run' (verdict.next rest) := by
  cases verdict with
  | clear passed => exact later passed ends.1 ends.2
  | refused =>
      obtain ⟨error, failed, blameless⟩ := ends
      exact ⟨error, by rw [(frozen (by rw [failed]; rfl)).1, failed], blameless⟩
  | unmet className id hosts =>
      simp only [Ends, Verdict.next] at ends ⊢
      split at ends
      next hosted =>
        obtain ⟨error, failed, blameless⟩ := ends
        rw [if_pos hosted]
        exact ⟨error, by rw [(frozen (by rw [failed]; rfl)).1, failed], blameless⟩
      next unhosted =>
        obtain ⟨failed, answers⟩ := ends
        obtain ⟨failure, world⟩ := frozen (by rw [failed]; rfl)
        rw [if_neg unhosted]
        exact ⟨by rw [failure, failed], by rw [world, answers]⟩

theorem append {first second : List Sight} {passed : List (Ident × Path)}
    {yields' : List (Ident × Path) → List (Ident × Path) → Prop}
    (ends : forecast.Ends fetch name yields run (forecast.judgeAll first passed))
    (later : ∀ passed, forecast.Standing fetch passed name run →
      forecast.Ends fetch name (yields' passed) run' (forecast.judgeAll second passed))
    (frozen : run.failure.isSome = true → run' = run) :
    forecast.Ends fetch name (fun later => ∃ middle, yields middle ∧ yields' middle later) run'
      (forecast.judgeAll (first ++ second) passed) := by
  rw [judgeAll_append]
  refine ends.next (fun middle standing yielded =>
    (later middle standing).mono fun _ also => ⟨middle, yielded, also⟩) fun failed => ?_
  rw [frozen failed]
  exact ⟨rfl, rfl⟩

end Ends

/-- What holds behind the stylesheets passed in a part of a module. -/
structure Gains {α : Type} (forecast : Forecast) (passed : List (Ident × Path))
    (allows : Rules → α → α → Prop) (announced : α × Bool) (result : α)
    (later : List (Ident × Path)) : Prop where
  more : passed ⊆ later
  allowed : allows (forecast.rules later) announced.1 result
  led : announced.2 = forecast.isLed later

/-- All that styles ask for among some sights has been scanned. -/
def Covers (forecast : Forecast) (seen : List Sight) : Prop :=
  ∀ sight ∈ seen, ∀ id, sight.ReadsInStyles id → id ∈ forecast.scan.stylesReferences

theorem covers_append {forecast : Forecast} {first second : List Sight} :
    forecast.Covers (first ++ second) ↔ forecast.Covers first ∧ forecast.Covers second := by
  simp only [Covers, List.mem_append, or_imp, forall_and]

/-- It does not matter which imports hold what styles ask for. -/
theorem covers_inside {forecast : Forecast} {base : String} {place : Place} {declaration : Import}
    {isStyles : Bool} {node : Node} :
    forecast.Covers (sights base (({ place } : Spot).inside declaration) isStyles node) ↔
      forecast.Covers (sights base { place } isStyles node) := by
  rw [Spot.inside_start, sights_join]
  simp [Covers, Sight.ReadsInStyles, Spot.join]

theorem Covers.parts {forecast : Forecast} {base : String} {spot : Spot} {isStyles : Bool}
    {head : ClassHead} {decorators members rest : List Node} {parent : Node}
    (covers : forecast.Covers
      (sights base spot isStyles (.classNode head decorators members parent rest))) :
    forecast.Covers (sightsOfAll base spot false decorators) ∧
      forecast.Covers (sightsOfAll base spot (extendsBase base parent) members) ∧
      forecast.Covers (sights base spot false parent) ∧
      forecast.Covers (sightsOfAll base spot false rest) := by
  obtain ⟨first, _⟩ := covers_append.mp covers
  obtain ⟨first, ofRest⟩ := covers_append.mp first
  obtain ⟨first, ofParent⟩ := covers_append.mp first
  obtain ⟨ofDecorators, ofMembers⟩ := covers_append.mp first
  exact ⟨ofDecorators, ofMembers, ofParent, ofRest⟩

/-- A class whose styles are left alone is no obstacle. -/
theorem judgeAll_unstyled {forecast : Forecast} {parent : Node}
    (other : isMatching forecast.plan parent = false) (spot : Spot) (head : ClassHead)
    (members : List Node) :
    forecast.judgeAll (if extendsBase forecast.plan.config.baseClass parent then
      [.styled spot head members] else []) = .clear := by
  rw [isMatching, Bool.and_eq_false_iff] at other
  cases extending : extendsBase forecast.plan.config.baseClass parent with
  | false => rfl
  | true =>
      rcases other with untagged | other
      · funext passed
        rw [if_pos rfl, judgeAll_singleton, judge, if_pos]
        simpa using untagged
      · cases extending.symm.trans other

theorem judgeAll_inside (forecast : Forecast) (base : String) (place : Place)
    (declaration : Import) (isStyles : Bool) (node : Node) (passed : List (Ident × Path)) :
    forecast.judgeAll (sights base (({ place } : Spot).inside declaration) isStyles node) passed =
      (forecast.judgeAll (sights base { place } isStyles node) passed).seenFrom
        { hosts := [declaration] } := by
  rw [Spot.inside_start, sights_join, judgeAll_seenFrom]

/-- The styles of a class ask for what has been scanned. -/
theorem uses_covered (forecast : Forecast) {place : Place} {members : List Node}
    (covers : forecast.Covers
      (sightsOfAll forecast.plan.config.baseClass { place } true members)) :
    ∀ id ∈ forecast.uses members, id ∈ forecast.scan.stylesReferences := by
  intro id member
  obtain ⟨sight, inside, read⟩ := List.mem_filterMap.mp member
  have seen := sights_stylesCores forecast.plan.config.baseClass { place }
    (List.mem_filter.mp inside).1
  refine covers _ seen id ⟨by rw [Sight.read?_seenFrom, read], ?_⟩
  simp [Spot.join, Spot.within]

/-- A forecast is made with the right answers, and its tags are fresh. -/
structure Fits (forecast : Forecast) (fetch : Fetch σ) : Prop where
  steady : fetch.IsSteady forecast.plan.filename
  proper : fetch.IsProper forecast.plan.filename
  fresh : forecast.IsFresh

/-- No import is refused for the order of items. -/
theorem Fits.refusal_proper {forecast : Forecast} {fetch : Fetch σ} (fits : forecast.Fits fetch)
    (world : σ) (declaration : Import) (error : InlineError)
    (refused : forecast.plan.refusal? (fetch.answers forecast.plan.filename world) declaration =
      some error) : error.isContractViolation = false := by
  obtain ⟨specifier, origin, rfl⟩ | ⟨path, answered⟩ := Plan.of_refusal? refused
  · rfl
  · exact fits.proper world path error answered

namespace Gains

variable {forecast : Forecast} {passed later : List (Ident × Path)}

/-- What is allowed behind some stylesheets is allowed behind more of them. -/
theorem node {announced : Node × Bool} {result : Node}
    {last : List (Ident × Path)}
    (gains : forecast.Gains passed (fun rules => rules.Allows false false) announced result later)
    (more : later ⊆ last) : (forecast.rules last).Allows false false announced.1 result :=
  (forecast.rules_within more).allows false false gains.allowed

theorem all {announced : List Node × Bool} {results : List Node} {last : List (Ident × Path)}
    (gains : forecast.Gains passed (fun rules => rules.AllowsAll false false) announced results
      later) (more : later ⊆ last) :
    (forecast.rules last).AllowsAll false false announced.1 results :=
  (forecast.rules_within more).allowsAll false false gains.allowed

theorem fills_announce (forecast : Forecast) (passed : List (Ident × Path)) (asks : Import → Bool)
    (lead parent : Node) (put : Bool) :
    (forecast.rules passed).fills (announce asks lead parent put).1 =
      isMatching forecast.plan parent := by
  simp only [rules, isMatching, extendsBase_announce]

section Parts

variable {first second third last : List (Ident × Path)}

/-- A class gains what its parts gain, with its styles filled in or not. -/
theorem classNode {head : ClassHead} {decorators members rest : List Node} {parent : Node}
    {one two filled four : List Node} {three : Node}
    (a : forecast.Gains passed (fun rules => rules.AllowsAll false false)
      (announceAll forecast.isSheet forecast.lead decorators (forecast.isLed passed)) one first)
    (b : forecast.Gains first (fun rules => rules.AllowsAll false false)
      (announceAll forecast.isSheet forecast.lead members (forecast.isLed first)) two second)
    (c : forecast.Gains second (fun rules => rules.Allows false false)
      (announce forecast.isSheet forecast.lead parent (forecast.isLed second)) three third)
    (d : forecast.Gains third (fun rules => rules.AllowsAll false false)
      (announceAll forecast.isSheet forecast.lead rest (forecast.isLed third)) four last)
    (styles : (forecast.rules last).AllowsAll false (isMatching forecast.plan parent)
      (announceAll forecast.isSheet forecast.lead members (forecast.isLed first)).1 filled) :
    forecast.Gains passed (fun rules => rules.Allows false false)
      (announce forecast.isSheet forecast.lead (.classNode head decorators members parent rest)
        (forecast.isLed passed))
      (.classNode head one filled three four) last := by
  have behindMembers := List.Subset.trans c.more d.more
  have behindDecorators := List.Subset.trans b.more behindMembers
  rw [announce_classNode]
  simp only [a.led, b.led, c.led]
  refine ⟨List.Subset.trans a.more behindDecorators, ⟨_, _, _, _, a.all behindDecorators, ?_,
    c.node d.more, d.allowed, rfl⟩, d.led⟩
  rw [fills_announce]
  exact styles

/-- A class member gains what its parts gain. -/
theorem member {head : MemberHead} {key core : Node} {front back : List Node}
    {one three : Node} {two four : List Node}
    (a : forecast.Gains passed (fun rules => rules.Allows false false)
      (announce forecast.isSheet forecast.lead key (forecast.isLed passed)) one first)
    (b : forecast.Gains first (fun rules => rules.AllowsAll false false)
      (announceAll forecast.isSheet forecast.lead front (forecast.isLed first)) two second)
    (c : forecast.Gains second (fun rules => rules.Allows false false)
      (announce forecast.isSheet forecast.lead core (forecast.isLed second)) three third)
    (d : forecast.Gains third (fun rules => rules.AllowsAll false false)
      (announceAll forecast.isSheet forecast.lead back (forecast.isLed third)) four last) :
    forecast.Gains passed (fun rules => rules.Allows false false)
      (announce forecast.isSheet forecast.lead (.member head key front core back)
        (forecast.isLed passed))
      (.member head one two three four) last := by
  have behindFront := List.Subset.trans c.more d.more
  have behindKey := List.Subset.trans b.more behindFront
  rw [announce_member]
  simp only [a.led, b.led, c.led]
  exact ⟨List.Subset.trans a.more behindKey, ⟨_, _, _, _, a.node behindKey, b.all behindFront,
    c.node d.more, d.allowed, rfl⟩, d.led⟩

end Parts

end Gains

section Course

variable {forecast : Forecast} {fetch : Fetch σ}

/-- An import ends what its attributes have left to end. -/
theorem ends_import (fits : forecast.Fits fetch) {name : Option String} {place : Place}
    {passed : List (Ident × Path)} {yields : List (Ident × Path) → Prop} {run : Run σ}
    {attributes : Node}
    (ends : forecast.Ends fetch name yields run
      (forecast.judgeAll (sights forecast.plan.config.baseClass { place } false attributes) passed))
    (declaration : Import) (attributes' : Node) :
    let result := rewriteImport forecast.plan fetch declaration attributes' run
    forecast.Ends fetch name
      (fun later => ∃ middle, yields middle ∧
        later = (forecast.plan.sheet? declaration).toList ++ middle ∧
        forecast.Leaves middle declaration attributes' result.1)
      result.2
      (forecast.judgeAll
        (sights forecast.plan.config.baseClass (({ place } : Spot).inside declaration) false
            attributes ++ [.imported { place } declaration true]) passed) := by
  intro result
  have failure := @rewriteImport_failure σ forecast.plan fetch declaration attributes' run
  have proper := fits.refusal_proper run.world declaration
  have stays (error : InlineError) (failed : run.failure = some error)
      (blameless : error.isContractViolation = false) :
      ∃ error, result.2.failure = some error ∧ error.isContractViolation = false := by
    rw [failed] at failure
    cases refused : forecast.plan.refusal?
        (fetch.answers forecast.plan.filename run.world) declaration with
    | none => exact ⟨error, by rw [failure, refused]; rfl, blameless⟩
    | some other => exact ⟨other, by rw [failure, refused]; rfl, proper other refused⟩
  rw [judgeAll_append, judgeAll_inside]
  cases verdict : forecast.judgeAll (sights forecast.plan.config.baseClass { place } false
      attributes) passed with
  | clear middle =>
      rw [verdict] at ends
      obtain ⟨standing, yielded⟩ := ends
      simp only [Verdict.seenFrom, Verdict.next, judgeAll_singleton, judge]
      cases refused : forecast.refuses declaration with
      | false =>
          obtain ⟨stands, items⟩ := standing.passImport fits.steady refused attributes'
          exact ⟨stands, middle, yielded, rfl, items⟩
      | true =>
          rw [if_pos rfl]
          obtain ⟨error, refused⟩ := Option.isSome_iff_exists.mp refused
          rw [← standing.answers] at refused
          exact ⟨error, by rw [failure, refused]; rfl, proper error refused⟩
  | refused =>
      rw [verdict] at ends
      obtain ⟨error, failed, blameless⟩ := ends
      exact stays error failed blameless
  | unmet className id hosts =>
      rw [verdict] at ends
      simp only [Ends, Verdict.seenFrom, Verdict.next, List.any_append, List.any_cons,
        List.any_nil, Bool.or_false] at ends ⊢
      cases hosted : hosts.any forecast.refuses with
      | true =>
          rw [hosted, if_pos rfl] at ends
          obtain ⟨error, failed, blameless⟩ := ends
          rw [Bool.true_or, if_pos rfl]
          exact stays error failed blameless
      | false =>
          rw [hosted, if_neg Bool.false_ne_true] at ends
          obtain ⟨failed, answers⟩ := ends
          rw [Bool.false_or]
          rw [answers, failed] at failure
          rw [answers] at proper
          cases refused : forecast.plan.refusal? forecast.answer declaration with
          | some error =>
              rw [if_pos (by rw [refuses, refused]; rfl)]
              exact ⟨error, by rw [failure, refused]; rfl, proper error refused⟩
          | none =>
              rw [if_neg (by simp [refuses, refused])]
              refine ⟨by rw [failure, refused]; rfl, ?_⟩
              rw [rewriteImport_answers fits.steady declaration attributes' run
                (by rw [answers]; exact refused), answers]

/-- Items with the announced item in front, if it is still to be put. -/
theorem allowsItems_lead {passed : List (Ident × Path)} (middle : List (Ident × Path))
    {items results : List Node}
    (allowed : (forecast.rules passed).AllowsItems false items results) :
    (forecast.rules passed).AllowsItems false
      ((if forecast.isLed middle then [] else [forecast.lead]) ++ items)
      ((if forecast.isLed middle then [] else [forecast.lead]) ++ results) := by
  cases led : forecast.isLed middle with
  | true => exact allowed
  | false =>
      rw [if_neg Bool.false_ne_true]
      cases tagged : forecast.plan.config.tag with
      | none =>
          rw [isLed, tagged] at led
          cases led
      | some tag =>
          rw [lead, tagged]
          have kept := forecast.isSheet_tagDeclaration (forecast.tagIdent tag) tag
          exact ⟨_, _, .inr ⟨.absent, kept, ⟨_, rfl, rfl⟩, rfl⟩, allowed, rfl⟩

/-- What an import leaves is allowed, in front of items that are. -/
theorem Leaves.allowed {passed later : List (Ident × Path)} {declaration : Import}
    {attributes attributes' : Node} {items rest results : List Node}
    (leaves : forecast.Leaves passed declaration attributes' items)
    (inner : (forecast.rules later).Allows false false attributes attributes')
    (others : (forecast.rules later).AllowsItems false rest results) :
    (forecast.rules later).AllowsItems false
      ((if forecast.isSheet declaration && !forecast.isLed passed then [forecast.lead] else []) ++
        .importDecl declaration attributes :: rest) (items ++ results) := by
  cases leaves with
  | itself other =>
      have kept : forecast.isSheet declaration = false := by rw [isSheet, other]; rfl
      rw [kept, Bool.false_and, if_neg Bool.false_ne_true]
      exact ⟨_, _, .inr ⟨_, kept, inner, rfl⟩, others, rfl⟩
  | @inlined binding path content found answered =>
      have sheet : forecast.isSheet declaration = true := by rw [isSheet, found]; rfl
      have room : (forecast.rules later).AllowsItems false
          (.importDecl declaration attributes :: rest)
          (forecast.inlined binding content ++ results) :=
        ⟨_, _, .inl ⟨binding, path, content, found, answered, rfl⟩, others, rfl⟩
      have front := allowsItems_lead passed room
      rw [sheet, Bool.true_and, List.append_assoc]
      cases put : forecast.isLed passed <;> rw [put] at front <;> exact front

mutual

/-- The rewriting of a node comes as far as its verdict tells. -/
theorem course (fits : forecast.Fits fetch) (place : Place) (isStyles : Bool) (node : Node)
    {passed : List (Ident × Path)} {name : Option String} {run : Run σ}
    (covers : forecast.Covers
      (sights forecast.plan.config.baseClass { place } isStyles node))
    (standing : forecast.Standing fetch passed name run) :
    forecast.Ends fetch name
      (forecast.Gains passed (fun rules => rules.Allows false false)
        (announce forecast.isSheet forecast.lead node (forecast.isLed passed))
        (rewriteNode forecast.plan fetch node run).1)
      (rewriteNode forecast.plan fetch node run).2
      (forecast.judgeAll (sights forecast.plan.config.baseClass { place } isStyles node)
        passed) := by
  cases node with
  | ident role id => exact ⟨standing, List.Subset.refl _, rfl, rfl⟩
  | importDecl declaration attributes =>
      obtain ⟨inner, _⟩ := covers_append.mp covers
      have ends := course fits place false attributes inner standing
      rw [sights, judgeAll_append, judgeAll_imported, Verdict.next_clear, rewriteNode_importDecl,
        announce_importDecl]
      exact ends.mono fun later gains => ⟨gains.more, ⟨_, gains.allowed, rfl⟩, gains.led⟩
  | exportNames declaration attributes =>
      obtain ⟨inner, _⟩ := covers_append.mp covers
      have ends := course fits place false attributes inner standing
      rw [sights, judgeAll_append, judgeAll_exported, Verdict.next_clear, rewriteNode_exportNames,
        announce_exportNames]
      exact ends.mono fun later gains => ⟨gains.more, ⟨_, gains.allowed, rfl⟩, gains.led⟩
  | classNode head decorators members parent rest =>
      have parts {name : Option String} {run : Run σ}
          (standing : forecast.Standing fetch passed name run) :=
        have ⟨ofDecorators, ofMembers, ofParent, ofRest⟩ := covers.parts
        (((courseAll fits _ false decorators ofDecorators standing).append
          (fun middle standing => courseAll fits _ _ members ofMembers standing)
          fun failed => by rw [rewriteNodes_failed members _ failed]).append
          (fun middle standing => course fits _ false parent ofParent standing)
          fun failed => by rw [rewriteNode_failed parent _ failed]).append
          (fun middle standing => courseAll fits _ false rest ofRest standing)
          fun failed => by rw [rewriteNodes_failed rest _ failed]
      cases matching : isMatching forecast.plan parent with
      | false =>
          rw [sights, judgeAll_append, judgeAll_unstyled matching, Verdict.next_clear,
            rewriteNode_classNode_other run _ _ _ _ _ standing.active matching]
          refine (parts standing).mono fun later yielded => ?_
          obtain ⟨third, ⟨second, ⟨first, a, b⟩, c⟩, d⟩ := yielded
          refine a.classNode b c d ?_
          rw [matching]
          exact b.all (List.Subset.trans c.more d.more)
      | true =>
          obtain ⟨isTagged, extending⟩ := Bool.and_eq_true_iff.mp matching
          obtain ⟨tag, tagged⟩ := Option.isSome_iff_exists.mp isTagged
          obtain ⟨_, ofMembers, _⟩ := covers.parts
          rw [extending] at ofMembers
          rw [sights, judgeAll_append, rewriteNode_classNode_matching run _ _ _ _ _ standing.active
            matching]
          refine (parts (standing.rename (some (classNameOf head)))).next
            (fun later standing' yielded => ?_) fun failed => ?_
          · obtain ⟨third, ⟨second, ⟨first, a, b⟩, c⟩, d⟩ := yielded
            have filled := standing'.fill fits.fresh tagged (forecast.isLed first)
              (forecast.uses_covered ofMembers) (b.all (List.Subset.trans c.more d.more))
            rw [extending, if_pos rfl, judgeAll_singleton, judge, if_neg (by simp [tagged])]
            cases early : (forecast.uses members).find? (forecast.isEarly later) with
            | some id =>
                rw [early] at filled
                exact filled
            | none =>
                rw [early] at filled
                obtain ⟨stands, allowed⟩ := filled
                rw [← matching] at allowed
                exact ⟨standing.called ▸ stands.rename _, a.classNode b c d allowed⟩
          · simp only [fillStyles_failed _ failed]
            exact ⟨rfl, rfl⟩
  | member head key front core back =>
      have spot (part : Place) : (if isStyles then ({ place } : Spot).within part else { place }) =
          { place := if isStyles then place.join part else place } := by
        cases isStyles <;> rfl
      simp only [sights, spot] at covers ⊢
      obtain ⟨first, ofBack⟩ := covers_append.mp covers
      obtain ⟨first, ofCore⟩ := covers_append.mp first
      obtain ⟨ofKey, ofFront⟩ := covers_append.mp first
      have ends := (((course fits _ false key ofKey standing).append
        (fun middle standing => courseAll fits _ false front ofFront standing)
        fun failed => by rw [rewriteNodes_failed front _ failed]).append
        (fun middle standing => course fits _ false core ofCore standing)
        fun failed => by rw [rewriteNode_failed core _ failed]).append
        (fun middle standing => courseAll fits _ false back ofBack standing)
        fun failed => by rw [rewriteNodes_failed back _ failed]
      rw [rewriteNode_member]
      refine ends.mono fun later yielded => ?_
      obtain ⟨third, ⟨second, ⟨first, a, b⟩, c⟩, d⟩ := yielded
      exact a.member b c d
  | items body =>
      have ends := courseItems fits place body covers standing
      rw [sights, rewriteNode_items, announce_items]
      exact ends.mono fun later gains => ⟨gains.more, ⟨_, gains.allowed, rfl⟩, gains.led⟩
  | form shape parts =>
      have ends := courseAll fits place false parts covers standing
      rw [sights, rewriteNode_form, announce_form]
      exact ends.mono fun later gains => ⟨gains.more, ⟨_, gains.allowed, rfl⟩, gains.led⟩
termination_by node.weight
decreasing_by all_goals (subst_vars; simp only [Node.weight]; omega)

theorem courseAll (fits : forecast.Fits fetch) (place : Place) (matching : Bool) (nodes : List Node)
    {passed : List (Ident × Path)} {name : Option String} {run : Run σ}
    (covers : forecast.Covers
      (sightsOfAll forecast.plan.config.baseClass { place } matching nodes))
    (standing : forecast.Standing fetch passed name run) :
    forecast.Ends fetch name
      (forecast.Gains passed (fun rules => rules.AllowsAll false false)
        (announceAll forecast.isSheet forecast.lead nodes (forecast.isLed passed))
        (rewriteNodes forecast.plan fetch nodes run).1)
      (rewriteNodes forecast.plan fetch nodes run).2
      (forecast.judgeAll (sightsOfAll forecast.plan.config.baseClass { place } matching nodes)
        passed) := by
  cases nodes with
  | nil => exact ⟨standing, List.Subset.refl _, rfl, rfl⟩
  | cons node rest =>
      obtain ⟨here, others⟩ := covers_append.mp covers
      have ends := (course fits place (matching && isStylesMember node) node here standing).append
        (fun middle standing => courseAll fits place matching rest others standing)
        fun failed => congrArg Prod.snd (rewriteNodes_failed rest _ failed)
      rw [sightsOfAll, rewriteNodes_cons, announceAll_cons]
      refine ends.mono fun later yielded => ?_
      obtain ⟨middle, first, second⟩ := yielded
      simp only [first.led]
      exact ⟨List.Subset.trans first.more second.more,
        ⟨_, _, first.node second.more, second.allowed, rfl⟩, second.led⟩
termination_by Node.weightOf nodes
decreasing_by all_goals (subst_vars; simp only [Node.weightOf]; omega)

theorem courseItems (fits : forecast.Fits fetch) (place : Place) (items : List Node)
    {passed : List (Ident × Path)} {name : Option String} {run : Run σ}
    (covers : forecast.Covers (sightsOfItems forecast.plan.config.baseClass { place } items))
    (standing : forecast.Standing fetch passed name run) :
    forecast.Ends fetch name
      (forecast.Gains passed (fun rules => rules.AllowsItems false)
        (announceItems forecast.isSheet forecast.lead items (forecast.isLed passed))
        (rewriteItems forecast.plan fetch items run).1)
      (rewriteItems forecast.plan fetch items run).2
      (forecast.judgeAll (sightsOfItems forecast.plan.config.baseClass { place } items)
        passed) := by
  cases items with
  | nil => exact ⟨standing, List.Subset.refl _, rfl, rfl⟩
  | cons item rest =>
      rcases item.isImport_or with ⟨declaration, attributes, rfl⟩ | plain
      · have split : sightsOfItems forecast.plan.config.baseClass { place }
            (.importDecl declaration attributes :: rest) =
            (sights forecast.plan.config.baseClass (({ place } : Spot).inside declaration) false
              attributes ++ [.imported { place } declaration true]) ++
                sightsOfItems forecast.plan.config.baseClass { place } rest := by
          rw [sightsOfItems, List.append_assoc, List.singleton_append]
        rw [split] at covers ⊢
        obtain ⟨here, others⟩ := covers_append.mp covers
        have inner := course fits place false attributes
          (covers_inside.mp (covers_append.mp here).1) standing
        have ends := (ends_import fits inner declaration
            (rewriteNode forecast.plan fetch attributes run).1).append
          (fun middle standing => courseItems fits place rest others standing)
          fun failed => by rw [rewriteItems_failed _ rest failed]
        rw [rewriteItems_importDecl run declaration attributes rest standing.active,
          announceItems_importDecl]
        refine ends.mono fun later yielded => ?_
        obtain ⟨_, ⟨middle, first, rfl, replaced⟩, second⟩ := yielded
        have more : middle ⊆ later := List.Subset.trans (List.subset_append_right _ _) second.more
        have led : forecast.isLed ((forecast.plan.sheet? declaration).toList ++ middle) =
            (forecast.isLed middle || forecast.isSheet declaration) := by
          rw [isLed, isLed, isSheet]
          cases forecast.plan.sheet? declaration <;> simp
        simp only [first.led, ← led]
        exact ⟨List.Subset.trans first.more more, replaced.allowed (first.node more) second.allowed,
          second.led⟩
      · rw [sightsOfItems_cons _ _ rest plain] at covers ⊢
        obtain ⟨here, others⟩ := covers_append.mp covers
        have ends := (course fits place false item here standing).append
          (fun middle standing => courseItems fits place rest others standing)
          fun failed => congrArg Prod.snd (rewriteItems_failed _ rest failed)
        rw [rewriteItems_cons run rest standing.active plain, announceItems_cons _ _ _ rest plain]
        refine ends.mono fun later yielded => ?_
        obtain ⟨middle, first, second⟩ := yielded
        simp only [first.led]
        refine ⟨List.Subset.trans first.more second.more, ?_, second.led⟩
        rw [Rules.allowsItems_cons (announce_plain _ _ _ plain)]
        exact ⟨_, _, first.node second.more, second.allowed, rfl⟩
termination_by Node.weightOf items
decreasing_by all_goals (subst_vars; simp only [Node.weight, Node.weightOf]; omega)

end

end Course

end Forecast

end StyleInline
