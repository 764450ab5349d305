import StyleInline.Proofs.FreshNames
import StyleInline.Proofs.Rewrite
import StyleInline.Proofs.Rules.Views
import StyleInline.Proofs.Substitution

/-!
# The tag in a rewriting

Whatever comes of a rewriting, the only name it puts in is that of the tag, and the tag is imported
where it gets its name.  As long as it has none, nothing is changed at all.
-/

namespace StyleInline

open Script Rewrite

namespace Rules

/-- Rules that only tell which name is put in. -/
def tagged (plan : Plan) (tag : Tag) (name : Ident) : Rules where
  fills := isMatching plan
  keeps _ := True
  replaces declaration items :=
    ∃ binding path content, plan.sheet? declaration = some (binding, path) ∧
      ∃ isLed isOnly : Bool,
        items = (if isLed then [] else [Emit.tagImport name tag]) ++
          if isOnly then [] else [Emit.constant binding (Emit.template name content)]
  reads _ choice := ∀ other content, choice = some (other, content) → other = name

theorem tagged_isReflexive (plan : Plan) (tag : Tag) (name : Ident) :
    (tagged plan tag name).IsReflexive :=
  ⟨fun _ => trivial, fun _ => nofun⟩

theorem IsReflexive.fills {rules : Rules} (reflexive : rules.IsReflexive) (members : List Node) :
    rules.Fills members members := by
  induction members with
  | nil => rfl
  | cons node rest ih =>
      rcases isMember_or node with ⟨head, key, front, core, back, rfl⟩ | other
      · refine ⟨core, rest, ?_, ih, rfl⟩
        split
        · exact reflexive.allows true false core
        · rfl
      · rw [fills_cons other]
        exact ⟨rest, ih, rfl⟩

theorem IsDeterministic.fills {rules : Rules} (deterministic : rules.IsDeterministic)
    {members first second : List Node} (left : rules.Fills members first)
    (right : rules.Fills members second) : first = second := by
  induction members generalizing first second with
  | nil => exact left.trans right.symm
  | cons node rest ih =>
      rcases isMember_or node with ⟨head, key, front, core, back, rfl⟩ | other
      · obtain ⟨_, _, a, b, rfl⟩ := left
        obtain ⟨_, _, c, d, rfl⟩ := right
        rw [ih b d]
        split at a
        next styles =>
          rw [if_pos styles] at c
          rw [deterministic.allows a c]
        next unstyled =>
          rw [if_neg unstyled] at c
          rw [a, c]
      · rw [fills_cons other] at left right
        obtain ⟨_, b, rfl⟩ := left
        obtain ⟨_, d, rfl⟩ := right
        rw [ih b d]

/-- Rules that fix the name of a tag let the items in the place of a stylesheet stay. -/
theorem Fixes.items {rules : Rules} {tag : Tag} {name : Ident} (fixed : rules.Fixes name)
    (keeping : ∀ declaration items, ¬ rules.replaces declaration items) (isLed isOnly : Bool)
    (binding : Ident) (content : String) {results : List Node}
    (allowed : rules.AllowsItems true
      ((if isLed then [] else [Emit.tagImport name tag]) ++
        if isOnly then [] else [Emit.constant binding (Emit.template name content)]) results) :
    results = (if isLed then [] else [Emit.tagImport name tag]) ++
      if isOnly then [] else [Emit.constant binding (Emit.template name content)] := by
  obtain ⟨front, back, leads, constants, rfl⟩ := allowsItems_append.mp allowed
  congr 1
  · cases isLed with
    | true => exact leads
    | false =>
        obtain ⟨_, _, replaced | ⟨_, _, ⟨_, none, rfl⟩, rfl⟩, rfl, rfl⟩ := leads
        · exact absurd replaced (keeping _ _)
        · rw [none]
          rfl
  · cases isOnly with
    | true => exact constants
    | false =>
        rw [if_neg Bool.false_ne_true,
          allowsItems_cons (Emit.constant_plain _ _)] at constants
        obtain ⟨_, _, here, rfl, rfl⟩ := constants
        rw [fixed.constant content binding here]
        rfl

/-- A class goes on extending what it extends. -/
theorem extendsBase_of_allows {rules : Rules} {isStyles : Bool} {parent result : Node}
    (allowed : rules.Allows false isStyles parent result) (base : String) :
    extendsBase base result = extendsBase base parent := by
  cases parent with
  | ident role id =>
      rw [Allows, Bool.false_and, if_neg Bool.false_ne_true] at allowed
      rw [allowed]
  | importDecl other inner | exportNames other inner | items inner | form other inner =>
      obtain ⟨_, _, rfl⟩ := allowed
      rfl
  | classNode head decorators members parent rest | member head key front core back =>
      obtain ⟨_, _, _, _, _, _, _, _, rfl⟩ := allowed
      rfl

end Rules

def countImports (lead : Import) (seen : List Sight) : Nat :=
  (seen.flatMap (Sight.importsOf lead)).length

@[simp]
theorem countImports_append (lead : Import) (first second : List Sight) :
    countImports lead (first ++ second) =
      countImports lead first + countImports lead second := by
  rw [countImports, List.flatMap_append, List.length_append]
  rfl

theorem countImports_eq_zero_iff (lead : Import) (seen : List Sight) :
    countImports lead seen = 0 ↔ ∀ spot, .imported spot lead true ∉ seen := by
  rw [countImports, List.length_eq_zero_iff, List.eq_nil_iff_forall_not_mem]
  constructor
  · exact fun none spot member => none () (mem_flatMap_importsOf.mpr ⟨spot, member⟩)
  · intro none _ member
    obtain ⟨spot, inside⟩ := mem_flatMap_importsOf.mp member
    exact none spot inside

/-- An import of a name that is not borne is not seen. -/
theorem countImports_unborne {name : Ident} {tag : Tag} {seen : List Sight} {ids : List Ident}
    (inside : ∀ sight ∈ seen, sight.ids ⊆ ids) (unborne : name ∉ ids) :
    countImports (Emit.tagDeclaration name tag) seen = 0 := by
  rw [countImports_eq_zero_iff]
  intro spot member
  exact unborne (inside _ member (by simp [Sight.ids, Scan.idsOfImport, Emit.tagDeclaration]))

/-- A view of imports finds in results of a substitution what it found before. -/
theorem Substitution.traces_importsOf (setting : Setting) (base : String) (whole : Bool)
    (lead : Import) :
    (rules setting base whole).Traces base (fun _ => false) (Sight.importsOf lead)
      (Sight.importsOf lead) where
  fills := rfl
  name _ _ _ _ _ := rfl
  template _ _ _ _ _ _ _ _ _ := rfl
  exported _ _ _ := rfl
  stray _ _ _ := rfl
  kept _ _ _ _ := ⟨rfl, rfl⟩
  replaced _ _ _ _ impossible := impossible.elim
  styled _ _ _ := ⟨rfl, rfl⟩

namespace Rewrite

variable {σ : Type}

/-- The tag has its name or is going to get it, and no stylesheet is known under that name. -/
structure Hygienic (tag : Tag) (name : Ident) (run : Run σ) : Prop where
  named : run.progress.tagIdent tag = name
  unbound : run.progress.binding? name = none

def IsSheetSight (plan : Plan) (sight : Sight) : Prop :=
  ∃ spot declaration, sight = .imported spot declaration true ∧
    (plan.sheet? declaration).isSome = true

/-- What is seen before and after some steps accounts for the name of the tag. -/
structure Accounts (plan : Plan) (tag : Tag) (name : Ident) (run run' : Run σ)
    (before after : List Sight) : Prop where
  /-- A failure stays. -/
  active : run'.failure = none → run.failure = none
  /-- The tag is imported where it gets its name, and nowhere else. -/
  once : countImports (Emit.tagDeclaration name tag) after + run.progress.tag.isSome.toNat ≤
    run'.progress.tag.isSome.toNat
  /-- The tag gets its name at a stylesheet. -/
  asked : run.progress.tag = none → run'.progress.tag ≠ none →
    ∃ sight ∈ before, IsSheetSight plan sight
  /-- Without a failure it gets its name at any stylesheet. -/
  met : run'.failure = none → run'.progress.tag = none →
    ∀ sight ∈ before, ¬ IsSheetSight plan sight

namespace Accounts

variable {plan : Plan} {tag : Tag} {name : Ident} {run middle run' : Run σ}
  {before after before' after' : List Sight}

/-- A name that the tag has got is kept. -/
theorem unnamed (accounts : Accounts plan tag name run run' before after)
    (unset : run'.progress.tag = none) : run.progress.tag = none := by
  have once := accounts.once
  rw [unset] at once
  cases named : run.progress.tag with
  | none => rfl
  | some _ =>
      rw [named] at once
      simp at once

/-- A step that leaves the name of the tag alone. -/
theorem still (same : run'.progress.tag = run.progress.tag)
    (active : run'.failure = none → run.failure = none)
    (absent : countImports (Emit.tagDeclaration name tag) after = 0)
    (passes : run'.failure = none → ∀ sight ∈ before, ¬ IsSheetSight plan sight) :
    Accounts plan tag name run run' before after where
  active := active
  once := Nat.le_of_eq (by rw [absent, same, Nat.zero_add])
  asked unset set := absurd (same.trans unset) set
  met whole _ := passes whole

/-- Without imports among items there is nothing to account for. -/
theorem quiet (first : ∀ spot declaration, .imported spot declaration true ∉ before)
    (second : ∀ spot declaration, .imported spot declaration true ∉ after) :
    Accounts plan tag name run run before after := by
  have absent := (countImports_eq_zero_iff (Emit.tagDeclaration name tag) after).mpr fun spot =>
    second spot _
  refine still rfl (fun active => active) absent ?_
  rintro - _ member ⟨spot, declaration, rfl, _⟩
  exact first spot declaration member

theorem append (first : Accounts plan tag name run middle before after)
    (second : Accounts plan tag name middle run' before' after') :
    Accounts plan tag name run run' (before ++ before') (after ++ after') where
  active whole := first.active (second.active whole)
  once := by
    have head := first.once
    have tail := second.once
    rw [countImports_append]
    omega
  asked unset set := by
    by_cases still : middle.progress.tag = none
    · obtain ⟨sight, member, sheet⟩ := second.asked still set
      exact ⟨sight, List.mem_append_right _ member, sheet⟩
    · obtain ⟨sight, member, sheet⟩ := first.asked unset still
      exact ⟨sight, List.mem_append_left _ member, sheet⟩
  met whole unset sight member := by
    rcases List.mem_append.mp member with inside | inside
    · exact first.met (second.active whole) (second.unnamed unset) sight inside
    · exact second.met whole unset sight inside

/-- What is done before and behind changes neither the name of the tag nor its imports. -/
theorem around {start final : Run σ} (accounts : Accounts plan tag name start final before after)
    (head : start.progress.tag = run.progress.tag) (tail : run'.progress.tag = final.progress.tag)
    (begins : start.failure = none → run.failure = none)
    (ends : run'.failure = none → final.failure = none)
    (imports : countImports (Emit.tagDeclaration name tag) after' =
      countImports (Emit.tagDeclaration name tag) after) :
    Accounts plan tag name run run' before after' where
  active whole := begins (accounts.active (ends whole))
  once := by
    rw [imports, tail, ← head]
    exact accounts.once
  asked unset set := accounts.asked (head.trans unset) (by rwa [tail] at set)
  met whole unset := accounts.met (ends whole) (tail.symm.trans unset)

end Accounts

/-- How trees of one kind are compared with their results. -/
structure Outlook (α : Type) where
  allows : Rules → α → α → Prop
  view : Spot → Bool → α → List Sight

namespace Outlook

def node (base : String) : Outlook Node where
  allows rules := rules.Allows false false
  view := sights base

def nodes (base : String) : Outlook (List Node) where
  allows rules := rules.AllowsAll false false
  view := sightsOfAll base

def items (base : String) : Outlook (List Node) where
  allows rules := rules.AllowsItems false
  view spot _ := sightsOfItems base spot

end Outlook

/-- Something was rewritten, and nothing but the name of the tag was put in. -/
structure Clean {α : Type} (plan : Plan) (tag : Tag) (name : Ident) (outlook : Outlook α)
    (run : Run σ) (node : α) (result : α × Run σ) : Prop where
  hygienic : Hygienic tag name result.2
  allowed : outlook.allows (.tagged plan tag name) node result.1
  /-- As long as the tag has no name, nothing is changed. -/
  same : result.2.progress.tag = none → result.1 = node
  /-- This holds wherever it is seen from. -/
  accounts : ∀ spot flag spot' flag', Accounts plan tag name run result.2
    (outlook.view spot flag node) (outlook.view spot' flag' result.1)

namespace Clean

variable {α β γ δ : Type} {plan : Plan} {tag : Tag} {name : Ident} {run : Run σ}

/-- A tag without a name had none before. -/
theorem unnamed {outlook : Outlook α} {node : α} {result : α × Run σ}
    (clean : Clean plan tag name outlook run node result) (unset : result.2.progress.tag = none) :
    run.progress.tag = none :=
  (clean.accounts {} false {} false).unnamed unset

/-- A rewriting that has not failed had not failed before. -/
theorem active {outlook : Outlook α} {node : α} {result : α × Run σ}
    (clean : Clean plan tag name outlook run node result) (whole : result.2.failure = none) :
    run.failure = none :=
  (clean.accounts {} false {} false).active whole

/-- Behind a failure nothing happens. -/
theorem frozen {outlook : Outlook α} {node : α} {ids : List Ident}
    (hygienic : Hygienic tag name run)
    (reflexive : outlook.allows (.tagged plan tag name) node node)
    (inside : ∀ spot flag, ∀ sight ∈ outlook.view spot flag node, sight.ids ⊆ ids)
    (unborne : name ∉ ids) {error : InlineError} (failed : run.failure = some error) :
    Clean plan tag name outlook run node (node, run) where
  hygienic := hygienic
  allowed := reflexive
  same _ := rfl
  accounts spot flag spot' flag' := by
    have absent := @countImports_unborne name tag _ _ (inside spot' flag') unborne
    refine .still rfl (fun active => active) absent fun active => ?_
    cases failed.symm.trans active

variable {first : Outlook α} {second : Outlook β} {third : Outlook γ} {fourth : Outlook δ}
  {a : α} {b : β} {c : γ} {d : δ} {one : α × Run σ} {two : β × Run σ} {three : γ × Run σ}
  {four : δ × Run σ}

/-- Four parts that are rewritten one after the other. -/
theorem parts (ofFirst : Clean plan tag name first run a one)
    (ofSecond : Clean plan tag name second one.2 b two)
    (ofThird : Clean plan tag name third two.2 c three)
    (ofFourth : Clean plan tag name fourth three.2 d four) :
    (four.2.progress.tag = none → one.1 = a ∧ two.1 = b ∧ three.1 = c ∧ four.1 = d) ∧
      ∀ spot spot' core core' flag flag', Accounts plan tag name run four.2
        (first.view spot false a ++ second.view spot flag b ++ third.view core false c ++
          fourth.view spot false d)
        (first.view spot' false one.1 ++ second.view spot' flag' two.1 ++
          third.view core' false three.1 ++ fourth.view spot' false four.1) := by
  constructor
  · intro unset
    have behindThird := ofFourth.unnamed unset
    have behindSecond := ofThird.unnamed behindThird
    exact ⟨ofFirst.same (ofSecond.unnamed behindSecond), ofSecond.same behindSecond,
      ofThird.same behindThird, ofFourth.same unset⟩
  · intro spot spot' core core' flag flag'
    have head := (ofFirst.accounts spot false spot' false).append
      (ofSecond.accounts spot flag spot' flag')
    exact (head.append (ofThird.accounts core false core' false)).append
      (ofFourth.accounts spot false spot' false)

end Clean

section Steps

variable {plan : Plan} {fetch : Fetch σ} {tag : Tag} {name : Ident} {run : Run σ}

/-- The tag of a hygienic run, once it has got its name. -/
theorem Hygienic.eq_of_tag (hygienic : Hygienic tag name run) {other : Ident}
    (set : run.progress.tag = some other) : other = name := by
  rw [← hygienic.named, Progress.tagIdent, set]
  rfl

/-- What a substitution does with results puts in nothing but the name of the tag. -/
theorem Hygienic.absorbs (hygienic : Hygienic tag name run) (className base : String) :
    (Rules.tagged plan tag name).Absorbs
      (Substitution.rules ⟨run.progress, className⟩ base false) := by
  have fixed : (Substitution.rules ⟨run.progress, className⟩ base false).Fixes name := by
    intro choice read
    cases choice with
    | none => rfl
    | some template =>
        obtain ⟨_, binding, bound, _⟩ := read
        cases hygienic.unbound.symm.trans bound
  refine ⟨?_, fun _ _ impossible => impossible, ?_, ?_⟩
  · rintro id choice read other content rfl
    exact hygienic.eq_of_tag read.1
  · rintro id other content read
    rw [read other content rfl]
    exact fixed
  · rintro declaration items ⟨binding, path, content, _, isLed, isOnly, rfl⟩ results allowed
    exact fixed.items (fun _ _ impossible => impossible) isLed isOnly binding content allowed

/-- As long as the tag has no name, nothing is put into styles. -/
theorem unchanged_of_fills {members results : List Node} {setting : Substitution.Setting}
    {base : String} (unset : setting.progress.tag = none)
    (filled : (Substitution.rules setting base false).Fills members results) :
    results = members := by
  have kept (id : Ident) (choice : Option (Ident × String))
      (read : (Substitution.rules setting base false).reads id choice) : choice = none := by
    cases choice with
    | none => rfl
    | some template => cases unset.symm.trans read.1
  have deterministic : (Substitution.rules setting base false).IsDeterministic :=
    ⟨fun _ _ _ impossible => impossible, fun _ _ _ impossible => impossible.elim,
      fun id first second left right => (kept id first left).trans (kept id second right).symm⟩
  exact deterministic.fills filled ((Substitution.rules_isReflexive setting base).fills members)

/-- Outside of classes nothing is filled in. -/
theorem fillStyles_uncalled (members : List Node) {run : Run σ}
    (uncalled : run.progress.className = none) : fillStyles members run = (members, run) := by
  simp only [fillStyles, bind, StateT.bind, get, getThe, MonadStateOf.get, StateT.get, pure,
    uncalled]
  cases run.failure <;> rfl

/-- The styles of a class are filled in by what is known, as far as that goes. -/
theorem fillStyles_fills (base : String) (members : List Node) (run : Run σ) :
    (fillStyles members run).2.progress = run.progress ∧
      ((fillStyles members run).2.failure = none → run.failure = none) ∧
      ∃ className, (Substitution.rules ⟨run.progress, className⟩ base false).Fills members
        (fillStyles members run).1 := by
  have still := (Substitution.rules_isReflexive ⟨run.progress, ""⟩ base).fills members
  cases failed : run.failure with
  | some error =>
      rw [fillStyles_failed members (by rw [failed]; rfl)]
      exact ⟨rfl, fun active => failed.symm.trans active, _, still⟩
  | none =>
      cases called : run.progress.className with
      | none =>
          rw [fillStyles_uncalled members called]
          exact ⟨rfl, fun _ => rfl, _, still⟩
      | some className =>
          obtain ⟨events, same⟩ := fillStyles_eq members failed called
          rw [same]
          exact ⟨rfl, fun _ => rfl, className, Substitution.fills_substituteMembers members {}
            fun whole => absurd whole Bool.false_ne_true⟩

/-- Filling in styles puts in nothing but the name of the tag, and imports nothing. -/
theorem Hygienic.fill (hygienic : Hygienic tag name run) (base : String)
    {members middle : List Node}
    (allowed : (Rules.tagged plan tag name).AllowsAll false false members middle) :
    let filled := fillStyles middle run
    filled.2.progress = run.progress ∧ (filled.2.failure = none → run.failure = none) ∧
      (Rules.tagged plan tag name).AllowsAll false true members filled.1 ∧
      (run.progress.tag = none → filled.1 = middle) ∧
      ∀ lead spot, countImports lead (sightsOfAll base spot true filled.1) =
        countImports lead (sightsOfAll base spot true middle) := by
  intro filled
  obtain ⟨progress, active, className, fills⟩ := fillStyles_fills base middle run
  refine ⟨progress, active, (hygienic.absorbs className base).fill allowed fills,
    fun unset => unchanged_of_fills unset fills, fun lead spot => ?_⟩
  have traces := Substitution.traces_importsOf ⟨run.progress, className⟩ base false lead
  exact congrArg List.length (traces.fills_members spot fills)

/-- The tag is imported if it has no name yet. -/
theorem countImports_lead (base : String) (spot : Spot) {progress : Progress}
    (named : progress.tagIdent tag = name) :
    countImports (Emit.tagDeclaration name tag) (sightsOfItems base spot (progress.lead tag)) =
      (!progress.tag.isSome).toNat := by
  rw [Progress.lead, named]
  cases progress.tag with
  | some other => rfl
  | none =>
      have here : Sight.importsOf (Emit.tagDeclaration name tag)
          (.imported spot (Emit.tagDeclaration name tag) true) = [()] := if_pos rfl
      change countImports _ [.imported spot (Emit.tagDeclaration name tag) true] = 1
      rw [countImports, List.flatMap_singleton, here]
      rfl

/-- A constant imports nothing. -/
theorem countImports_constants (lead : Import) (base : String) (spot : Spot) (isOnly : Bool)
    (binding tag : Ident) (content : String) :
    countImports lead (sightsOfItems base spot
      (if isOnly then [] else [Emit.constant binding (Emit.template tag content)])) = 0 := by
  cases isOnly <;> rfl

variable (fetch)

/-- An import stays, or it makes room for its stylesheet and for the import of the tag. -/
theorem rewriteImport_tagged (tagged : plan.config.tag = some tag) (declaration : Import)
    (attributes : Node) (run : Run σ) :
    let result := rewriteImport plan fetch declaration attributes run
    (result.1 = [.importDecl declaration attributes] ∧ result.2.progress = run.progress ∧
      (result.2.failure = none → plan.sheet? declaration = none)) ∨
    ∃ binding path content, ∃ isOnly : Bool, plan.sheet? declaration = some (binding, path) ∧
      result.1 = run.progress.lead tag ++ (if isOnly then []
        else [Emit.constant binding (Emit.template (run.progress.tagIdent tag) content)]) ∧
      result.2.progress = (run.progress.named tag).knowing binding path content := by
  rcases @rewriteImport_cases σ plan fetch declaration attributes run with
    ⟨error, events, world, _, same⟩ | ⟨events, _, other, same⟩ |
    ⟨binding, path, content, events, _, found, _, same⟩
  · rw [same]
    exact .inl ⟨rfl, rfl, nofun⟩
  · rw [same]
    exact .inl ⟨rfl, rfl, fun _ => other⟩
  · obtain ⟨events, inlined⟩ := inline_template tagged binding path content
      { run with events, world := (fetch path plan.filename run.world).2 }
    rw [same, inlined]
    exact .inr ⟨binding, path, content, _, found, rfl, rfl⟩

/-- An import of a stylesheet gives the tag its name, and any other import stays. -/
theorem clean_import (tagged : plan.config.tag = some tag) {run' : Run σ} (declaration : Import)
    {attributes attributes' : Node} (unborne : name ∉ Scan.idsOfImport declaration)
    (inner : Clean plan tag name (.node plan.config.baseClass) run attributes (attributes', run')) :
    Clean plan tag name (.items plan.config.baseClass) run [.importDecl declaration attributes]
      (rewriteImport plan fetch declaration attributes' run') := by
  have named : run'.progress.tagIdent tag = name := inner.hygienic.named
  have active (whole : (rewriteImport plan fetch declaration attributes' run').2.failure = none) :
      run'.failure = none := by
    rw [rewriteImport_failure] at whole
    exact (Option.or_eq_none_iff.mp whole).2
  rcases rewriteImport_tagged fetch tagged declaration attributes' run' with
    ⟨items, progress, other⟩ | ⟨binding, path, content, isOnly, found, items, progress⟩
  · refine ⟨⟨by rw [progress, named], by rw [progress, inner.hygienic.unbound]⟩, ?_,
      fun unset => ?_, fun spot flag spot' flag' => ?_⟩
    · rw [items]
      exact ⟨_, _, .inr ⟨_, trivial, inner.allowed, rfl⟩, rfl, rfl⟩
    · rw [progress] at unset
      rw [items, show attributes' = attributes from inner.same unset]
    · rw [items]
      have inside := inner.accounts (spot.inside declaration) false (spot'.inside declaration) false
      refine inside.append (.still (by rw [progress]) active (countImports_unborne ?_ unborne) ?_)
      · simp [Sight.ids, sightsOfItems]
      · rintro whole _ member ⟨_, _, same, sheet⟩
        cases List.mem_singleton.mp member
        cases same
        rw [other whole] at sheet
        cases sheet
  · rw [named] at items
    have bound : binding ≠ name := by
      rintro rfl
      exact unborne (Scan.defaultBindings_subset _ (Plan.of_sheet? found).2.2)
    have set : (rewriteImport plan fetch declaration attributes' run').2.progress.tag =
        some name := by
      rw [progress, Progress.knowing_tag, Progress.named_tag, named]
    refine ⟨⟨by rw [Progress.tagIdent, set, Option.getD_some], ?_⟩, ?_, fun unset => ?_,
      fun spot flag spot' flag' => ⟨fun whole => inner.active (active whole), ?_, ?_, ?_⟩⟩
    · rw [progress, Progress.binding?_knowing, if_neg fun same => bound same.1.symm,
        Progress.named_binding?]
      exact inner.hygienic.unbound
    · refine ⟨_, _, .inl ⟨binding, path, content, found, run'.progress.tag.isSome, isOnly, ?_⟩, rfl,
        (List.append_nil _).symm⟩
      rw [items, Progress.lead, named]
    · cases unset.symm.trans set
    · change countImports _ (sightsOfItems _ spot' _) + _ ≤ _
      rw [items, set, sightsOfItems_append, countImports_append, countImports_lead _ spot' named,
        countImports_constants]
      cases still : run'.progress.tag with
      | none =>
          rw [inner.unnamed still]
          exact Nat.le_refl _
      | some other => cases run.progress.tag <;> simp
    · exact fun _ _ => ⟨_, List.mem_append_right _ (List.mem_singleton_self _), spot, declaration,
        rfl, by rw [found]; rfl⟩
    · intro _ unset
      cases unset.symm.trans set

open Substitution (identsOf identsOfAll)

section Classes

variable {fetch} {head : ClassHead} {decorators members rest : List Node} {parent : Node}
  {one two four : List Node × Run σ} {three : Node × Run σ}

/-- A class whose styles are left alone is rewritten part by part. -/
theorem clean_other (other : isMatching plan parent = false)
    (first : Clean plan tag name (.nodes plan.config.baseClass) run decorators one)
    (second : Clean plan tag name (.nodes plan.config.baseClass) one.2 members two)
    (third : Clean plan tag name (.node plan.config.baseClass) two.2 parent three)
    (fourth : Clean plan tag name (.nodes plan.config.baseClass) three.2 rest four) :
    Clean plan tag name (.node plan.config.baseClass) run
      (.classNode head decorators members parent rest)
      (.classNode head one.1 two.1 three.1 four.1, four.2) := by
  obtain ⟨same, accounts⟩ := first.parts second third fourth
  refine ⟨fourth.hygienic, ⟨_, _, _, _, first.allowed, ?_, third.allowed, fourth.allowed, rfl⟩,
    fun unset => ?_, fun spot flag spot' flag' => ?_⟩
  · rw [show (Rules.tagged plan tag name).fills parent = false from other]
    exact second.allowed
  · obtain ⟨ofFirst, ofSecond, ofThird, ofFourth⟩ := same unset
    simp only [ofFirst, ofSecond, ofThird, ofFourth]
  · refine (accounts spot spot' spot spot' _ _).append (.quiet ?_ ?_) <;> split <;> simp

/-- A class whose styles are filled in is rewritten part by part before that. -/
theorem clean_matching (matching : isMatching plan parent = true) {called outer : Option String}
    (first : Clean plan tag name (.nodes plan.config.baseClass) (run.called called) decorators one)
    (second : Clean plan tag name (.nodes plan.config.baseClass) one.2 members two)
    (third : Clean plan tag name (.node plan.config.baseClass) two.2 parent three)
    (fourth : Clean plan tag name (.nodes plan.config.baseClass) three.2 rest four) :
    Clean plan tag name (.node plan.config.baseClass) run
      (.classNode head decorators members parent rest)
      (.classNode head one.1 (fillStyles two.1 four.2).1 three.1 four.1,
        (fillStyles two.1 four.2).2.called outer) := by
  obtain ⟨same, accounts⟩ := first.parts second third fourth
  obtain ⟨progress, active, allowed, still, imports⟩ :=
    fourth.hygienic.fill plan.config.baseClass second.allowed
  have sameTag := congrArg Progress.tag progress
  have extending := (Bool.and_eq_true_iff.mp matching).2
  rw [← Rules.extendsBase_of_allows third.allowed] at extending
  refine ⟨⟨?_, ?_⟩, ⟨_, _, _, _, first.allowed, ?_, third.allowed, fourth.allowed, rfl⟩,
    fun unset => ?_, fun spot flag spot' flag' => ?_⟩
  · rw [← fourth.hygienic.named, ← progress]
    rfl
  · rw [← fourth.hygienic.unbound, ← progress]
    rfl
  · rw [show (Rules.tagged plan tag name).fills parent = true from matching]
    exact allowed
  · have whole := sameTag.symm.trans unset
    obtain ⟨ofFirst, ofSecond, ofThird, ofFourth⟩ := same whole
    have filled := (still whole).trans ofSecond
    dsimp only
    rw [filled, ofFirst, ofThird, ofFourth]
  · have unseen : Accounts plan tag name four.2 four.2
        (if extendsBase plan.config.baseClass parent then [.styled spot head members] else [])
        [] := by
      refine .quiet ?_ nofun
      split <;> simp
    refine .around ((accounts spot spot' spot spot' _ true).append unseen) rfl sameTag
      (fun active => active) active ?_
    simp only [Outlook.node, Outlook.nodes, sights, extending, ↓reduceIte, countImports_append,
      imports]
    rfl

end Classes

mutual

theorem clean_node (tagged : plan.config.tag = some tag) (node : Node) {run : Run σ}
    (unborne : name ∉ identsOf node) (hygienic : Hygienic tag name run) :
    Clean plan tag name (.node plan.config.baseClass) run node
      (rewriteNode plan fetch node run) := by
  cases node with
  | ident role id =>
      refine ⟨hygienic, rfl, fun _ => rfl, fun spot flag spot' flag' => .quiet ?_ ?_⟩ <;> nofun
  | importDecl declaration attributes =>
      have inner := clean_node tagged attributes
        (fun borne => unborne (List.mem_append_right _ borne)) hygienic
      rw [rewriteNode_importDecl]
      refine ⟨inner.hygienic, ⟨_, inner.allowed, rfl⟩,
        fun unset => congrArg (Node.importDecl declaration) (inner.same unset),
        fun spot flag spot' flag' => ?_⟩
      exact (inner.accounts spot false spot' false).append (.quiet (by simp) (by simp))
  | exportNames declaration attributes =>
      have inner := clean_node tagged attributes
        (fun borne => unborne (List.mem_append_right _ borne)) hygienic
      rw [rewriteNode_exportNames]
      refine ⟨inner.hygienic, ⟨_, inner.allowed, rfl⟩,
        fun unset => congrArg (Node.exportNames declaration) (inner.same unset),
        fun spot flag spot' flag' => ?_⟩
      exact (inner.accounts spot false spot' false).append (.quiet (by simp) (by simp))
  | classNode head decorators members parent rest =>
      have around := unborne
      simp only [identsOf, List.mem_append, not_or] at around
      obtain ⟨⟨⟨⟨_, ofDecorators⟩, ofMembers⟩, ofParent⟩, ofRest⟩ := around
      cases failed : run.failure with
      | some error =>
          rw [rewriteNode_classNode_failed run head decorators members parent rest
            (by rw [failed]; rfl)]
          exact .frozen hygienic ((Rules.tagged_isReflexive plan tag name).allows _ _ _)
            (fun spot flag => ids_of_sights _ spot flag _) unborne failed
      | none =>
          cases matching : isMatching plan parent with
          | false =>
              have first := clean_nodes tagged decorators ofDecorators hygienic
              have second := clean_nodes tagged members ofMembers first.hygienic
              have third := clean_node tagged parent ofParent second.hygienic
              have fourth := clean_nodes tagged rest ofRest third.hygienic
              rw [rewriteNode_classNode_other run head decorators members parent rest failed
                matching]
              exact clean_other matching first second third fourth
          | true =>
              have called : Hygienic tag name (run.called (some (classNameOf head))) :=
                ⟨hygienic.named, hygienic.unbound⟩
              have first := clean_nodes tagged decorators ofDecorators called
              have second := clean_nodes tagged members ofMembers first.hygienic
              have third := clean_node tagged parent ofParent second.hygienic
              have fourth := clean_nodes tagged rest ofRest third.hygienic
              rw [rewriteNode_classNode_matching run head decorators members parent rest failed
                matching]
              exact clean_matching matching first second third fourth
  | member head key front core back =>
      simp only [identsOf, List.mem_append, not_or] at unborne
      obtain ⟨⟨⟨ofKey, ofFront⟩, ofCore⟩, ofBack⟩ := unborne
      have first := clean_node tagged key ofKey hygienic
      have second := clean_nodes tagged front ofFront first.hygienic
      have third := clean_node tagged core ofCore second.hygienic
      have fourth := clean_nodes tagged back ofBack third.hygienic
      obtain ⟨same, accounts⟩ := first.parts second third fourth
      rw [rewriteNode_member]
      refine ⟨fourth.hygienic, ⟨_, _, _, _, first.allowed, second.allowed, third.allowed,
        fourth.allowed, rfl⟩, fun unset => ?_, fun spot flag spot' flag' => accounts _ _ _ _ _ _⟩
      obtain ⟨ofFirst, ofSecond, ofThird, ofFourth⟩ := same unset
      simp only [ofFirst, ofSecond, ofThird, ofFourth]
  | items body =>
      have inner := clean_items tagged body unborne hygienic
      rw [rewriteNode_items]
      exact ⟨inner.hygienic, ⟨_, inner.allowed, rfl⟩,
        fun unset => congrArg Node.items (inner.same unset),
        fun spot _ spot' _ => inner.accounts spot false spot' false⟩
  | form shape parts =>
      have inner := clean_nodes tagged parts unborne hygienic
      rw [rewriteNode_form]
      exact ⟨inner.hygienic, ⟨_, inner.allowed, rfl⟩,
        fun unset => congrArg (Node.form shape) (inner.same unset),
        fun spot _ spot' _ => inner.accounts spot false spot' false⟩
termination_by node.weight
decreasing_by all_goals (subst_vars; simp only [Node.weight]; omega)

theorem clean_nodes (tagged : plan.config.tag = some tag) (nodes : List Node) {run : Run σ}
    (unborne : name ∉ identsOfAll nodes) (hygienic : Hygienic tag name run) :
    Clean plan tag name (.nodes plan.config.baseClass) run nodes
      (rewriteNodes plan fetch nodes run) := by
  cases nodes with
  | nil => exact ⟨hygienic, rfl, fun _ => rfl, fun _ _ _ _ => .quiet nofun nofun⟩
  | cons node rest =>
      simp only [identsOfAll, List.mem_append, not_or] at unborne
      have first := clean_node tagged node unborne.1 hygienic
      have others := clean_nodes tagged rest unborne.2 first.hygienic
      rw [rewriteNodes_cons]
      refine ⟨others.hygienic, ⟨_, _, first.allowed, others.allowed, rfl⟩, fun unset => ?_,
        fun spot flag spot' flag' => ?_⟩
      · simp only [first.same (others.unnamed unset), others.same unset]
      · exact (first.accounts spot _ spot' _).append (others.accounts spot flag spot' flag')
termination_by Node.weightOf nodes
decreasing_by all_goals (subst_vars; simp only [Node.weightOf]; omega)

theorem clean_items (tagged : plan.config.tag = some tag) (items : List Node) {run : Run σ}
    (unborne : name ∉ identsOfAll items) (hygienic : Hygienic tag name run) :
    Clean plan tag name (.items plan.config.baseClass) run items
      (rewriteItems plan fetch items run) := by
  cases failed : run.failure with
  | some error =>
      rw [rewriteItems_failed run items (by rw [failed]; rfl)]
      exact .frozen hygienic ((Rules.tagged_isReflexive plan tag name).allowsItems _ _)
        (fun spot _ => ids_of_sightsOfItems _ spot _) unborne failed
  | none =>
      cases items with
      | nil => exact ⟨hygienic, rfl, fun _ => rfl, fun _ _ _ _ => .quiet nofun nofun⟩
      | cons item rest =>
          simp only [identsOfAll, List.mem_append, not_or] at unborne
          rcases item.isImport_or with ⟨declaration, attributes, rfl⟩ | plain
          · simp only [identsOf, List.mem_append, not_or] at unborne
            obtain ⟨⟨ofDeclaration, ofAttributes⟩, ofRest⟩ := unborne
            have inner := clean_node tagged attributes ofAttributes hygienic
            have first := clean_import fetch tagged declaration ofDeclaration inner
            have others := clean_items tagged rest ofRest first.hygienic
            rw [rewriteItems_importDecl run declaration attributes rest failed]
            refine ⟨others.hygienic, ?_, fun unset => ?_, fun spot flag spot' flag' => ?_⟩
            · exact Rules.allowsItems_append.mpr ⟨_, _, first.allowed, others.allowed, rfl⟩
            · dsimp only
              rw [first.same (others.unnamed unset), others.same unset]
              rfl
            · have whole := (first.accounts spot flag spot' flag').append
                (others.accounts spot flag spot' flag')
              simp only [Outlook.items, ← sightsOfItems_append] at whole
              exact whole
          · have first := clean_node tagged item unborne.1 hygienic
            have others := clean_items tagged rest unborne.2 first.hygienic
            rw [rewriteItems_cons run rest failed plain]
            refine ⟨others.hygienic, ?_, fun unset => ?_, fun spot flag spot' flag' => ?_⟩
            · simp only [Outlook.items, Rules.allowsItems_cons plain]
              exact ⟨_, _, first.allowed, others.allowed, rfl⟩
            · simp only [first.same (others.unnamed unset), others.same unset]
            · have plain' := Rules.plain_of_allows plain first.allowed
              simp only [Outlook.items, sightsOfItems_cons _ _ _ plain,
                sightsOfItems_cons _ _ _ plain']
              exact (first.accounts spot false spot' false).append
                (others.accounts spot flag spot' flag')
termination_by Node.weightOf items
decreasing_by all_goals (subst_vars; simp only [Node.weight, Node.weightOf]; omega)

end

end Steps

end Rewrite

end StyleInline
