import StyleInline.Proofs.RewriteOutcome
import StyleInline.Proofs.Rules.Weakening

/-!
# What a rewriting leaves that ends anywhere

What each step of the rewriting keeps is kept by the rewriting of whole nodes, and what each step
lets a node become is what a node becomes.  The steps are those in which something happens: an import
is passed, a class is entered or left, and its styles are filled in.

So however far a rewriting comes, what it leaves differs from what was there only where rules let it
differ: a stylesheet has made room for itself, or a text that is known by then stands in styles.
-/

namespace StyleInline

open Script Rewrite

namespace Rewrite

variable {σ : Type}

/-- Each step of a rewriting keeps something of the run, and does what some rules allow, as long as
what it comes upon is covered. -/
structure Upholds (plan : Plan) (fetch : Fetch σ) (rules : Rules) (covers : Sight → Prop)
    (holds : Run σ → Prop) : Prop where
  reflexive : rules.IsReflexive
  fills : rules.fills = isMatching plan
  called : ∀ {run : Run σ}, holds run → ∀ name, holds (run.called name)
  passImport : ∀ {run : Run σ}, holds run → ∀ {spot : Spot} (declaration : Import),
    covers (.imported spot declaration true) → ∀ {attributes attributes' : Node},
    rules.Allows false false attributes attributes' →
      holds (rewriteImport plan fetch declaration attributes' run).2 ∧
        rules.AllowsItems false [.importDecl declaration attributes]
          (rewriteImport plan fetch declaration attributes' run).1
  fill : ∀ {run : Run σ}, holds run → plan.config.tag.isSome = true →
    ∀ {members middle : List Node}, rules.AllowsAll false false members middle →
      holds (fillStyles middle run).2 ∧
        rules.AllowsAll false true members (fillStyles middle run).1

/-- Behind the filling in of styles there is a failure that was there, or that of a binding. -/
theorem fillStyles_failure (members : List Node) {run : Run σ} {error : InlineError}
    (failed : (fillStyles members run).2.failure = some error) :
    run.failure = some error ∨ ∃ setting id, Substitution.fault setting id = some error := by
  cases before : run.failure with
  | some other =>
      rw [fillStyles_failed members (by rw [before]; rfl), before] at failed
      exact .inl failed
  | none =>
      cases called : run.progress.className with
      | none =>
          rw [fillStyles_uncalled members called, before] at failed
          exact .inl failed
      | some className =>
          obtain ⟨events, same⟩ := fillStyles_eq members before called
          rw [same] at failed
          dsimp only at failed
          rw [Substitution.substituteMembers_failure _ "", Option.none_or] at failed
          obtain ⟨id, _, faulty⟩ := List.exists_of_findSome?_eq_some failed
          exact .inr ⟨_, id, faulty⟩

namespace Upholds

variable {plan : Plan} {fetch : Fetch σ} {rules : Rules} {covers : Sight → Prop}
  {holds : Run σ → Prop}

mutual

/-- What the steps keep is kept by the rewriting of a node, and it becomes what they allow. -/
theorem node (upholds : Upholds plan fetch rules covers holds) (spot : Spot) (isStyles : Bool)
    (node : Node) {run : Run σ} (held : holds run)
    (covered : ∀ sight ∈ sights plan.config.baseClass spot isStyles node, covers sight) :
    holds (rewriteNode plan fetch node run).2 ∧
      rules.Allows false false node (rewriteNode plan fetch node run).1 := by
  cases node with
  | ident role id => exact ⟨held, rfl⟩
  | importDecl declaration attributes | exportNames declaration attributes =>
      obtain ⟨ofAttributes, _⟩ := List.forall_mem_append.mp covered
      obtain ⟨later, inner⟩ := upholds.node spot false attributes held ofAttributes
      exact ⟨later, _, inner, rfl⟩
  | classNode head decorators members parent rest =>
      obtain ⟨parts, _⟩ := List.forall_mem_append.mp covered
      obtain ⟨parts, ofRest⟩ := List.forall_mem_append.mp parts
      obtain ⟨parts, ofParent⟩ := List.forall_mem_append.mp parts
      obtain ⟨ofDecorators, ofMembers⟩ := List.forall_mem_append.mp parts
      cases failed : run.failure with
      | some error =>
          rw [rewriteNode_classNode_failed run _ _ _ _ _ (by rw [failed]; rfl)]
          exact ⟨held, upholds.reflexive.allows _ _ _⟩
      | none =>
          cases matching : isMatching plan parent with
          | false =>
              obtain ⟨held, first⟩ := upholds.nodes spot false decorators held ofDecorators
              obtain ⟨held, second⟩ := upholds.nodes spot _ members held ofMembers
              obtain ⟨held, third⟩ := upholds.node spot false parent held ofParent
              obtain ⟨held, fourth⟩ := upholds.nodes spot false rest held ofRest
              rw [rewriteNode_classNode_other run _ _ _ _ _ failed matching]
              refine ⟨held, _, _, _, _, first, ?_, third, fourth, rfl⟩
              rw [upholds.fills, matching]
              exact second
          | true =>
              obtain ⟨tagged, _⟩ := Bool.and_eq_true_iff.mp matching
              have called := upholds.called held (some (classNameOf head))
              obtain ⟨held, first⟩ := upholds.nodes spot false decorators called ofDecorators
              obtain ⟨held, second⟩ := upholds.nodes spot _ members held ofMembers
              obtain ⟨held, third⟩ := upholds.node spot false parent held ofParent
              obtain ⟨held, fourth⟩ := upholds.nodes spot false rest held ofRest
              obtain ⟨held, filled⟩ := upholds.fill held tagged second
              rw [rewriteNode_classNode_matching run _ _ _ _ _ failed matching]
              refine ⟨upholds.called held _, _, _, _, _, first, ?_, third, fourth, rfl⟩
              rw [upholds.fills, matching]
              exact filled
  | member head key front core back =>
      obtain ⟨parts, ofBack⟩ := List.forall_mem_append.mp covered
      obtain ⟨parts, ofCore⟩ := List.forall_mem_append.mp parts
      obtain ⟨ofKey, ofFront⟩ := List.forall_mem_append.mp parts
      obtain ⟨held, first⟩ := upholds.node _ false key held ofKey
      obtain ⟨held, second⟩ := upholds.nodes _ false front held ofFront
      obtain ⟨held, third⟩ := upholds.node _ false core held ofCore
      obtain ⟨held, fourth⟩ := upholds.nodes _ false back held ofBack
      exact ⟨held, _, _, _, _, first, second, third, fourth, rfl⟩
  | items body =>
      obtain ⟨later, inner⟩ := upholds.items spot body held covered
      exact ⟨later, _, inner, rfl⟩
  | form shape parts =>
      obtain ⟨later, inner⟩ := upholds.nodes spot false parts held covered
      exact ⟨later, _, inner, rfl⟩
termination_by node.weight
decreasing_by all_goals (subst_vars; simp only [Node.weight]; omega)

theorem nodes (upholds : Upholds plan fetch rules covers holds) (spot : Spot) (matching : Bool)
    (nodes : List Node) {run : Run σ} (held : holds run)
    (covered : ∀ sight ∈ sightsOfAll plan.config.baseClass spot matching nodes, covers sight) :
    holds (rewriteNodes plan fetch nodes run).2 ∧
      rules.AllowsAll false false nodes (rewriteNodes plan fetch nodes run).1 := by
  cases nodes with
  | nil => exact ⟨held, rfl⟩
  | cons node rest =>
      obtain ⟨here, later⟩ := List.forall_mem_append.mp covered
      obtain ⟨held, first⟩ := upholds.node spot _ node held here
      obtain ⟨held, others⟩ := upholds.nodes spot matching rest held later
      exact ⟨held, _, _, first, others, rfl⟩
termination_by Node.weightOf nodes
decreasing_by all_goals (subst_vars; simp only [Node.weightOf]; omega)

theorem items (upholds : Upholds plan fetch rules covers holds) (spot : Spot) (items : List Node)
    {run : Run σ} (held : holds run)
    (covered : ∀ sight ∈ sightsOfItems plan.config.baseClass spot items, covers sight) :
    holds (rewriteItems plan fetch items run).2 ∧
      rules.AllowsItems false items (rewriteItems plan fetch items run).1 := by
  cases failed : run.failure with
  | some error =>
      rw [rewriteItems_failed run items (by rw [failed]; rfl)]
      exact ⟨held, upholds.reflexive.allowsItems _ _⟩
  | none =>
      cases items with
      | nil => exact ⟨held, rfl⟩
      | cons item rest =>
          rcases item.isImport_or with ⟨declaration, attributes, rfl⟩ | plain
          · rw [sightsOfItems, ← List.singleton_append, List.forall_mem_append,
              List.forall_mem_append] at covered
            obtain ⟨ofAttributes, here, later⟩ := covered
            obtain ⟨held, inner⟩ := upholds.node _ false attributes held ofAttributes
            obtain ⟨held, first⟩ := upholds.passImport held declaration
              (here _ (List.mem_singleton_self _)) inner
            obtain ⟨held, others⟩ := upholds.items spot rest held later
            rw [rewriteItems_importDecl run declaration attributes rest failed]
            exact ⟨held, Rules.allowsItems_append.mpr ⟨_, _, first, others, rfl⟩⟩
          · rw [sightsOfItems_cons _ _ rest plain, List.forall_mem_append] at covered
            obtain ⟨here, later⟩ := covered
            obtain ⟨held, first⟩ := upholds.node spot false item held here
            obtain ⟨held, others⟩ := upholds.items spot rest held later
            rw [rewriteItems_cons run rest failed plain, Rules.allowsItems_cons plain]
            exact ⟨held, _, _, first, others, rfl⟩
termination_by Node.weightOf items
decreasing_by all_goals (subst_vars; simp only [Node.weight, Node.weightOf]; omega)

end

/-- The failures of what a rewriting meets are all that there are. -/
theorem withFailure (upholds : Upholds plan fetch rules covers holds) {possible : InlineError → Prop}
    (refused : ∀ world declaration error,
      plan.refusal? (fetch.answers plan.filename world) declaration = some error → possible error)
    (unmet : ∀ setting id error, Substitution.fault setting id = some error → possible error) :
    Upholds plan fetch rules covers fun run =>
      holds run ∧ ∀ error, run.failure = some error → possible error where
  reflexive := upholds.reflexive
  fills := upholds.fills
  called held name := ⟨upholds.called held.1 name, held.2⟩
  passImport {run} held _ declaration covered _ attributes' inner := by
    obtain ⟨later, allowed⟩ := upholds.passImport held.1 declaration covered inner
    refine ⟨⟨later, fun error failed => ?_⟩, allowed⟩
    rw [rewriteImport_failure, Option.or_eq_some_iff] at failed
    obtain refuses | ⟨_, before⟩ := failed
    · exact refused run.world declaration error refuses
    · exact held.2 error before
  fill {run} held tagged _ middle inner := by
    obtain ⟨later, allowed⟩ := upholds.fill held.1 tagged inner
    refine ⟨⟨later, fun error failed => ?_⟩, allowed⟩
    obtain before | ⟨setting, id, faulty⟩ := fillStyles_failure middle failed
    · exact held.2 error before
    · exact unmet setting id error faulty

end Upholds

end Rewrite

namespace Forecast

variable {σ : Type} {forecast : Forecast} {fetch : Fetch σ} {sheets : List (Ident × Path)}
  {run : Run σ}

/-- The rules of a rewriting that may end anywhere, and has passed no stylesheets but these. -/
def halfway (forecast : Forecast) (sheets : List (Ident × Path)) : Rules where
  fills := isMatching forecast.plan
  keeps _ := True
  replaces declaration items :=
    ∃ binding path content passed, forecast.plan.sheet? declaration = some (binding, path) ∧
      items = (if forecast.isLed passed then [] else [forecast.lead]) ++
        forecast.inlined binding content
  reads id choice := choice = none ∨ (forecast.rules sheets).reads id choice

/-- Rules that may leave less room for a stylesheet than there is halfway, and are the same
otherwise. -/
structure IsHalfway (forecast : Forecast) (sheets : List (Ident × Path)) (rules : Rules) :
    Prop where
  fills : rules.fills = (forecast.halfway sheets).fills
  keeps : ∀ declaration, rules.keeps declaration
  replaces : ∀ declaration items,
    rules.replaces declaration items → (forecast.halfway sheets).replaces declaration items
  reads : rules.reads = (forecast.halfway sheets).reads

theorem isHalfway_halfway (forecast : Forecast) (sheets : List (Ident × Path)) :
    forecast.IsHalfway sheets (forecast.halfway sheets) :=
  ⟨rfl, fun _ => trivial, fun _ _ replaced => replaced, rfl⟩

namespace IsHalfway

variable {rules : Rules} (half : forecast.IsHalfway sheets rules)
include half

theorem isReflexive : rules.IsReflexive where
  keeps := half.keeps
  reads id := by
    rw [half.reads]
    exact .inl rfl

/-- Where more styles are filled in, no less is allowed. -/
theorem eases : rules.Eases rules where
  fills _ filling := filling
  keeps _ kept := kept
  replaces _ _ replaced := replaced
  reads _ _ read := read
  still := half.isReflexive.reads

end IsHalfway

/-- All stylesheets that make room for themselves at some sights are among these. -/
def Lists (forecast : Forecast) (sheets : List (Ident × Path)) (seen : List Sight) : Prop :=
  ∀ sight ∈ seen, ∀ sheet, forecast.sheetAt? sight = some sheet → sheet ∈ sheets

theorem Lists.mono {seen : List Sight} {more : List (Ident × Path)}
    (lists : forecast.Lists sheets seen) (wider : sheets ⊆ more) : forecast.Lists more seen :=
  fun sight member sheet found => wider (lists sight member sheet found)

theorem lists_passedIn (forecast : Forecast) (seen : List Sight) :
    forecast.Lists (forecast.passedIn seen) seen :=
  fun sight member _ found => mem_passedIn.mpr ⟨sight, member, found⟩

/-- A run, failed or not, names the tag as told; as long as it has not failed, it knows the texts of
these stylesheets only. -/
structure Told (forecast : Forecast) (fetch : Fetch σ) (sheets : List (Ident × Path))
    (run : Run σ) : Prop where
  named : ∀ tag, forecast.plan.config.tag = some tag →
    run.progress.tagIdent tag = forecast.tagIdent tag
  styles : run.progress.scan.stylesReferences = forecast.scan.stylesReferences
  others : run.progress.scan.otherReferences = forecast.scan.otherReferences
  texts : run.failure = none → ∀ id binding, run.progress.binding? id = some binding →
    id ∈ forecast.scan.stylesReferences ∧
      ∃ path, (id, path) ∈ sheets ∧ forecast.answer path = .ok binding.content
  answers : run.failure = none →
    fetch.answers forecast.plan.filename run.world = forecast.answer

/-- A run that has passed some stylesheets knows these. -/
theorem Standing.told {passed : List (Ident × Path)} {name : Option String}
    (standing : forecast.Standing fetch passed name run) (more : passed ⊆ sheets) :
    forecast.Told fetch sheets run where
  named _ tagged := standing.tagIdent tagged
  styles := standing.styles
  others := standing.others
  texts := by
    intro _ id binding bound
    have text := standing.texts id
    rw [bound, Option.map_some] at text
    obtain ⟨_, asked, path, member, answered⟩ := of_known? text.symm
    exact ⟨asked, path, more member, answered⟩
  answers _ := standing.answers

namespace Told

/-- A failure, and what comes before it, leaves what is known. -/
theorem keep (told : forecast.Told fetch sheets run) {run' : Run σ}
    (scan : run'.progress.scan = run.progress.scan) (tag : run'.progress.tag = run.progress.tag)
    (bindings : run'.progress.bindings = run.progress.bindings)
    (active : run'.failure = none → run.failure = none ∧
      fetch.answers forecast.plan.filename run'.world =
        fetch.answers forecast.plan.filename run.world) :
    forecast.Told fetch sheets run' where
  named other tagged := by
    rw [← told.named other tagged, Progress.tagIdent, Progress.tagIdent, tag, scan]
  styles := by rw [scan, told.styles]
  others := by rw [scan, told.others]
  texts whole id binding bound := by
    rw [Progress.binding?, bindings] at bound
    exact told.texts (active whole).1 id binding bound
  answers whole := (active whole).2.trans (told.answers (active whole).1)

/-- What stands in the place of a stylesheet, and what is known behind it. -/
theorem inline (told : forecast.Told fetch sheets run) (binding : Ident) (path : Path)
    (content : String) (listed : (binding, path) ∈ sheets)
    (answered : run.failure = none → forecast.answer path = .ok content) :
    forecast.Told fetch sheets (Rewrite.inline forecast.plan binding path content run).2 ∧
      ∃ passed, (Rewrite.inline forecast.plan binding path content run).1 =
        (if forecast.isLed passed then [] else [forecast.lead]) ++
          forecast.inlined binding content := by
  cases tagged : forecast.plan.config.tag with
  | none =>
      obtain ⟨events, same⟩ := Rewrite.inline_string tagged binding path content run
      rw [same]
      refine ⟨told.keep rfl rfl rfl fun whole => ⟨whole, rfl⟩, [], ?_⟩
      rw [isLed, inlined, tagged]
      rfl
  | some tag =>
      obtain ⟨events, same⟩ := Rewrite.inline_template tagged binding path content run
      rw [same]
      constructor
      · constructor
        · intro other also
          cases tagged.symm.trans also
          rw [Progress.tagIdent, Progress.knowing_tag, Progress.named_tag, Option.getD_some,
            told.named tag tagged]
        · rw [Progress.knowing_scan, Progress.named_stylesReferences, told.styles]
        · rw [Progress.knowing_scan, Progress.named_otherReferences, told.others]
        · intro whole id text bound
          rw [Progress.binding?_knowing, Progress.named_stylesReferences, told.styles,
            Progress.named_binding?] at bound
          split at bound
          next asked =>
            obtain ⟨rfl, asked⟩ := asked
            cases bound
            exact ⟨asked, path, listed, answered whole⟩
          next => exact told.texts whole id text bound
        · exact told.answers
      · let passed : List (Ident × Path) :=
          if run.progress.tag.isSome then [(binding, path)] else []
        have front : run.progress.lead tag =
            if forecast.isLed passed then [] else [forecast.lead] := by
          rw [Progress.lead, told.named tag tagged, isLed, Forecast.lead, tagged]
          cases set : run.progress.tag <;> simp [passed, set]
        have only : run.progress.scan.isStylesOnly binding =
            forecast.scan.isStylesOnly binding := by
          rw [Scan.isStylesOnly, Scan.isStylesOnly, told.styles, told.others]
        refine ⟨passed, ?_⟩
        simp only [front, only, inlined, tagged, Progress.named_isStylesOnly, told.named tag tagged]

/-- An import stays, or it makes room for its stylesheet. -/
theorem passImport (told : forecast.Told fetch sheets run)
    (steady : fetch.IsSteady forecast.plan.filename) {rules : Rules}
    (half : forecast.IsHalfway sheets rules) (declaration : Import)
    {attributes attributes' : Node}
    (listed : ∀ sheet, forecast.plan.sheet? declaration = some sheet → sheet ∈ sheets)
    (replaces : ∀ binding path content passed,
      forecast.plan.sheet? declaration = some (binding, path) →
      fetch.answers forecast.plan.filename run.world path = .ok content →
      rules.replaces declaration
        ((if forecast.isLed passed then [] else [forecast.lead]) ++
          forecast.inlined binding content))
    (inner : rules.Allows false false attributes attributes') :
    forecast.Told fetch sheets (rewriteImport forecast.plan fetch declaration attributes' run).2 ∧
      rules.AllowsItems false [.importDecl declaration attributes]
        (rewriteImport forecast.plan fetch declaration attributes' run).1 := by
  have stays : rules.AllowsItems false [.importDecl declaration attributes]
      [.importDecl declaration attributes'] :=
    ⟨_, _, .inr ⟨_, half.keeps declaration, inner, rfl⟩, rfl, rfl⟩
  rcases @rewriteImport_cases σ forecast.plan fetch declaration attributes' run with
    ⟨error, events, world, _, same⟩ | ⟨events, _, _, same⟩ |
    ⟨binding, path, content, events, _, found, answered, same⟩
  · rw [same]
    exact ⟨told.keep rfl rfl rfl nofun, stays⟩
  · rw [same]
    exact ⟨told.keep rfl rfl rfl fun whole => ⟨whole, rfl⟩, stays⟩
  · have moved : forecast.Told fetch sheets
        { run with events, world := (fetch path forecast.plan.filename run.world).2 } :=
      told.keep rfl rfl rfl fun whole => ⟨whole, steady run.world path content answered⟩
    obtain ⟨later, passed, items⟩ := moved.inline binding path content (listed _ found)
      fun whole => by rw [← told.answers whole, answered]
    rw [same, items]
    exact ⟨later, _, _, .inl (replaces binding path content passed found answered), rfl,
      (List.append_nil _).symm⟩

/-- What a substitution does with results is allowed halfway. -/
theorem absorbs (told : forecast.Told fetch sheets run) (fresh : forecast.IsFresh) {tag : Tag}
    (tagged : forecast.plan.config.tag = some tag) (active : run.failure = none)
    {rules : Rules} (half : forecast.IsHalfway sheets rules) (className base : String) :
    rules.Absorbs (Substitution.rules ⟨run.progress, className⟩ base false) := by
  have fixed : (Substitution.rules ⟨run.progress, className⟩ base false).Fixes
      (forecast.tagIdent tag) := by
    intro choice read
    cases choice with
    | none => rfl
    | some template =>
        obtain ⟨_, binding, bound, _⟩ := read
        exact absurd (told.texts active _ binding bound).1 (fresh tag).2
  refine ⟨?_, fun _ _ impossible => impossible, ?_, ?_⟩
  · intro id choice read
    rw [half.reads]
    cases choice with
    | none => exact .inl rfl
    | some template =>
        obtain ⟨name, content⟩ := template
        obtain ⟨named, binding, bound, rfl⟩ := read
        obtain ⟨asked, path, member, answered⟩ := told.texts active id binding bound
        have called : run.progress.tagIdent tag = name := by
          rw [Progress.tagIdent, named, Option.getD_some]
        refine .inr ⟨⟨tag, tagged, ?_⟩, asked, path, member, answered⟩
        rw [← told.named tag tagged, called]
  · intro id name content read
    rw [half.reads] at read
    obtain impossible | ⟨⟨other, also, rfl⟩, _⟩ := read
    · cases impossible
    · cases tagged.symm.trans also
      exact fixed
  · intro declaration items replaced results allowed
    obtain ⟨binding, path, content, passed, _, rfl⟩ := half.replaces declaration items replaced
    rw [inlined, lead, tagged] at allowed ⊢
    exact fixed.items (fun _ _ impossible => impossible) _ _ binding content allowed

/-- Styles are filled in with what is known, as far as that goes. -/
theorem fill (told : forecast.Told fetch sheets run) (fresh : forecast.IsFresh) {tag : Tag}
    (tagged : forecast.plan.config.tag = some tag) {rules : Rules}
    (half : forecast.IsHalfway sheets rules) {members middle : List Node}
    (allowed : rules.AllowsAll false false members middle) :
    forecast.Told fetch sheets (fillStyles middle run).2 ∧
      rules.AllowsAll false true members (fillStyles middle run).1 := by
  have unfilled : rules.AllowsAll false true members middle :=
    half.eases.allowsAll id (fun _ => rfl) allowed
  cases failed : run.failure with
  | some error =>
      rw [fillStyles_failed middle (by rw [failed]; rfl)]
      exact ⟨told, unfilled⟩
  | none =>
      cases called : run.progress.className with
      | none =>
          rw [fillStyles_uncalled middle called]
          exact ⟨told, unfilled⟩
      | some className =>
          obtain ⟨events, same⟩ := fillStyles_eq middle failed called
          have fills := @Substitution.fills_substituteMembers ⟨run.progress, className⟩
            forecast.plan.config.baseClass false middle {}
            fun whole => absurd whole Bool.false_ne_true
          rw [same]
          exact ⟨told.keep rfl rfl rfl fun _ => ⟨failed, rfl⟩,
            (told.absorbs fresh tagged failed half className _).fill allowed fills⟩

end Told

/-- Each step of a rewriting leaves what is known as told, and does what is allowed halfway, as long
as what stands in the place of a stylesheet is allowed. -/
theorem IsHalfway.upholds {rules : Rules} (half : forecast.IsHalfway sheets rules)
    (fits : forecast.Fits fetch)
    (replaces : ∀ world declaration binding path content passed,
      forecast.plan.sheet? declaration = some (binding, path) →
      fetch.answers forecast.plan.filename world path = .ok content →
      rules.replaces declaration
        ((if forecast.isLed passed then [] else [forecast.lead]) ++
          forecast.inlined binding content)) :
    Upholds forecast.plan fetch rules
      (fun sight => ∀ sheet, forecast.sheetAt? sight = some sheet → sheet ∈ sheets)
      (forecast.Told fetch sheets) where
  reflexive := half.isReflexive
  fills := half.fills
  called told _ := told.keep rfl rfl rfl fun whole => ⟨whole, rfl⟩
  passImport told _ declaration listed _ _ inner :=
    told.passImport fits.steady half declaration listed (replaces _ declaration) inner
  fill told tagged _ _ allowed := by
    obtain ⟨tag, tagged⟩ := Option.isSome_iff_exists.mp tagged
    exact told.fill fits.fresh tagged half allowed

/-- What items become is allowed halfway, and no more is known behind them than their stylesheets. -/
theorem halfway_items (fits : forecast.Fits fetch) (spot : Spot) (items : List Node)
    {run : Run σ} (told : forecast.Told fetch sheets run)
    (lists : forecast.Lists sheets (sightsOfItems forecast.plan.config.baseClass spot items)) :
    forecast.Told fetch sheets (rewriteItems forecast.plan fetch items run).2 ∧
      (forecast.halfway sheets).AllowsItems false items
        (rewriteItems forecast.plan fetch items run).1 :=
  ((forecast.isHalfway_halfway sheets).upholds fits
    fun _ _ binding path content passed found _ =>
      ⟨binding, path, content, passed, found, rfl⟩).items spot items told lists

end Forecast

end StyleInline
