import StyleInline.Proofs.Tagging

/-!
# Hygiene of the tag

The name of the tag is borne by nothing else in a module, and the tag is imported at most once.  It
is imported by an item of the module, in front of everything that bears its name, unless it gets its
name inside of an item.
-/

namespace StyleInline

open Script Rewrite

open Substitution (identsOf identsOfAll)

variable {σ : Type}

/-- The tag is imported by one of the items, in front of all that bears its name, and only there. -/
def IsIntroduced (base : String) (tag : Tag) (name : Ident) (items : List Node) : Prop :=
  ∃ before after, items = before ++ Emit.tagImport name tag :: after ∧
    (∀ id ∈ identsOfAll before, id.name ≠ name.name) ∧
    countImports (Emit.tagDeclaration name tag) (sightsOfItems base {} after) = 0

/-- The tag gets its name inside of an item. -/
def IsNamedInside (plan : Plan) (fetch : Fetch σ) (items : List Node) (run : Run σ) : Prop :=
  ∃ before item after, items = before ++ item :: after ∧
    (rewriteItems plan fetch before run).2.progress.tag = none ∧
    (rewriteNode plan fetch item (rewriteItems plan fetch before run).2).2.progress.tag ≠ none

/-- The first stylesheet is not imported by an item, but somewhere inside of one. -/
def IsNestedFirst (plan : Plan) (items : List Node) : Prop :=
  ∃ before item after, items = before ++ item :: after ∧
    (∀ sight ∈ sightsOfItems plan.config.baseClass {} before, ¬ IsSheetSight plan sight) ∧
    ∃ sight ∈ sights plan.config.baseClass {} false item, IsSheetSight plan sight

/-- An item that imports is seen among the items. -/
theorem imported_of_mem {base : String} {spot : Spot} {declaration : Import} {attributes : Node}
    {items : List Node} (member : .importDecl declaration attributes ∈ items) :
    .imported spot declaration true ∈ sightsOfItems base spot items := by
  obtain ⟨before, after, rfl⟩ := List.append_of_mem member
  rw [sightsOfItems_append, sightsOfItems]
  exact List.mem_append_right _ (List.mem_append_right _ (List.mem_cons_self ..))

section Items

variable {plan : Plan} {fetch : Fetch σ} {tag : Tag} {name : Ident} {run : Run σ}

/-- If the tag gets its name, it gets it at one of the items. -/
theorem exists_naming (items : List Node) (unset : run.progress.tag = none)
    (set : (rewriteItems plan fetch items run).2.progress.tag ≠ none) :
    ∃ before item after, items = before ++ item :: after ∧
      (rewriteItems plan fetch before run).2.progress.tag = none ∧
      (rewriteItems plan fetch (before ++ [item]) run).2.progress.tag ≠ none := by
  induction items generalizing run with
  | nil => exact absurd unset set
  | cons item rest ih =>
      by_cases still : (rewriteItems plan fetch [item] run).2.progress.tag = none
      · rw [← List.singleton_append, rewriteItems_append] at set
        obtain ⟨before, other, after, rfl, unset, named⟩ := ih still set
        refine ⟨item :: before, other, after, rfl, ?_, ?_⟩
        · rw [← List.singleton_append, rewriteItems_append]
          exact unset
        · rw [List.cons_append, ← List.singleton_append, rewriteItems_append]
          exact named
      · exact ⟨[], item, rest, rfl, unset, still⟩

/-- An item that gives the tag its name, although nothing inside of it does, has the tag imported in
its place first. -/
theorem introduced_of_naming (tagged : plan.config.tag = some tag) {item : Node}
    (unborne : name ∉ identsOf item) (hygienic : Hygienic tag name run)
    (active : run.failure = none)
    (still : (rewriteNode plan fetch item run).2.progress.tag = none)
    (set : (rewriteItems plan fetch [item] run).2.progress.tag ≠ none) :
    ∃ constants, (rewriteItems plan fetch [item] run).1 = Emit.tagImport name tag :: constants ∧
      countImports (Emit.tagDeclaration name tag)
        (sightsOfItems plan.config.baseClass {} constants) = 0 := by
  rcases item.isImport_or with ⟨declaration, attributes, rfl⟩ | plain
  · rw [rewriteItems_importDecl run declaration attributes [] active] at set ⊢
    have named := (clean_node fetch tagged attributes
      (fun borne => unborne (List.mem_append_right _ borne)) hygienic).hygienic.named
    replace still : (rewriteNode plan fetch attributes run).2.progress.tag = none := still
    rcases rewriteImport_tagged fetch tagged declaration
      (rewriteNode plan fetch attributes run).1 (rewriteNode plan fetch attributes run).2 with
      ⟨_, progress, _⟩ | ⟨binding, path, content, isOnly, _, same, _⟩
    · exact absurd ((congrArg Progress.tag progress).trans still) set
    · dsimp only
      rw [same, Progress.lead, still, named]
      refine ⟨_, rfl, ?_⟩
      exact (congrArg _ (congrArg _ (List.append_nil _))).trans
        (countImports_constants _ _ _ isOnly binding name content)
  · rw [rewriteItems_cons run [] active plain] at set
    exact absurd still set

/-- An item that gives the tag its name inside of it has no import of the tag in its place. -/
theorem not_mem_of_named (tagged : plan.config.tag = some tag) {item : Node}
    (unborne : name ∉ identsOf item) (hygienic : Hygienic tag name run)
    (active : run.failure = none)
    (set : (rewriteNode plan fetch item run).2.progress.tag ≠ none) :
    Emit.tagImport name tag ∉ (rewriteItems plan fetch [item] run).1 := by
  rcases item.isImport_or with ⟨declaration, attributes, rfl⟩ | plain
  · rw [rewriteItems_importDecl run declaration attributes [] active]
    have other (attributes : Node) :
        Emit.tagImport name tag ∉ [Node.importDecl declaration attributes] := by
      intro member
      cases List.mem_singleton.mp member
      exact unborne (by simp [identsOf, Scan.idsOfImport])
    replace set : (rewriteNode plan fetch attributes run).2.progress.tag ≠ none := set
    rcases rewriteImport_tagged fetch tagged declaration
      (rewriteNode plan fetch attributes run).1 (rewriteNode plan fetch attributes run).2 with
      ⟨same, _, _⟩ | ⟨binding, path, content, isOnly, _, same, _⟩
    · dsimp only
      rw [same]
      exact other _
    · dsimp only
      rw [same, Progress.lead, if_pos (Option.isSome_iff_ne_none.mpr set)]
      intro member
      cases isOnly with
      | true => cases member
      | false => cases List.mem_singleton.mp member
  · rw [rewriteItems_cons run [] active plain]
    have first := clean_node fetch tagged item unborne hygienic
    intro member
    exact Rules.plain_of_allows plain first.allowed _ _ (List.mem_singleton.mp member).symm

theorem identsOfAll_append (first second : List Node) :
    identsOfAll (first ++ second) = identsOfAll first ++ identsOfAll second := by
  induction first with
  | nil => rfl
  | cons node rest ih => rw [List.cons_append, identsOfAll, ih, identsOfAll, List.append_assoc]

theorem mem_identsOfAll {node : Node} {nodes : List Node} {id : Ident} (member : node ∈ nodes)
    (borne : id ∈ identsOf node) : id ∈ identsOfAll nodes := by
  obtain ⟨before, after, rfl⟩ := List.append_of_mem member
  rw [identsOfAll_append, identsOfAll]
  exact List.mem_append_right _ (List.mem_append_left _ borne)

/-- Items that are rewritten before the tag has a name, the one that gives it its name, and the
items behind it. -/
theorem rewriteItems_naming (tagged : plan.config.tag = some tag) {before after : List Node}
    {item : Node} (unborne : name ∉ identsOfAll (before ++ item :: after))
    (hygienic : Hygienic tag name run)
    (unset : (rewriteItems plan fetch before run).2.progress.tag = none)
    (set : (rewriteItems plan fetch (before ++ [item]) run).2.progress.tag ≠ none) :
    ∃ run' behind, Hygienic tag name run' ∧ run'.failure = none ∧ run'.progress.tag = none ∧
      run' = (rewriteItems plan fetch before run).2 ∧
      (rewriteItems plan fetch [item] run').2.progress.tag ≠ none ∧
      (rewriteItems plan fetch (before ++ item :: after) run).1 =
        before ++ ((rewriteItems plan fetch [item] run').1 ++ behind) ∧
      countImports (Emit.tagDeclaration name tag)
        (sightsOfItems plan.config.baseClass {} behind) = 0 := by
  rw [identsOfAll_append, identsOfAll, List.mem_append, List.mem_append, not_or, not_or] at unborne
  obtain ⟨ofBefore, ofItem, ofAfter⟩ := unborne
  have first := clean_items fetch tagged before ofBefore hygienic
  have second :=
    clean_items fetch tagged [item] (by simpa [identsOfAll] using ofItem) first.hygienic
  have third := clean_items fetch tagged after ofAfter second.hygienic
  rw [rewriteItems_append] at set
  refine ⟨_, (rewriteItems plan fetch after
    (rewriteItems plan fetch [item] (rewriteItems plan fetch before run).2).2).1, first.hygienic,
    ?_, unset, rfl, set, ?_, ?_⟩
  · by_contra failed
    simp only [rewriteItems_failed _ [item] (Option.isSome_iff_ne_none.mpr failed)] at set
    exact set unset
  · rw [← List.singleton_append]
    simp only [rewriteItems_append before, rewriteItems_append [item]]
    rw [first.same unset]
  · have once : countImports (Emit.tagDeclaration name tag) (sightsOfItems _ {} _) + _ ≤ _ :=
      (third.accounts {} false {} false).once
    have named (run : Run σ) (set : run.progress.tag ≠ none) : run.progress.tag.isSome = true :=
      Option.isSome_iff_ne_none.mpr set
    rw [named _ set] at once
    have bound := Bool.toNat_le (rewriteItems plan fetch after (rewriteItems plan fetch [item]
      (rewriteItems plan fetch before run).2).2).2.progress.tag.isSome
    rw [Bool.toNat_true] at once
    omega

/-- The tag keeps the name that it gets inside of an item. -/
theorem naming_of_named (tagged : plan.config.tag = some tag) {item : Node}
    (unset : run.progress.tag = none)
    (set : (rewriteNode plan fetch item run).2.progress.tag ≠ none) :
    (rewriteItems plan fetch [item] run).2.progress.tag ≠ none := by
  have active : run.failure = none := by
    by_contra failed
    rw [rewriteNode_failed item run (Option.isSome_iff_ne_none.mpr failed)] at set
    exact set unset
  rcases item.isImport_or with ⟨declaration, attributes, rfl⟩ | plain
  · rw [rewriteItems_importDecl run declaration attributes [] active]
    rcases rewriteImport_tagged fetch tagged declaration
      (rewriteNode plan fetch attributes run).1 (rewriteNode plan fetch attributes run).2 with
      ⟨_, progress, _⟩ | ⟨binding, path, content, _, _, _, progress⟩
    · exact (congrArg Progress.tag progress).trans_ne set
    · refine (congrArg Progress.tag progress).trans_ne ?_
      rw [Progress.knowing_tag, Progress.named_tag]
      nofun
  · rw [rewriteItems_cons run [] active plain]
    exact set

/-- If the tag gets its name, then it is imported by an item in front of all that bears the name,
unless it gets its name inside of an item. -/
theorem isIntroduced_iff (tagged : plan.config.tag = some tag) {items : List Node}
    (unborne : ∀ id ∈ identsOfAll items, id.name ≠ name.name) (hygienic : Hygienic tag name run)
    (unset : run.progress.tag = none)
    (set : (rewriteItems plan fetch items run).2.progress.tag ≠ none) :
    IsIntroduced plan.config.baseClass tag name (rewriteItems plan fetch items run).1 ↔
      ¬ IsNamedInside plan fetch items run := by
  have other : name ∉ identsOfAll items := fun borne => unborne name borne rfl
  constructor
  · rintro ⟨front, back, same, _⟩ ⟨before, item, after, rfl, still, named⟩
    have naming : (rewriteItems plan fetch (before ++ [item]) run).2.progress.tag ≠ none := by
      rw [rewriteItems_append]
      exact naming_of_named tagged still named
    obtain ⟨run', behind, fresh, active, _, rfl, _, result, free⟩ :=
      rewriteItems_naming tagged other hygienic still naming
    simp only [identsOfAll_append, identsOfAll, List.mem_append, not_or] at other
    have member : Emit.tagImport name tag ∈
        before ++ ((rewriteItems plan fetch [item]
          (rewriteItems plan fetch before run).2).1 ++ behind) := by
      rw [← result, same]
      exact List.mem_append_right _ (List.mem_cons_self ..)
    rcases List.mem_append.mp member with inside | inside
    · refine other.1 (mem_identsOfAll inside ?_)
      simp [identsOf, Scan.idsOfImport, Emit.tagDeclaration, Emit.tagImport_eq]
    · rcases List.mem_append.mp inside with inside | inside
      · exact not_mem_of_named tagged other.2.1 fresh active named inside
      · exact (countImports_eq_zero_iff _ _).mp free _ (imported_of_mem inside)
  · intro outside
    obtain ⟨before, item, after, rfl, still, named⟩ := exists_naming items unset set
    obtain ⟨run', behind, fresh, active, without, rfl, naming, result, free⟩ :=
      rewriteItems_naming tagged other hygienic still named
    have inside :
        (rewriteNode plan fetch item (rewriteItems plan fetch before run).2).2.progress.tag =
          none := by
      by_contra named
      exact outside ⟨before, item, after, rfl, still, named⟩
    simp only [identsOfAll_append, identsOfAll, List.mem_append, not_or] at other unborne
    obtain ⟨constants, first, plain⟩ :=
      introduced_of_naming tagged other.2.1 fresh active inside naming
    refine ⟨before, constants ++ behind, ?_, fun id member => unborne id (.inl member), ?_⟩
    · rw [result, first, List.cons_append]
    · rw [sightsOfItems_append, countImports_append, plain, free]

/-- A tag that gets its name inside of an item gets it at a stylesheet there. -/
theorem IsNamedInside.sheet (tagged : plan.config.tag = some tag) {items : List Node}
    (unborne : name ∉ identsOfAll items) (hygienic : Hygienic tag name run)
    (inside : IsNamedInside plan fetch items run) :
    ∃ item ∈ items, ∃ sight ∈ sights plan.config.baseClass {} false item,
      IsSheetSight plan sight := by
  obtain ⟨before, item, after, rfl, unset, set⟩ := inside
  simp only [identsOfAll_append, identsOfAll, List.mem_append, not_or] at unborne
  have first := clean_items fetch tagged before unborne.1 hygienic
  have second := clean_node fetch tagged item unborne.2.1 first.hygienic
  exact ⟨item, List.mem_append_right _ (List.mem_cons_self ..),
    (second.accounts {} false {} false).asked unset set⟩

theorem active_of_rewriteItems {items : List Node} {run : Run σ}
    (active : (rewriteItems plan fetch items run).2.failure = none) : run.failure = none := by
  by_contra failed
  rw [rewriteItems_failed run items (Option.isSome_iff_ne_none.mpr failed)] at active
  exact failed active

/-- An item has been rewritten without a failure if nothing has failed behind it. -/
theorem active_of_rewriteItems_cons {item : Node} {rest : List Node}
    (active : (rewriteItems plan fetch (item :: rest) run).2.failure = none) :
    (rewriteNode plan fetch item run).2.failure = none := by
  have start := active_of_rewriteItems active
  rcases item.isImport_or with ⟨declaration, attributes, rfl⟩ | plain
  · rw [rewriteItems_importDecl run declaration attributes rest start] at active
    have middle := active_of_rewriteItems active
    rw [rewriteImport_failure] at middle
    exact (Option.or_eq_none_iff.mp middle).2
  · rw [rewriteItems_cons run rest start plain] at active
    exact active_of_rewriteItems active

/-- Without a failure the tag gets its name inside of an item if the first stylesheet is imported
there. -/
theorem isNamedInside_iff (tagged : plan.config.tag = some tag) {items : List Node}
    (unborne : name ∉ identsOfAll items) (hygienic : Hygienic tag name run)
    (unset : run.progress.tag = none)
    (active : (rewriteItems plan fetch items run).2.failure = none) :
    IsNamedInside plan fetch items run ↔ IsNestedFirst plan items := by
  have parts {before after : List Node} {item : Node} (same : items = before ++ item :: after) :
      Clean plan tag name (.items plan.config.baseClass) run before
          (rewriteItems plan fetch before run) ∧
        (rewriteItems plan fetch before run).2.failure = none ∧
        Clean plan tag name (.node plan.config.baseClass)
          (rewriteItems plan fetch before run).2 item
          (rewriteNode plan fetch item (rewriteItems plan fetch before run).2) ∧
        (rewriteNode plan fetch item (rewriteItems plan fetch before run).2).2.failure = none := by
    subst same
    simp only [identsOfAll_append, identsOfAll, List.mem_append, not_or] at unborne
    rw [rewriteItems_append] at active
    have first := clean_items fetch tagged before unborne.1 hygienic
    exact ⟨first, active_of_rewriteItems active,
      clean_node fetch tagged item unborne.2.1 first.hygienic, active_of_rewriteItems_cons active⟩
  constructor
  · rintro ⟨before, item, after, same, still, set⟩
    obtain ⟨first, whole, second, _⟩ := parts same
    exact ⟨before, item, after, same, (first.accounts {} false {} false).met whole still,
      (second.accounts {} false {} false).asked still set⟩
  · rintro ⟨before, item, after, same, none, sight, member, sheet⟩
    obtain ⟨first, _, second, whole⟩ := parts same
    refine ⟨before, item, after, same, ?_, fun still => ?_⟩
    · by_contra set
      obtain ⟨sight, member, sheet⟩ := (first.accounts {} false {} false).asked unset set
      exact none sight member sheet
    · exact (second.accounts {} false {} false).met whole still sight member sheet

end Items

namespace Visitor

/-- Where a visit of a module starts. -/
def start (visitor : Visitor) (module : Module) (world : σ) : Run σ :=
  ⟨{ scan := Scan.ofModule visitor.plan.query module }, visitor.failure, [], world⟩

theorem visit_eq (visitor : Visitor) (fetch : Fetch σ) (module : Module) (world : σ) :
    visitor.visit fetch module world =
      let step := rewriteItems visitor.plan fetch module.items (visitor.start module world)
      { module := { module with items := step.1 }
        visitor := { visitor with progress := {}, failure := step.2.failure }
        events := step.2.events
        world := step.2.world } := rfl

/-- However a visit ends, it puts in nothing but a name that is new to the module, and imports it at
most once; without an import of it nothing is changed.  If the tag gets its name, it is imported by
an item in front of all that bears the name, unless the first stylesheet is imported inside of an
item. -/
theorem visit_hygiene (visitor : Visitor) (fetch : Fetch σ) (module : Module) (world : σ)
    (tag : Tag) (tagged : visitor.plan.config.tag = some tag) :
    let name : Ident :=
      ⟨(Scan.ofModule visitor.plan.query module).freshName tag.localName, .unscoped⟩
    let base := visitor.plan.config.baseClass
    let result := visitor.visit fetch module world
    let run := visitor.start module world
    let final := (rewriteItems visitor.plan fetch module.items run).2
    (∀ id ∈ identsOfAll module.items, id.name ≠ name.name) ∧
      (Rules.tagged visitor.plan tag name).AllowsItems false module.items result.module.items ∧
      countImports (Emit.tagDeclaration name tag) (sightsOfItems base {} result.module.items) ≤ 1 ∧
      (final.progress.tag = none → result.module.items = module.items) ∧
      (final.progress.tag ≠ none →
        (IsIntroduced base tag name result.module.items ↔
          ¬ IsNamedInside visitor.plan fetch module.items run)) ∧
      (IsNamedInside visitor.plan fetch module.items run →
        ∃ item ∈ module.items, ∃ sight ∈ sights base {} false item,
          IsSheetSight visitor.plan sight) ∧
      (result.visitor.failure = none →
        (IsNamedInside visitor.plan fetch module.items run ↔
          IsNestedFirst visitor.plan module.items)) := by
  intro name base result run final
  have fresh : ∀ id ∈ identsOfAll module.items, id.name ≠ name.name := fun id member =>
    Scan.freshName_ne visitor.plan.query module tag.localName member
  have unborne : name ∉ identsOfAll module.items := fun borne => fresh name borne rfl
  have hygienic : Hygienic tag name run := ⟨rfl, rfl⟩
  have clean := clean_items fetch tagged module.items unborne hygienic
  refine ⟨fresh, clean.allowed, ?_, clean.same, isIntroduced_iff tagged fresh hygienic rfl,
    IsNamedInside.sheet tagged unborne hygienic, isNamedInside_iff tagged unborne hygienic rfl⟩
  exact Nat.le_trans (Nat.le_add_right _ _)
    (Nat.le_trans (clean.accounts {} false {} false).once (Bool.toNat_le _))

/-- One stylesheet, imported by an item. -/
theorem visit_hygiene_item :
    let tag : Tag := ⟨"css", "lit"⟩
    let visitor : Visitor := { plan := ⟨{ tag := some tag }, ⟨"/index.js"⟩, ⟨"/"⟩⟩ }
    let fetch : Fetch Unit := fun _ _ world => (⟨.ok ".a {}", []⟩, world)
    let module : Module :=
      ⟨none, [.importDecl
        ⟨.evaluation, false, [.default ⟨"a", .declared 0⟩], ⟨"./a.css", none⟩, false⟩ .absent]⟩
    visitor.plan.config.tag = some tag ∧
      ∃ name, IsIntroduced "LitElement" tag name (visitor.visit fetch module ()).module.items := by
  intro tag visitor fetch module
  obtain ⟨_, _, _, _, introduced, inside, _⟩ := visitor.visit_hygiene fetch module () tag rfl
  refine ⟨rfl, _, (introduced (by decide +kernel)).mpr fun named => ?_⟩
  obtain ⟨item, member, sight, seen, spot, declaration, rfl, _⟩ := inside named
  cases List.mem_singleton.mp member
  cases List.mem_singleton.mp seen

end Visitor

end StyleInline
