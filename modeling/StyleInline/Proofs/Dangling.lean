import StyleInline.FileSystem.Memory
import StyleInline.Proofs.Visit

/-!
# References that are left

A stylesheet that is read in styles alone is declared no more.  The references to it that are left
are those that the scan and the filling of styles see differently: names of elements, and what is
read in a styles member beside its value or its body.
-/

namespace StyleInline

open Script Rewrite

namespace Sight

/-- A binding is referred to where neither the scan nor the filling of styles looks. -/
def Escapes (id : Ident) (sight : Sight) : Prop :=
  (∃ spot, sight = .name spot .element id) ∨ (sight.read? = some id ∧ sight.spot.place = .beside)

def mentions (id : Ident) (sight : Sight) : List Unit :=
  if sight.mention? = some id then [()] else []

/-- A binding is referred to here, and it is not read where styles are filled in. -/
def mentionsBeside (id : Ident) (sight : Sight) : List Unit :=
  if sight.read? = some id ∧ sight.spot.place = .filled then [] else sight.mentions id

theorem mem_mentions {id : Ident} {sight : Sight} :
    () ∈ sight.mentions id ↔ sight.mention? = some id := by
  rw [mentions]
  split <;> simp_all

theorem mem_mentionsBeside {id : Ident} {sight : Sight} :
    () ∈ sight.mentionsBeside id ↔
      sight.mention? = some id ∧ ¬ (sight.read? = some id ∧ sight.spot.place = .filled) := by
  rw [mentionsBeside]
  split
  next filled => simp [filled]
  next other => simp [mem_mentions, other]

end Sight

namespace Forecast

/-- References to a stylesheet are found in a result where they were before, but where styles are
filled in and in the attributes of imports that made room. -/
theorem traces_mentions {forecast : Forecast} (fresh : forecast.IsFresh)
    {sheets : List (Ident × Path)} {tag : Tag} (tagged : forecast.plan.config.tag = some tag)
    {id : Ident} (imported : id ∈ forecast.scan.styleImports) :
    (forecast.rules sheets).Traces forecast.plan.config.baseClass forecast.isSheet
      (Sight.mentions id) (Sight.mentionsBeside id) := by
  have other : forecast.tagIdent tag ≠ id := by
    rintro rfl
    exact (fresh tag).1 imported
  have untagged (spot : Spot) :
      Sight.mentions id (.name spot .use (forecast.tagIdent tag)) = [] := by
    simp [Sight.mentions, Sight.mention?, other]
  refine ⟨?_, ?_, ?_, fun _ _ _ => ?_, fun _ _ _ => rfl, fun _ _ _ kept => ⟨kept, rfl⟩, ?_,
    fun _ _ _ => ⟨rfl, rfl⟩⟩
  · funext parent
    simp [rules, isMatching, tagged]
  · intro spot spot' role binding kept
    rw [Sight.mentionsBeside, if_neg]
    · rfl
    · rintro ⟨read, filled⟩
      rw [Sight.read?] at read
      split at read
      next reads =>
        cases read
        exact kept filled reads imported
      next => cases read
  · rintro spot spot' role binding name content filled read ⟨⟨also, same, rfl⟩, _⟩
    cases tagged.symm.trans same
    rw [untagged, Sight.mentionsBeside]
    split
    next => rfl
    next unread =>
      have differs : binding ≠ id := by
        rintro rfl
        exact unread ⟨by rw [Sight.read?, if_pos read], filled⟩
      simp [Sight.mentions, Sight.mention?, differs]
  · rw [Sight.mentionsBeside, if_neg (by rintro ⟨⟨⟩, _⟩)]
    rfl
  · rintro spot spot' declaration items ⟨binding, path, content, found, _, rfl⟩
    refine ⟨by rw [isSheet, found]; rfl, ?_⟩
    rw [inlined, tagged]
    dsimp only
    split
    · rfl
    · have bound : Sight.mentions id (.name spot' .bind binding) = [] := rfl
      rw [Rules.sightsOfItems_constant, List.flatMap_cons, bound, List.flatMap_singleton, untagged]
      rfl

/-- A stylesheet that is read in styles alone is referred to elsewhere only where the reference
escapes. -/
theorem mentionsBeside_iff {plan : Plan} {module : Module}
    {answer : Path → Except InlineError String} {id : Ident}
    (only : (ofModule plan module answer).scan.isStylesOnly id = true) {sight : Sight}
    (member : sight ∈ (ofModule plan module answer).seenIn module) :
    () ∈ sight.mentionsBeside id ↔ sight.Escapes id := by
  rw [Sight.mem_mentionsBeside]
  have records := (Scan.records_ofModule plan.query module).others id
  have unread : ¬ sight.ReadsElsewhere id := by
    intro elsewhere
    have recorded := records.mpr (.inr ⟨sight, member, elsewhere⟩)
    simp only [Scan.isStylesOnly, Bool.and_eq_true, Bool.not_eq_true'] at only
    have unrecorded := only.2
    rw [List.contains_eq_mem, decide_eq_false_iff_not] at unrecorded
    exact unrecorded recorded
  cases sight with
  | name spot role other =>
      cases role with
      | use | shorthand =>
          simp only [Sight.mention?, Sight.read?, Role.reads, Bool.true_or, ↓reduceIte,
            Option.some.injEq, Sight.Escapes, Sight.name.injEq, reduceCtorEq, false_and, and_false,
            exists_false, false_or, Sight.spot]
          constructor
          · rintro ⟨same, unfilled⟩
            cases place : spot.place with
            | outside => exact absurd (.inl ⟨congrArg some same, place⟩) unread
            | beside => exact ⟨same, rfl⟩
            | filled => exact absurd ⟨same, place⟩ unfilled
          · rintro ⟨same, beside⟩
            simp [same, beside]
      | bind | plain => simp [Sight.mention?, Sight.read?, Role.reads, Sight.Escapes]
      | element => simp [Sight.mention?, Sight.read?, Role.reads, Sight.Escapes]
  | exported spot other =>
      have differs : other ≠ id := by
        rintro rfl
        exact unread (.inr ⟨spot, rfl⟩)
      simp [Sight.mention?, Sight.read?, Sight.Escapes, differs]
  | imported spot declaration isItem => simp [Sight.mention?, Sight.read?, Sight.Escapes]
  | styled spot head members => simp [Sight.mention?, Sight.read?, Sight.Escapes]

end Forecast

/-- A module that was compiled without a failure refers to a stylesheet that is read in styles alone
exactly where the reference escaped in the module before. -/
theorem compile_stylesOnly {τ : Type} (config : Config) (filename : Path) (files : FileSystem)
    (tracker : Tracker τ) (systems : Systems) (module : Module) (registrations : τ)
    (world : Fetcher.World)
    (success : (compile config filename files tracker (Fetcher.fetch systems) module registrations
      world).failure = none) (tagged : config.tag.isSome = true) :
    let compiled :=
      compile config filename files tracker (Fetcher.fetch systems) module registrations world
    let forecast :=
      Forecast.ofModule (Visitor.ofConfig config filename files).plan module
        ((Fetcher.fetch systems).answers filename world)
    ∀ id ∈ forecast.scan.styleImports, forecast.scan.isStylesOnly id = true →
      ((∃ sight ∈ forecast.seenIn compiled.module, sight.mention? = some id) ↔
        ∃ sight ∈ forecast.seenIn module, sight.Escapes id ∧
          ∀ host ∈ sight.spot.hosts, forecast.isSheet host = false) := by
  intro compiled forecast id imported only
  obtain ⟨_, allowed⟩ := allowed_of_compile success forecast rfl
  obtain ⟨tag, tagged⟩ := Option.isSome_iff_exists.mp tagged
  have fresh : forecast.IsFresh := Forecast.isFresh_ofModule _ module _
  have traced := (Forecast.traces_mentions fresh tagged imported).items {} (by simp) rfl allowed {}
  have announced :
      Rules.left forecast.isSheet (Sight.mentionsBeside id)
          (sightsOfItems forecast.plan.config.baseClass {} (forecast.announced module)) =
        Rules.left forecast.isSheet (Sight.mentionsBeside id) (forecast.seenIn module) := by
    rw [Forecast.announced_of_tagged tagged]
    refine (announced_sightsOfItems _ {} module.items false).rest _ (fun spot => ?_)
      fun spot head members => ?_
    · split
      · rfl
      · simp [Sight.mentionsBeside, Sight.mentions, Sight.mention?, Sight.read?]
    · split
      · rfl
      · simp [Sight.mentionsBeside, Sight.mentions, Sight.mention?, Sight.read?]
  have found : (forecast.seenIn compiled.module).flatMap (Sight.mentions id) =
      Rules.left forecast.isSheet (Sight.mentionsBeside id) (forecast.seenIn module) :=
    traced.trans announced
  have after : (∃ sight ∈ forecast.seenIn compiled.module, sight.mention? = some id) ↔
      () ∈ (forecast.seenIn compiled.module).flatMap (Sight.mentions id) := by
    simp only [List.mem_flatMap, Sight.mem_mentions]
  rw [after, found, Rules.left_eq_flatMap_filter, List.mem_flatMap]
  refine exists_congr fun sight => ?_
  rw [List.mem_filter, and_assoc]
  refine and_congr_right fun member => ?_
  rw [Forecast.mentionsBeside_iff only member, Bool.not_eq_true', and_comm]
  simp only [List.any_eq_false, Bool.not_eq_true]

/-- A stylesheet that names an element besides. -/
theorem compile_stylesOnly_element :
    let id : Ident := ⟨"A", .declared 0⟩
    let styles : Node :=
      .member ⟨.field, true, [], [], ""⟩ (.form (.key "styles") []) [] (.ident .use id) []
    let element : Node :=
      .form (.element true) [.ident .element id, .group [], .absent, .group [], .absent]
    let config : Config := { tag := some ⟨"css", "lit"⟩ }
    let files := Memory.fileSystem { entries := [(⟨"/a.css"⟩, .file ".a {}" 0)] }
    let module : Module := ⟨none,
      [.importDecl ⟨.evaluation, false, [.default id], ⟨"./a.css", none⟩, false⟩ .absent,
        .classNode ⟨true, false, false, some ⟨"X", .declared 0⟩⟩ [] [styles]
          (.ident .use ⟨"LitElement", .free⟩) [],
        .form .expression [element]]⟩
    let compiled := compile config ⟨"/index.js"⟩ files (@Tracker.tracing Unit)
      (Fetcher.fetch fun _ => files) module () (⟨0, .disabled, none⟩, {})
    compiled.failure = none ∧ config.tag.isSome = true ∧
      ∃ sight ∈ sightsOfItems config.baseClass {} compiled.module.items,
        sight.mention? = some id := by
  intro id styles element config files module compiled
  have success : compiled.failure = none := by decide +kernel
  have mentions := compile_stylesOnly _ _ _ _ _ _ _ _ success rfl id (by decide +kernel)
    (by decide +kernel)
  refine ⟨success, rfl, mentions.mpr ⟨.name {} .element id, ?_, .inl ⟨{}, rfl⟩, nofun⟩⟩
  exact List.mem_append_right _ (List.mem_cons_of_mem _
    (List.mem_append_right _ (List.mem_cons_self ..)))

end StyleInline
