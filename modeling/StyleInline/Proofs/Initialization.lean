import StyleInline.FileSystem.Memory
import StyleInline.Proofs.Precedence
import StyleInline.Proofs.Rules.Weakening
import StyleInline.Proofs.Visit

/-!
# When constants are initialised

A constant stands where its import stood.  The import was initialised before anything of the module
ran and the constant is not, so what ran before the import and needed the stylesheet still runs, and
finds nothing; only what was put into the styles of classes is found.
-/

namespace StyleInline

open Script Node

namespace Rules

/-- Rules by which an item may stand in front of what replaces an import. -/
def led (rules : Rules) (lead : Node) : Rules where
  fills := rules.fills
  keeps := rules.keeps
  replaces declaration items :=
    ∃ rest, rules.replaces declaration rest ∧ (items = rest ∨ items = lead :: rest)
  reads := rules.reads

section Led

variable {rules : Rules} {asks : Import → Bool} {lead : Import}

/-- The lead stays, and the imports that ask for it do not. -/
structure Leaves (rules : Rules) (asks : Import → Bool) (lead : Import) : Prop where
  fills : ∀ parent put,
    rules.fills (announce asks (.importDecl lead .absent) parent put).1 = rules.fills parent
  asked : ∀ declaration, asks declaration = true → ¬ rules.keeps declaration
  stays : ∀ items, ¬ rules.replaces lead items

mutual

/-- What may stand in the place of an announced node may stand in the place of the node, with the
lead in front of what replaces an import. -/
theorem Leaves.allows (leaves : rules.Leaves asks lead) {inStyles isStyles : Bool}
    {node result : Node} {put : Bool}
    (allowed : rules.Allows inStyles isStyles
      (announce asks (.importDecl lead .absent) node put).1 result) :
    (rules.led (.importDecl lead .absent)).Allows inStyles isStyles node result := by
  cases node with
  | ident role id => exact allowed
  | importDecl declaration attributes | exportNames declaration attributes =>
      obtain ⟨inner, inside, rfl⟩ := allowed
      exact ⟨inner, leaves.allows inside, rfl⟩
  | classNode head decorators members parent rest =>
      rw [announce_classNode] at allowed
      obtain ⟨_, _, _, _, first, second, third, fourth, rfl⟩ := allowed
      rw [leaves.fills] at second
      exact ⟨_, _, _, _, leaves.allowsAll first, leaves.allowsAll second, leaves.allows third,
        leaves.allowsAll fourth, rfl⟩
  | member head key front core back =>
      rw [announce_member] at allowed
      obtain ⟨_, _, _, _, first, second, third, fourth, rfl⟩ := allowed
      exact ⟨_, _, _, _, leaves.allows first, leaves.allowsAll second, leaves.allows third,
        leaves.allowsAll fourth, rfl⟩
  | items body =>
      rw [announce_items] at allowed
      obtain ⟨inner, inside, rfl⟩ := allowed
      exact ⟨inner, leaves.allowsItems inside, rfl⟩
  | form shape parts =>
      rw [announce_form] at allowed
      obtain ⟨inner, inside, rfl⟩ := allowed
      exact ⟨inner, leaves.allowsAll inside, rfl⟩
termination_by node.weight
decreasing_by all_goals (subst_vars; simp only [Node.weight]; omega)

theorem Leaves.allowsAll (leaves : rules.Leaves asks lead) {inStyles matching : Bool}
    {nodes results : List Node} {put : Bool}
    (allowed : rules.AllowsAll inStyles matching
      (announceAll asks (.importDecl lead .absent) nodes put).1 results) :
    (rules.led (.importDecl lead .absent)).AllowsAll inStyles matching nodes results := by
  cases nodes with
  | nil => exact allowed
  | cons node rest =>
      rw [announceAll_cons] at allowed
      obtain ⟨_, _, first, others, rfl⟩ := allowed
      rw [isStylesMember_announce] at first
      exact ⟨_, _, leaves.allows first, leaves.allowsAll others, rfl⟩
termination_by Node.weightOf nodes
decreasing_by all_goals (subst_vars; simp only [Node.weightOf]; omega)

theorem Leaves.allowsItems (leaves : rules.Leaves asks lead) {inStyles : Bool}
    {items results : List Node} {put : Bool}
    (allowed : rules.AllowsItems inStyles
      (announceItems asks (.importDecl lead .absent) items put).1 results) :
    (rules.led (.importDecl lead .absent)).AllowsItems inStyles items results := by
  cases items with
  | nil => exact allowed
  | cons item rest =>
      rcases item.isImport_or with ⟨declaration, attributes, rfl⟩ | plain
      · rw [announceItems_importDecl] at allowed
        dsimp only at allowed
        split at allowed
        next asked =>
          have unkept := leaves.asked declaration (Bool.and_eq_true_iff.mp asked).1
          obtain ⟨_, _, replaced | ⟨_, _, nothing, rfl⟩, later, rfl⟩ := allowed
          · exact absurd replaced (leaves.stays _)
          obtain ⟨_, rfl, rfl⟩ := nothing
          obtain ⟨first, others, replaced | ⟨_, kept, _⟩, behind, rfl⟩ := later
          · exact ⟨_, others, .inl ⟨first, replaced, .inr rfl⟩, leaves.allowsItems behind, rfl⟩
          · exact absurd kept unkept
        next =>
          obtain ⟨first, others, replaced | ⟨inner, kept, inside, rfl⟩, behind, rfl⟩ := allowed
          · exact ⟨_, others, .inl ⟨first, replaced, .inl rfl⟩, leaves.allowsItems behind, rfl⟩
          · exact ⟨_, others, .inr ⟨inner, kept, leaves.allows inside, rfl⟩,
              leaves.allowsItems behind, rfl⟩
      · rw [announceItems_cons _ _ _ _ plain] at allowed
        rw [allowsItems_cons (announce_plain _ _ _ plain)] at allowed
        rw [allowsItems_cons plain]
        obtain ⟨_, _, first, behind, rfl⟩ := allowed
        exact ⟨_, _, leaves.allows first, leaves.allowsItems behind, rfl⟩
termination_by Node.weightOf items
decreasing_by all_goals (subst_vars; simp only [Node.weight, Node.weightOf]; omega)

end

end Led

end Rules

namespace Sight

/-- The binding whose value is needed where a name stands: it is read, or it names an element. -/
def needs? : Sight → Option Ident
  | name _ role id => if role.reads || role == .element then some id else none
  | _ => none

/-- A binding is needed here. -/
def needs (id : Ident) (sight : Sight) : List Unit :=
  if sight.needs? = some id then [()] else []

/-- A binding is needed here, and it is not read where styles are filled in. -/
def needsStill (filling : Bool) (id : Ident) (sight : Sight) : List Unit :=
  if filling ∧ sight.read? = some id ∧ sight.spot.place = .filled then [] else sight.needs id

theorem mem_needs {id : Ident} {sight : Sight} : () ∈ sight.needs id ↔ sight.needs? = some id := by
  rw [needs]
  split <;> simp_all

theorem mem_needsStill {filling : Bool} {id : Ident} {sight : Sight} :
    () ∈ sight.needsStill filling id ↔
      sight.needs? = some id ∧
        ¬ (filling ∧ sight.read? = some id ∧ sight.spot.place = .filled) := by
  rw [needsStill]
  split
  next filled => simp [filled]
  next other => simp only [mem_needs, other, not_false_iff, and_true]

end Sight

namespace Forecast

variable {forecast : Forecast} {sheets : List (Ident × Path)}

/-- The rules of a rewriting, with every reference free to stay if there is no tag. -/
def free (forecast : Forecast) (sheets : List (Ident × Path)) : Rules where
  fills := extendsBase forecast.plan.config.baseClass
  keeps := (forecast.rules sheets).keeps
  replaces := (forecast.rules sheets).replaces
  reads id choice :=
    (forecast.rules sheets).reads id choice ∨ forecast.plan.config.tag = none ∧ choice = none

def loose (forecast : Forecast) (sheets : List (Ident × Path)) : Rules :=
  (forecast.free sheets).led forecast.lead

theorem led_within (rules : Rules) (lead : Node) : rules.Within (rules.led lead) where
  fills := rfl
  keeps _ kept := kept
  replaces _ items replaced := ⟨items, replaced, .inl rfl⟩
  reads _ _ read := read

/-- What the rules of a rewriting allow for the announced module is allowed for the module. -/
theorem loose_of_announced {module : Module} {results : List Node}
    (allowed : (forecast.rules sheets).AllowsItems false (forecast.announced module) results) :
    (forecast.loose sheets).AllowsItems false module.items results := by
  cases tagged : forecast.plan.config.tag with
  | none =>
      have eases : (forecast.rules sheets).Eases (forecast.free sheets) := by
        refine ⟨?_, fun _ kept => kept, fun _ _ replaced => replaced, fun _ _ read => .inl read,
          fun _ => .inr ⟨tagged, rfl⟩⟩
        intro parent filling
        exact (Bool.and_eq_true_iff.mp filling).2
      rw [announced, tagged] at allowed
      exact (led_within _ _).allowsItems false (eases.allowsItems id allowed)
  | some tag =>
      have within : (forecast.rules sheets).Within (forecast.free sheets) := by
        refine ⟨?_, fun _ kept => kept, fun _ _ replaced => replaced, fun _ _ read => .inl read⟩
        funext parent
        simp [rules, free, Rewrite.isMatching, tagged]
      have stays := forecast.isSheet_tagDeclaration (forecast.tagIdent tag) tag
      have leaves : (forecast.free sheets).Leaves forecast.isSheet
          (Emit.tagDeclaration (forecast.tagIdent tag) tag) := by
        refine ⟨fun parent put => extendsBase_announce _ _ _ parent put, ?_, ?_⟩
        · intro declaration asked kept
          cases asked.symm.trans kept
        · rintro items ⟨binding, path, content, found, _⟩
          rw [isSheet, found] at stays
          cases stays
      rw [announced_of_tagged tagged] at allowed
      have led := leaves.allowsItems (within.allowsItems false allowed)
      rw [loose, lead, tagged]
      exact led

theorem runningAll_inlined (forecast : Forecast) (binding : Ident) (content : String) :
    runningAll (forecast.inlined binding content) = forecast.inlined binding content := by
  rw [inlined]
  split
  · rfl
  · split <;> rfl

theorem running_lead (forecast : Forecast) : forecast.lead.running .now = forecast.lead := by
  rw [lead]
  split <;> rfl

theorem loose_runsAlike (forecast : Forecast) (sheets : List (Ident × Path)) :
    (forecast.loose sheets).RunsAlike := by
  constructor
  · exact fun parent => extendsBase_running _ parent
  · rintro declaration items ⟨_, ⟨binding, path, content, found, answered, rfl⟩, put⟩
    refine ⟨_, ⟨binding, path, content, found, answered, rfl⟩, ?_⟩
    have same := forecast.runningAll_inlined binding content
    rcases put with rfl | rfl
    · exact .inl same
    · right
      rw [runningAll_eq] at same ⊢
      rw [List.map_cons, same, running_lead]

/-- Neither a constant nor the import of the tag needs a stylesheet. -/
theorem needs_lead (forecast : Forecast) (base : String) (spot : Spot) (id : Ident) :
    (sightsOfItems base spot [forecast.lead]).flatMap (Sight.needs id) = [] := by
  rw [lead]
  split <;> rfl

theorem needs_inlined (fresh : forecast.IsFresh) {id : Ident}
    (imported : id ∈ forecast.scan.styleImports) (base : String) (spot : Spot) (binding : Ident)
    (content : String) :
    (sightsOfItems base spot (forecast.inlined binding content)).flatMap (Sight.needs id) = [] := by
  cases tagged : forecast.plan.config.tag with
  | none =>
      rw [inlined, tagged]
      rfl
  | some tag =>
      have other : forecast.tagIdent tag ≠ id := by
        rintro rfl
        exact (fresh tag).1 imported
      rw [inlined, tagged]
      dsimp only
      split
      · rfl
      · rw [Rules.sightsOfItems_constant]
        simp [Sight.needs, Sight.needs?, Role.reads, other]

/-- A stylesheet is needed in a result where it was needed before, but where styles are filled in
and in the attributes of imports that made room. -/
theorem traces_needs (fresh : forecast.IsFresh) {id : Ident}
    (imported : id ∈ forecast.scan.styleImports) :
    (forecast.loose sheets).Traces forecast.plan.config.baseClass forecast.isSheet
      (Sight.needs id) (Sight.needsStill forecast.plan.config.tag.isSome id) := by
  refine ⟨rfl, ?_, ?_, fun _ _ _ => ?_, fun _ _ _ => ?_, fun _ _ _ kept => ⟨kept, ?_⟩, ?_,
    fun _ _ _ => ⟨rfl, ?_⟩⟩
  · intro spot spot' role other kept
    rw [Sight.needsStill, if_neg]
    · rfl
    · rintro ⟨tagged, read, filled⟩
      rw [Sight.read?] at read
      split at read
      next reads =>
        cases read
        rcases kept filled reads with unseen | ⟨none, _⟩
        · exact unseen imported
        · rw [none] at tagged
          cases tagged
      next => cases read
  · rintro spot spot' role other name content filled read (⟨⟨tag, tagged, rfl⟩, _⟩ | ⟨_, ⟨⟩⟩)
    have apart : forecast.tagIdent tag ≠ id := by
      rintro rfl
      exact (fresh tag).1 imported
    have unneeded : Sight.needs id (.name spot' .use (forecast.tagIdent tag)) = [] := by
      simp [Sight.needs, Sight.needs?, Role.reads, apart]
    rw [unneeded, Sight.needsStill, tagged]
    by_cases same : other = id
    · subst same
      rw [if_pos ⟨rfl, by rw [Sight.read?, if_pos read], filled⟩]
    · simp [Sight.needs, Sight.needs?, same]
  · simp [Sight.needs, Sight.needsStill, Sight.needs?]
  · simp [Sight.needs, Sight.needsStill, Sight.needs?]
  · simp [Sight.needs, Sight.needsStill, Sight.needs?]
  · rintro spot spot' declaration items ⟨_, ⟨binding, path, content, found, _, rfl⟩, put⟩
    have nothing : Sight.needsStill forecast.plan.config.tag.isSome id
        (.imported spot declaration true) = [] := by
      simp [Sight.needs, Sight.needsStill, Sight.needs?]
    have constants := needs_inlined fresh imported forecast.plan.config.baseClass spot' binding
      content
    refine ⟨by rw [isSheet, found]; rfl, ?_⟩
    rw [nothing]
    rcases put with rfl | rfl
    · exact constants
    · rw [← List.singleton_append, sightsOfItems_append, List.flatMap_append, needs_lead, constants]
      rfl
  · simp [Sight.needs, Sight.needsStill, Sight.needs?]

/-- What stands in the place of a stylesheet that keeps a constant: the constant, and perhaps the tag's
own import. -/
theorem constant_of_loose {declaration : Import} {binding : Ident} {path : Path} {put : List Node}
    (found : forecast.plan.sheet? declaration = some (binding, path))
    (kept : forecast.plan.config.tag = none ∨ forecast.scan.isStylesOnly binding = false)
    (replaced : (forecast.loose sheets).replaces declaration put) :
    ∃ content value first, forecast.answer path = .ok content ∧
      forecast.inlined binding content = [Emit.constant binding value] ∧
      put = first ++ [Emit.constant binding value] ∧ (first = [] ∨ first = [forecast.lead]) := by
  obtain ⟨_, ⟨other, path', content, found', answered, rfl⟩, put⟩ := replaced
  cases found.symm.trans found'
  have single : ∃ value, forecast.inlined binding content = [Emit.constant binding value] := by
    rw [inlined]
    rcases kept with plain | needed
    · rw [plain]
      exact ⟨_, rfl⟩
    · cases forecast.plan.config.tag with
      | none => exact ⟨_, rfl⟩
      | some tag =>
          dsimp only
          rw [needed]
          exact ⟨_, rfl⟩
  obtain ⟨value, single⟩ := single
  rw [single] at put
  rcases put with rfl | rfl
  · exact ⟨content, value, [], answered, single, rfl, .inl rfl⟩
  · exact ⟨content, value, [forecast.lead], answered, single, rfl, .inr rfl⟩

end Forecast

section Compile

variable {τ : Type} (config : Config) (filename : Path) (files : FileSystem)
  (tracker : Tracker τ) (systems : Systems) (module : Module) (registrations : τ)
  (world : Fetcher.World)

/-- A stylesheet that keeps a constant has it in the place of its import.  What runs before the
constant needs the stylesheet exactly if something that ran before the import needed it, and neither
is put into the styles of a class nor has gone with an import around it. -/
theorem compile_initialization
    (success : (compile config filename files tracker (Fetcher.fetch systems) module registrations
      world).failure = none) :
    let compiled :=
      compile config filename files tracker (Fetcher.fetch systems) module registrations world
    let forecast :=
      Forecast.ofModule (Visitor.ofConfig config filename files).plan module
        ((Fetcher.fetch systems).answers filename world)
    ∀ declaration attributes binding path seen place,
      forecast.plan.sheet? declaration = some (binding, path) →
      Leads config.baseClass {} module.items seen place (.importDecl declaration attributes) →
      (∀ host ∈ place.hosts, forecast.isSheet host = false) →
      config.tag = none ∨ forecast.scan.isStylesOnly binding = false →
      ∃ content value seen' place', forecast.answer path = .ok content ∧
        forecast.inlined binding content = [Emit.constant binding value] ∧
        Leads config.baseClass {} compiled.module.items seen' place'
          (Emit.constant binding value) ∧
        ((∃ sight ∈ seen', sight.needs? = some binding) ↔
          ∃ sight ∈ seen, sight.needs? = some binding ∧
            (∀ host ∈ sight.spot.hosts, forecast.isSheet host = false) ∧
            ¬ (config.tag.isSome ∧ sight.read? = some binding ∧ sight.spot.place = .filled)) := by
  intro compiled forecast declaration attributes binding path seen place found leads unhosted kept
  obtain ⟨_, allowed⟩ := allowed_of_compile success forecast rfl
  have loose := Forecast.loose_of_announced allowed
  have fresh : forecast.IsFresh := Forecast.isFresh_ofModule _ module _
  have imported : binding ∈ forecast.scan.styleImports :=
    (Scan.records_ofModule forecast.plan.query module).imports binding |>.mpr
      (.inr ⟨_, leads.imported, Plan.of_sheet? found⟩)
  have traces := @Forecast.traces_needs _ (forecast.passedIn (forecast.seenIn module)) fresh _
    imported
  have sheet : forecast.isSheet declaration = true := by
    rw [Forecast.isSheet, found]
    rfl
  have outside : place.hosts.any forecast.isSheet = false := by
    simpa using unhosted
  obtain ⟨put, replaced, standing⟩ := traces.leads (forecast.loose_runsAlike _) leads sheet outside
    (by simp) loose {}
  obtain ⟨content, value, first, answered, single, rfl, front⟩ :=
    Forecast.constant_of_loose found kept replaced
  obtain ⟨seen', outer, place', leads', same⟩ := standing first _ [] rfl
  refine ⟨content, value, _, place', answered, single, leads', ?_⟩
  have put : (sightsOfItems forecast.plan.config.baseClass outer (runningAll first)).flatMap
      (Sight.needs binding) = [] := by
    rcases front with rfl | rfl
    · rfl
    · rw [runningAll_eq, List.map_singleton, Forecast.running_lead]
      exact forecast.needs_lead _ _ _
  have needed : (∃ sight ∈ seen' ++ sightsOfItems forecast.plan.config.baseClass outer
        (runningAll first), sight.needs? = some binding) ↔
      () ∈ Rules.left forecast.isSheet (Sight.needsStill config.tag.isSome binding) seen := by
    simp only [← Sight.mem_needs, ← List.mem_flatMap, List.flatMap_append, put, List.append_nil]
    rw [same]
    rfl
  rw [needed, Rules.left_eq_flatMap_filter, List.mem_flatMap]
  refine exists_congr fun sight => ?_
  rw [List.mem_filter, Sight.mem_needsStill]
  simp only [Bool.not_eq_true', List.any_eq_false, Bool.not_eq_true]
  tauto

end Compile

/-- A reference in front of the import is one in front of the constant. -/
theorem compile_initialization_early :
    let id : Ident := ⟨"a", .declared 0⟩
    let files := Memory.fileSystem { entries := [(⟨"/a.css"⟩, .file ".a {}" 0)] }
    let use : Node := .form .expression [.ident .use id]
    let declaration : Import := ⟨.evaluation, false, [.default id], ⟨"./a.css", none⟩, false⟩
    let module : Module := ⟨none, [use, .importDecl declaration .absent]⟩
    let compiled := compile {} ⟨"/index.js"⟩ files (@Tracker.tracing Unit)
      (Fetcher.fetch fun _ => files) module () (⟨0, .disabled, none⟩, {})
    compiled.failure = none ∧
      ∃ value seen, Leads "LitElement" {} compiled.module.items seen {} (Emit.constant id value) ∧
        ∃ sight ∈ seen, sight.needs? = some id := by
  intro id files use declaration module compiled
  have success : compiled.failure = none := by decide +kernel
  obtain ⟨_, use', rest, stays, later, items⟩ := allowed_of_compile success _ rfl
  -- The statement stays: nothing in it stands in styles.
  obtain ⟨_, ⟨_, _, rfl, rfl, rfl⟩, rfl⟩ := stays
  obtain ⟨put, _, replaced | ⟨_, kept, _⟩, rfl, rfl⟩ := later
  · obtain ⟨binding, path, content, found, _, rfl⟩ := replaced
    have same : binding = id := by
      have known : (Visitor.ofConfig {} ⟨"/index.js"⟩ files).plan.sheet? declaration =
          some (id, ⟨"/a.css"⟩) := by
        decide +kernel
      cases found.symm.trans known
      rfl
    subst same
    refine ⟨success, Emit.string content, _, ?_, .name {} .use id, List.mem_singleton_self _, rfl⟩
    have here : Leads "LitElement" {} ([use] ++ Emit.constant id (Emit.string content) :: [])
        _ {} _ := .here
    rw [show compiled.module.items = _ from items]
    exact here
  · have sheet : (Forecast.ofModule (Visitor.ofConfig {} ⟨"/index.js"⟩ files).plan module
        ((Fetcher.fetch fun _ => files).answers ⟨"/index.js"⟩ (⟨0, .disabled, none⟩, {}))).isSheet
          declaration = true := by
      decide +kernel
    cases sheet.symm.trans kept

/-- A function in front of the import may read the stylesheet. -/
theorem compile_initialization_function :
    let id : Ident := ⟨"a", .declared 0⟩
    let files := Memory.fileSystem { entries := [(⟨"/a.css"⟩, .file ".a {}" 0)] }
    let body : Node := .form .body [.form .returnValue [.ident .use id]]
    let function : Node := .form (.functionDeclaration false) [.ident .bind ⟨"f", .declared 0⟩,
      .form (.function false false) [.group [], .form .decorators [], body, .absent, .absent]]
    let declaration : Import := ⟨.evaluation, false, [.default id], ⟨"./a.css", none⟩, false⟩
    let module : Module := ⟨none, [function, .importDecl declaration .absent]⟩
    let compiled := compile {} ⟨"/index.js"⟩ files (@Tracker.tracing Unit)
      (Fetcher.fetch fun _ => files) module () (⟨0, .disabled, none⟩, {})
    compiled.failure = none ∧
      ∃ value seen place, Leads "LitElement" {} compiled.module.items seen place
          (Emit.constant id value) ∧
        ¬ ∃ sight ∈ seen, sight.needs? = some id := by
  intro id files body function declaration module compiled
  have success : compiled.failure = none := by decide +kernel
  have leads : Leads "LitElement" {} ([function] ++ .importDecl declaration .absent :: []) _ {}
      (.importDecl declaration .absent) := .here
  obtain ⟨_, value, seen, place, _, _, found, needed⟩ :=
    compile_initialization _ _ _ _ _ _ _ _ success declaration .absent id ⟨"/a.css"⟩ _ {}
      (by decide +kernel) leads nofun (.inl rfl)
  refine ⟨success, value, seen, place, found, ?_⟩
  rw [needed]
  rintro ⟨sight, member, needs, _⟩
  cases List.mem_singleton.mp member
  cases needs

end StyleInline
