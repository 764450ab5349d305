import StyleInline.FileSystem.Memory
import StyleInline.Proofs.Rules.Weakening
import StyleInline.Proofs.Visit

/-!
# The imports that are left

An import of a compiled module was there before, and it neither made room for a stylesheet nor stood
in the attributes of one that did.  The import of the tag is the only new one.
-/

namespace StyleInline

open Script Rewrite

def Sight.onlyImport (lead : Import) (among : Bool) : Sight → List Unit
  | imported _ declaration isItem =>
    if declaration = lead ∧ isItem = among then [()] else []
  | _ => []

theorem Sight.mem_onlyImport {lead : Import} {among : Bool} {sight : Sight} :
    () ∈ sight.onlyImport lead among ↔ ∃ spot, sight = .imported spot lead among := by
  cases sight with
  | imported spot declaration isItem =>
      rw [onlyImport]
      constructor
      · intro member
        split at member
        next same =>
          obtain ⟨rfl, rfl⟩ := same
          exact ⟨spot, rfl⟩
        next => cases member
      · rintro ⟨_, same⟩
        cases same
        simp
  | name spot role id | exported spot id | styled spot head members => simp [onlyImport]

def Script.ImportSpecifier.binding : ImportSpecifier → Ident
  | default binding | everything binding | named binding _ _ => binding

def Script.Import.bindings (declaration : Import) : List Ident :=
  declaration.specifiers.map ImportSpecifier.binding

/-- The bindings that an import introduces besides its default bindings. -/
def Script.Import.extraBindings (declaration : Import) : List Ident :=
  declaration.specifiers.filterMap fun
    | .default _ => none
    | .everything binding | .named binding _ _ => some binding

def Introduces (seen : List Sight) (id : Ident) : Prop :=
  ∃ spot declaration isItem, .imported spot declaration isItem ∈ seen ∧ id ∈ declaration.bindings

theorem Script.Import.bindings_subset (declaration : Import) :
    declaration.bindings ⊆ Scan.idsOfImport declaration := by
  intro id member
  obtain ⟨specifier, inside, rfl⟩ := List.mem_map.mp member
  refine List.mem_flatMap.mpr ⟨specifier, inside, ?_⟩
  cases specifier <;> simp [ImportSpecifier.binding]

theorem Script.Import.extraBindings_subset (declaration : Import) :
    declaration.extraBindings ⊆ declaration.bindings := by
  intro id member
  obtain ⟨specifier, inside, same⟩ := List.mem_filterMap.mp member
  refine List.mem_map.mpr ⟨specifier, inside, ?_⟩
  cases specifier <;> simp_all [ImportSpecifier.binding]

namespace Forecast

variable {forecast : Forecast}

/-- The rules of a rewriting, with every reference free to stay. -/
def eased (forecast : Forecast) (sheets : List (Ident × Path)) : Rules where
  fills := extendsBase forecast.plan.config.baseClass
  keeps := (forecast.rules sheets).keeps
  replaces := (forecast.rules sheets).replaces
  reads id choice := choice = none ∨ (forecast.rules sheets).reads id choice

theorem eases_rules (forecast : Forecast) (sheets : List (Ident × Path)) :
    (forecast.rules sheets).Eases (forecast.eased sheets) where
  fills _ filling := (Bool.and_eq_true_iff.mp filling).2
  keeps _ kept := kept
  replaces _ _ replaced := replaced
  reads _ _ read := .inr read
  still _ := .inl rfl

/-- What stands in the place of a stylesheet imports nothing. -/
theorem onlyImport_inlined (lead : Import) (among : Bool) (base : String) (spot : Spot)
    (binding : Ident) (content : String) :
    (sightsOfItems base spot (forecast.inlined binding content)).flatMap
      (Sight.onlyImport lead among) = [] := by
  rw [inlined]
  split
  · rfl
  · split <;> rfl

/-- An import is found in a result where it was before, unless it makes room or stands in the
attributes of an import that does. -/
theorem traces_onlyImport (forecast : Forecast) (sheets : List (Ident × Path)) (lead : Import)
    (among : Bool) :
    (forecast.eased sheets).Traces forecast.plan.config.baseClass forecast.isSheet
      (Sight.onlyImport lead among)
      (fun sight =>
        if among && forecast.isSheet lead then [] else sight.onlyImport lead among) := by
  have otherwise (sight : Sight) (nothing : sight.onlyImport lead among = []) :
      (if among && forecast.isSheet lead then [] else sight.onlyImport lead among) = [] := by
    rw [nothing, ite_self]
  refine ⟨rfl, fun _ _ _ _ _ => (otherwise _ rfl).symm,
    fun _ _ _ _ _ _ _ _ _ => (otherwise _ rfl).symm, fun _ _ _ => (otherwise _ rfl).symm, ?_, ?_,
    ?_, fun _ _ _ => ⟨rfl, otherwise _ rfl⟩⟩
  · intro spot spot' declaration
    cases among with
    | false => rfl
    | true =>
        have nothing (spot : Spot) :
            Sight.onlyImport lead true (.imported spot declaration false) = [] := by
          simp [Sight.onlyImport]
        rw [otherwise _ (nothing spot)]
        exact nothing spot'
  · intro spot spot' declaration kept
    have stays : forecast.isSheet declaration = false := kept
    refine ⟨stays, ?_⟩
    by_cases same : declaration = lead
    · subst same
      rw [stays, Bool.and_false, if_neg Bool.false_ne_true]
      rfl
    · have nothing : Sight.onlyImport lead among (.imported spot declaration true) = [] :=
        if_neg fun both => same both.1
      rw [otherwise _ nothing]
      exact nothing
  · rintro spot spot' declaration items ⟨binding, path, content, found, _, rfl⟩
    have sheet : forecast.isSheet declaration = true := by rw [isSheet, found]; rfl
    refine ⟨sheet, ?_⟩
    rw [onlyImport_inlined]
    by_cases same : declaration = lead ∧ true = among
    · obtain ⟨rfl, rfl⟩ := same
      rw [sheet, Bool.and_self, if_pos rfl]
    · exact (otherwise (.imported spot declaration true) (if_neg same)).symm

/-- An import of some sights makes no room for a stylesheet, and stands in the attributes of none
that does. -/
def Remains (forecast : Forecast) (seen : List Sight) (declaration : Import) (isItem : Bool) :
    Prop :=
  (isItem = true → forecast.isSheet declaration = false) ∧
    ∃ spot, .imported spot declaration isItem ∈ seen ∧
      ∀ host ∈ spot.hosts, forecast.isSheet host = false

theorem mem_left_onlyImport {lead : Import} {among : Bool} {seen : List Sight} :
    () ∈ Rules.left forecast.isSheet
        (fun sight => if among && forecast.isSheet lead then [] else sight.onlyImport lead among)
        seen ↔
      forecast.Remains seen lead among := by
  rw [Rules.left_eq_flatMap_filter, List.mem_flatMap, Remains]
  constructor
  · rintro ⟨sight, member, here⟩
    obtain ⟨inside, unhosted⟩ := List.mem_filter.mp member
    split at here
    next => cases here
    next stays =>
      obtain ⟨spot, rfl⟩ := Sight.mem_onlyImport.mp here
      refine ⟨?_, spot, inside, ?_⟩
      · rintro rfl
        simpa using stays
      · simpa [Sight.spot] using unhosted
  · rintro ⟨stays, spot, inside, unhosted⟩
    refine ⟨.imported spot lead among, List.mem_filter.mpr ⟨inside, ?_⟩, ?_⟩
    · simpa [Sight.spot] using unhosted
    · rw [if_neg, Sight.mem_onlyImport]
      · exact ⟨spot, rfl⟩
      · cases among with
        | false => exact Bool.false_ne_true
        | true => simpa using stays

/-- The imports of a result are those of the items that remain. -/
theorem imported_of_allowed {sheets : List (Ident × Path)} {items results : List Node}
    (allowed : (forecast.rules sheets).AllowsItems false items results) (declaration : Import)
    (isItem : Bool) :
    (∃ spot, .imported spot declaration isItem ∈
        sightsOfItems forecast.plan.config.baseClass {} results) ↔
      forecast.Remains (sightsOfItems forecast.plan.config.baseClass {} items) declaration
        isItem := by
  have eased : (forecast.eased sheets).AllowsItems false items results :=
    (forecast.eases_rules sheets).allowsItems id allowed
  have traced := (forecast.traces_onlyImport sheets declaration isItem).items {} (by simp) rfl
    eased {}
  rw [← mem_left_onlyImport, ← traced, List.mem_flatMap]
  constructor
  · rintro ⟨spot, member⟩
    exact ⟨_, member, Sight.mem_onlyImport.mpr ⟨spot, rfl⟩⟩
  · rintro ⟨sight, member, here⟩
    obtain ⟨spot, rfl⟩ := Sight.mem_onlyImport.mp here
    exact ⟨spot, member⟩

/-- Announcing the tag moves no other import. -/
theorem remains_announced (forecast : Forecast) (module : Module) {declaration : Import}
    {isItem : Bool}
    (other : ∀ tag, forecast.plan.config.tag = some tag → isItem = true →
      declaration ≠ Emit.tagDeclaration (forecast.tagIdent tag) tag) :
    forecast.Remains (sightsOfItems forecast.plan.config.baseClass {} (forecast.announced module))
        declaration isItem ↔
      forecast.Remains (forecast.seenIn module) declaration isItem := by
  cases tagged : forecast.plan.config.tag with
  | none =>
      rw [announced, tagged]
      rfl
  | some tag =>
      let lead := Emit.tagDeclaration (forecast.tagIdent tag) tag
      have announced := @announced_sightsOfItems forecast.isSheet lead
        forecast.plan.config.baseClass {} module.items false
      have same := announced.rest
        (fun sight => if sight.spot.hosts.any forecast.isSheet then [] else
          if isItem && forecast.isSheet declaration then []
          else sight.onlyImport declaration isItem) ?_ ?_
      · rw [announced_of_tagged tagged, ← mem_left_onlyImport, ← mem_left_onlyImport]
        exact Iff.of_eq (congrArg (() ∈ ·) same)
      · intro spot
        have nothing : Sight.onlyImport declaration isItem (.imported spot lead true) = [] :=
          if_neg fun both => other tag tagged both.2.symm both.1.symm
        rw [nothing, ite_self, ite_self]
      · intro spot head members
        have nothing : Sight.onlyImport declaration isItem (.styled spot head members) = [] := rfl
        rw [nothing, ite_self, ite_self]

/-- The import of the tag introduces no binding that an import of the module introduces. -/
theorem tagIdent_unbound (plan : Plan) (module : Module)
    (answer : Path → Except InlineError String) (tag : Tag) {spot : Spot} {declaration : Import}
    {isItem : Bool}
    (member : .imported spot declaration isItem ∈ (ofModule plan module answer).seenIn module) :
    (ofModule plan module answer).tagIdent tag ∉ declaration.bindings := by
  intro inside
  exact tagIdent_unseen plan module answer tag member (declaration.bindings_subset inside)

end Forecast

theorem Emit.bindings_tagDeclaration (name : Ident) (tag : Tag) :
    (tagDeclaration name tag).bindings = [name] := rfl

/-- A module that was compiled without a failure imports what it imported, but for the imports that
made room for a stylesheet and those in their attributes.  A binding is lost exactly if nothing else
introduces it, also one that is no default binding. -/
theorem compile_bindings {τ : Type} (config : Config) (filename : Path) (files : FileSystem)
    (tracker : Tracker τ) (systems : Systems) (module : Module) (registrations : τ)
    (world : Fetcher.World)
    (success : (compile config filename files tracker (Fetcher.fetch systems) module registrations
      world).failure = none) :
    let compiled :=
      compile config filename files tracker (Fetcher.fetch systems) module registrations world
    let forecast :=
      Forecast.ofModule (Visitor.ofConfig config filename files).plan module
        ((Fetcher.fetch systems).answers filename world)
    (∀ spot declaration isItem, .imported spot declaration isItem ∈ forecast.seenIn module →
        ((∃ spot, .imported spot declaration isItem ∈ forecast.seenIn compiled.module) ↔
          forecast.Remains (forecast.seenIn module) declaration isItem)) ∧
      ∀ spot declaration isItem, .imported spot declaration isItem ∈ forecast.seenIn module →
        ∀ id ∈ declaration.extraBindings,
          (Introduces (forecast.seenIn compiled.module) id ↔
            ∃ other among, id ∈ other.bindings ∧
              forecast.Remains (forecast.seenIn module) other among) := by
  intro compiled forecast
  obtain ⟨_, allowed⟩ := allowed_of_compile success forecast rfl
  have kept (declaration : Import) (isItem : Bool)
      (other : ∀ tag, declaration ≠ Emit.tagDeclaration (forecast.tagIdent tag) tag) :
      (∃ spot, .imported spot declaration isItem ∈ forecast.seenIn compiled.module) ↔
        forecast.Remains (forecast.seenIn module) declaration isItem := by
    rw [← forecast.remains_announced module fun tag _ _ => other tag]
    exact Forecast.imported_of_allowed allowed declaration isItem
  constructor
  · intro spot declaration isItem member
    refine kept declaration isItem fun tag same => ?_
    have unbound := Forecast.tagIdent_unbound _ module _ tag member
    rw [same, Emit.bindings_tagDeclaration] at unbound
    exact unbound (List.mem_singleton_self _)
  · intro spot declaration isItem member id extra
    have inside := declaration.extraBindings_subset extra
    have differs {other : Import} (also : id ∈ other.bindings) (tag : Tag) :
        other ≠ Emit.tagDeclaration (forecast.tagIdent tag) tag := by
      rintro rfl
      rw [Emit.bindings_tagDeclaration, List.mem_singleton] at also
      rw [also] at inside
      exact Forecast.tagIdent_unbound _ module _ tag member inside
    constructor
    · rintro ⟨spot', other, among, found, also⟩
      exact ⟨other, among, also, (kept other among (differs also)).mp ⟨spot', found⟩⟩
    · rintro ⟨other, among, also, remains⟩
      obtain ⟨spot', found⟩ := (kept other among (differs also)).mpr remains
      exact ⟨spot', other, among, found, also⟩

/-- A name that is imported together with a stylesheet is lost with it. -/
theorem compile_bindings_named :
    let files := Memory.fileSystem { entries := [(⟨"/a.css"⟩, .file ".a {}" 0)] }
    let declaration : Import :=
      ⟨.evaluation, false, [.default ⟨"a", .declared 0⟩, .named ⟨"b", .declared 0⟩ none false],
        ⟨"./a.css", none⟩, false⟩
    let module : Module := ⟨none, [.importDecl declaration .absent]⟩
    let compiled := compile {} ⟨"/index.js"⟩ files (@Tracker.tracing Unit)
      (Fetcher.fetch fun _ => files) module () (⟨0, .disabled, none⟩, {})
    let forecast := Forecast.ofModule (Visitor.ofConfig {} ⟨"/index.js"⟩ files).plan module
      ((Fetcher.fetch fun _ => files).answers ⟨"/index.js"⟩ (⟨0, .disabled, none⟩, {}))
    compiled.failure = none ∧ ⟨"b", .declared 0⟩ ∈ declaration.extraBindings ∧
      ¬ Introduces (forecast.seenIn compiled.module) ⟨"b", .declared 0⟩ := by
  intro files declaration module compiled forecast
  have success : compiled.failure = none := by decide +kernel
  have extra : (⟨"b", .declared 0⟩ : Ident) ∈ declaration.extraBindings := by decide +kernel
  have sheet : forecast.isSheet declaration = true := by decide +kernel
  obtain ⟨_, lost⟩ := compile_bindings _ _ _ _ _ _ _ _ success
  refine ⟨success, extra, fun introduced => ?_⟩
  have here : .imported {} declaration true ∈ forecast.seenIn module := List.mem_singleton_self _
  obtain ⟨other, among, _, stays, spot, member, _⟩ := (lost _ _ _ here _ extra).mp introduced
  cases List.mem_singleton.mp member
  cases sheet.symm.trans (stays rfl)

end StyleInline
