import Mathlib.Tactic.Tauto
import StyleInline.Proofs.Sights

/-!
# What a scan records

The scan of a module holds what a visit of the module comes upon: the bindings read inside of
styles members, the bindings read or exported elsewhere, and the default bindings of imported
stylesheets.
-/

namespace StyleInline

open Script

namespace Sight

/-- A binding is read in a styles member. -/
def ReadsInStyles (id : Ident) (sight : Sight) : Prop :=
  sight.read? = some id ∧ sight.spot.place ≠ .outside

/-- A binding is read outside of styles members, or exported. -/
def ReadsElsewhere (id : Ident) (sight : Sight) : Prop :=
  (sight.read? = some id ∧ sight.spot.place = .outside) ∨ ∃ spot, sight = .exported spot id

def ImportsStyle (query : Scan.Query) (id : Ident) : Sight → Prop
  | imported _ declaration _ =>
    declaration.typeOnly = false ∧ query.isStyle declaration.source.value = true ∧
      id ∈ Scan.defaultBindings declaration
  | _ => False

end Sight

theorem exists_mem_append {first second : List Sight} {holds : Sight → Prop} :
    (∃ sight ∈ first ++ second, holds sight) ↔
      (∃ sight ∈ first, holds sight) ∨ ∃ sight ∈ second, holds sight := by
  simp only [List.mem_append, or_and_right, exists_or]

theorem exists_mem_singleton {sight : Sight} {holds : Sight → Prop} :
    (∃ other ∈ [sight], holds other) ↔ holds sight := by
  simp only [List.mem_singleton, exists_eq_left]

namespace Scan

/-- A scan is extended by what some sights tell. -/
structure Records (query : Query) (seen : List Sight) (before after : Scan) : Prop where
  styles : ∀ id, id ∈ after.stylesReferences ↔
    id ∈ before.stylesReferences ∨ ∃ sight ∈ seen, sight.ReadsInStyles id
  others : ∀ id, id ∈ after.otherReferences ↔
    id ∈ before.otherReferences ∨ ∃ sight ∈ seen, sight.ReadsElsewhere id
  imports : ∀ id, id ∈ after.styleImports ↔
    id ∈ before.styleImports ∨ ∃ sight ∈ seen, sight.ImportsStyle query id

namespace Records

variable {query : Query}

theorem nil (scan : Scan) : Records query [] scan scan :=
  ⟨by simp, by simp, by simp⟩

theorem append {first second : List Sight} {start middle final : Scan}
    (head : Records query first start middle) (tail : Records query second middle final) :
    Records query (first ++ second) start final := by
  refine ⟨fun id => ?_, fun id => ?_, fun id => ?_⟩
  · rw [tail.styles, head.styles, or_assoc, exists_mem_append]
  · rw [tail.others, head.others, or_assoc, exists_mem_append]
  · rw [tail.imports, head.imports, or_assoc, exists_mem_append]

/-- Names alone leave the recorded bindings as they are. -/
theorem of_useNames {seen : List Sight} {before after : Scan} (ids : List Ident)
    (records : Records query seen (useNames ids before) after) :
    Records query seen before after := by
  induction ids generalizing before with
  | nil => exact records
  | cons id rest ih =>
      have inner := ih records
      exact ⟨inner.styles, inner.others, inner.imports⟩

end Records

theorem records_name (query : Query) (spot : Spot) (role : Role) (id : Ident) (inStyles : Bool)
    (place : inStyles = true ↔ spot.place ≠ .outside) (scan : Scan) :
    Records query [.name spot role id] scan (collect query inStyles (.ident role id) scan) := by
  cases reads : role.reads with
  | false => exact ⟨by simp [collect, reads, useName, Sight.ReadsInStyles, Sight.read?],
      by simp [collect, reads, useName, Sight.ReadsElsewhere, Sight.read?],
      by simp [collect, reads, useName, Sight.ImportsStyle]⟩
  | true =>
      cases inStyles with
      | false =>
          have outside : spot.place = .outside := by simpa using place
          refine ⟨fun other => ?_, fun other => ?_, fun other => ?_⟩
          · simp [collect, reads, useName, refer, Sight.ReadsInStyles, Sight.spot, outside]
          · have same : id = other ↔ other = id := eq_comm
            simp [collect, reads, useName, refer, Sight.ReadsElsewhere, Sight.spot, Sight.read?,
              outside, same, or_comm]
          · simp [collect, reads, useName, refer, Sight.ImportsStyle]
      | true =>
          have inside : spot.place ≠ .outside := by simpa using place
          refine ⟨fun other => ?_, fun other => ?_, fun other => ?_⟩
          · have same : id = other ↔ other = id := eq_comm
            simp [collect, reads, useName, refer, Sight.ReadsInStyles, Sight.spot, Sight.read?,
              inside, same, or_comm]
          · simp [collect, reads, useName, refer, Sight.ReadsElsewhere, Sight.spot, inside]
          · simp [collect, reads, useName, refer, Sight.ImportsStyle]

theorem foldl_importStyle (ids : List Ident) (scan : Scan) :
    (ids.foldl (fun scan id => scan.importStyle id) scan).stylesReferences =
        scan.stylesReferences ∧
      (ids.foldl (fun scan id => scan.importStyle id) scan).otherReferences =
        scan.otherReferences ∧
      ∀ id, id ∈ (ids.foldl (fun scan id => scan.importStyle id) scan).styleImports ↔
        id ∈ scan.styleImports ∨ id ∈ ids := by
  induction ids generalizing scan with
  | nil => simp
  | cons id rest ih =>
      obtain ⟨styles, others, imports⟩ := ih (scan.importStyle id)
      refine ⟨styles, others, fun other => ?_⟩
      rw [List.foldl_cons, imports]
      simp only [importStyle, List.mem_insert_iff, List.mem_cons]
      tauto

theorem foldl_refer (ids : List Ident) (scan : Scan) :
    (ids.foldl (fun scan id => scan.refer false id) scan).stylesReferences =
        scan.stylesReferences ∧
      (ids.foldl (fun scan id => scan.refer false id) scan).styleImports = scan.styleImports ∧
      ∀ id, id ∈ (ids.foldl (fun scan id => scan.refer false id) scan).otherReferences ↔
        id ∈ scan.otherReferences ∨ id ∈ ids := by
  induction ids generalizing scan with
  | nil => simp
  | cons id rest ih =>
      obtain ⟨styles, imports, others⟩ := ih (scan.refer false id)
      refine ⟨styles, imports, fun other => ?_⟩
      rw [List.foldl_cons, others]
      simp only [refer, Bool.false_eq_true, ↓reduceIte, List.mem_insert_iff, List.mem_cons]
      tauto

theorem records_imported (query : Query) (spot : Spot) (declaration : Import) (isItem : Bool)
    (scan : Scan) :
    Records query [.imported spot declaration isItem] scan
      (if declaration.typeOnly || !query.isStyle declaration.source.value then scan
        else (defaultBindings declaration).foldl (fun scan id => scan.importStyle id) scan) := by
  obtain ⟨styles, others, imports⟩ := foldl_importStyle (defaultBindings declaration) scan
  split
  next passed =>
    refine ⟨fun id => ?_, fun id => ?_, fun id => ?_⟩
    · simp [Sight.ReadsInStyles, Sight.read?]
    · simp [Sight.ReadsElsewhere, Sight.read?]
    · simp only [Bool.or_eq_true, Bool.not_eq_true'] at passed
      rw [exists_mem_singleton, Sight.ImportsStyle, iff_self_or]
      rintro ⟨valued, styled, _⟩
      rcases passed with typed | unstyled
      · cases typed.symm.trans valued
      · cases unstyled.symm.trans styled
  next taken =>
    simp only [Bool.or_eq_true, Bool.not_eq_true', not_or, Bool.not_eq_true,
      Bool.not_eq_false] at taken
    refine ⟨fun id => ?_, fun id => ?_, fun id => ?_⟩
    · simp [styles, Sight.ReadsInStyles, Sight.read?]
    · simp [others, Sight.ReadsElsewhere, Sight.read?]
    · rw [imports]
      simp [Sight.ImportsStyle, taken]

theorem records_exported (query : Query) (spot : Spot) (ids : List Ident) (scan : Scan) :
    Records query (ids.map (Sight.exported spot)) scan
      (ids.foldl (fun scan id => scan.refer false id) scan) := by
  obtain ⟨styles, imports, others⟩ := foldl_refer ids scan
  refine ⟨fun id => ?_, fun id => ?_, fun id => ?_⟩
  · simp [styles, Sight.ReadsInStyles, Sight.read?]
  · simp [others, Sight.ReadsElsewhere, Sight.read?]
  · simp [imports, Sight.ImportsStyle]

theorem records_styled (query : Query) (spot : Spot) (head : ClassHead) (members : List Node)
    (matching : Bool) (scan : Scan) :
    Records query (if matching then [.styled spot head members] else []) scan scan := by
  cases matching with
  | false => exact .nil scan
  | true =>
      exact ⟨by simp [Sight.ReadsInStyles, Sight.read?],
        by simp [Sight.ReadsElsewhere, Sight.read?], by simp [Sight.ImportsStyle]⟩

/-- The parts of a class member are in styles if the member is. -/
theorem inStyles_part {inStyles isStyles : Bool} {spot : Spot}
    (place : inStyles = true ↔ spot.place ≠ .outside ∨ isStyles = true) (part : Place)
    (inside : part ≠ .outside) :
    inStyles = true ↔
      (if isStyles then spot.within part else spot).place ≠ .outside ∨ false = true := by
  cases isStyles with
  | false => simpa using place
  | true => simp [place, Spot.within, Place.join_ne_outside inside]

mutual

/-- A scan records what a visit comes upon. -/
theorem records_sights (query : Query) (spot : Spot) (isStyles inStyles : Bool) (node : Node)
    (place : inStyles = true ↔ spot.place ≠ .outside ∨ isStyles = true)
    (styles : isStyles = true → isStylesMember node = true) (scan : Scan) :
    Records query (sights query.baseClass spot isStyles node) scan
      (collect query inStyles node scan) := by
  cases node with
  | member head key front core back =>
      have around := inStyles_part place .beside (by decide)
      have filled := inStyles_part place .filled (by decide)
      simp only [sights, collect]
      exact (((records_sights query _ false inStyles key around nofun scan).append
        (records_sightsOfAll query _ inStyles front around _)).append
        (records_sights query _ false inStyles core filled nofun _)).append
        (records_sightsOfAll query _ inStyles back around _)
  | ident role id =>
      cases isStyles with
      | true => cases styles rfl
      | false => exact records_name query spot role id inStyles (by simpa using place) scan
  | importDecl declaration attributes =>
      cases isStyles with
      | true => cases styles rfl
      | false =>
          have inner := records_sights query spot false inStyles attributes place nofun
            (useNames (idsOfImport declaration) scan)
          exact .of_useNames (idsOfImport declaration)
            (inner.append (records_imported query spot declaration false _))
  | exportNames declaration attributes =>
      cases isStyles with
      | true => cases styles rfl
      | false =>
          have inner := records_sights query spot false inStyles attributes place nofun
            (useNames (idsOfExport declaration) scan)
          exact .of_useNames (idsOfExport declaration)
            (inner.append (records_exported query spot (exportedBindings declaration) _))
  | classNode head decorators members parent rest =>
      cases isStyles with
      | true => cases styles rfl
      | false =>
          have plain : inStyles = true ↔ spot.place ≠ .outside := by simpa using place
          simp only [sights, collect]
          refine .of_useNames head.name.toList ?_
          refine ((((records_sightsOfAll query spot inStyles decorators place _).append
            (records_sightsOfMembers query spot inStyles _ members plain _)).append
            (records_sights query spot false inStyles parent place nofun _)).append
            (records_sightsOfAll query spot inStyles rest place _)).append ?_
          exact records_styled query spot head members _ _
  | items body =>
      cases isStyles with
      | true => cases styles rfl
      | false => exact records_sightsOfItems query spot inStyles body place scan
  | form shape parts =>
      cases isStyles with
      | true => cases styles rfl
      | false => exact records_sightsOfAll query spot inStyles parts place scan
termination_by node.weight
decreasing_by all_goals (subst_vars; simp only [Node.weight]; omega)

theorem records_sightsOfAll (query : Query) (spot : Spot) (inStyles : Bool) (nodes : List Node)
    (place : inStyles = true ↔ spot.place ≠ .outside ∨ false = true) (scan : Scan) :
    Records query (sightsOfAll query.baseClass spot false nodes) scan
      (collectAll query inStyles nodes scan) := by
  cases nodes with
  | nil => exact .nil scan
  | cons node rest =>
      exact (records_sights query spot false inStyles node place nofun scan).append
        (records_sightsOfAll query spot inStyles rest place _)
termination_by Node.weightOf nodes
decreasing_by all_goals (subst_vars; simp only [Node.weightOf]; omega)

theorem records_sightsOfMembers (query : Query) (spot : Spot) (inStyles matching : Bool)
    (members : List Node) (place : inStyles = true ↔ spot.place ≠ .outside) (scan : Scan) :
    Records query (sightsOfAll query.baseClass spot matching members) scan
      (collectMembers query inStyles matching members scan) := by
  cases members with
  | nil => exact .nil scan
  | cons node rest =>
      have here : (inStyles || (matching && isStylesMember node)) = true ↔
          spot.place ≠ .outside ∨ (matching && isStylesMember node) = true := by
        rw [Bool.or_eq_true, place]
      have styles : (matching && isStylesMember node) = true → isStylesMember node = true := by
        intro both
        exact (Bool.and_eq_true_iff.mp both).2
      exact (records_sights query spot _ _ node here styles scan).append
        (records_sightsOfMembers query spot inStyles matching rest place _)
termination_by Node.weightOf members
decreasing_by all_goals (subst_vars; simp only [Node.weightOf]; omega)

theorem records_sightsOfItems (query : Query) (spot : Spot) (inStyles : Bool) (items : List Node)
    (place : inStyles = true ↔ spot.place ≠ .outside ∨ false = true) (scan : Scan) :
    Records query (sightsOfItems query.baseClass spot items) scan
      (collectAll query inStyles items scan) := by
  cases items with
  | nil => exact .nil scan
  | cons item rest =>
      rcases item.isImport_or with ⟨declaration, attributes, rfl⟩ | plain
      · have inner := records_sights query (spot.inside declaration) false inStyles attributes
          place nofun (useNames (idsOfImport declaration) scan)
        have others := records_sightsOfItems query spot inStyles rest place
          (collect query inStyles (.importDecl declaration attributes) scan)
        have whole := inner.append
          ((records_imported query spot declaration true _).append others)
        exact .of_useNames (idsOfImport declaration) whole
      · rw [sightsOfItems_cons _ _ _ plain]
        exact (records_sights query spot false inStyles item place nofun scan).append
          (records_sightsOfItems query spot inStyles rest place _)
termination_by Node.weightOf items
decreasing_by all_goals (subst_vars; simp only [Node.weight, Node.weightOf]; omega)

end

/-- What a visit of a module comes upon. -/
def seenOf (query : Query) (module : Module) : List Sight :=
  sightsOfItems query.baseClass {} module.items

theorem records_ofModule (query : Query) (module : Module) :
    Records query (seenOf query module) {} (ofModule query module) :=
  records_sightsOfItems query {} false module.items (by simp) {}

end Scan

end StyleInline
