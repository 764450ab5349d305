import StyleInline.Proofs.FreshNames

/-!
# What a scan counts

Every node of a module stands at a position, and around it stand class members, each in a class of
its own.  The scan carries a flag through the module instead; at every position it tells whether a
styles member is among those around.  So what the scan holds can be read off the positions.
-/

namespace StyleInline

open Script

/-- A node right inside another one. -/
structure Part where
  node : Node
  /-- What the class extends whose member the node is, if it is a class member. -/
  parent? : Option Node := none

namespace Script

def Node.partsOf : Node → List Part
  | .ident _ _ => []
  | .importDecl _ attributes => [{ node := attributes }]
  | .exportNames _ attributes => [{ node := attributes }]
  | .classNode _ decorators members parent rest =>
    decorators.map (fun node => { node }) ++
      members.map (fun node => { node, parent? := some parent }) ++
      { node := parent } :: rest.map (fun node => { node })
  | .member _ key front core back =>
    { node := key } :: front.map (fun node => { node }) ++
      { node := core } :: back.map (fun node => { node })
  | .items body => body.map fun node => { node }
  | .form _ parts => parts.map fun node => { node }

/-- A name on the near or the far side of an import is an identifier. -/
def ImportSpecifier.Bears (id : Ident) : ImportSpecifier → Prop
  | .default binding => binding = id
  | .everything binding => binding = id
  | .named binding imported _ => binding = id ∨ imported = some (.ident id)

/-- A name on the near or the far side of an export is an identifier. -/
def ExportSpecifier.Bears (id : Ident) : ExportSpecifier → Prop
  | .named subject exported _ => subject = .ident id ∨ exported = some (.ident id)
  | .everything exported => exported = .ident id

/-- A node has an identifier that is not in one of its parts. -/
def Node.Bears (id : Ident) : Node → Prop
  | .ident _ own => own = id
  | .importDecl declaration _ => ∃ specifier ∈ declaration.specifiers, specifier.Bears id
  | .exportNames declaration _ => ∃ specifier ∈ declaration.specifiers, specifier.Bears id
  | .classNode head _ _ _ _ => head.name = some id
  | _ => False

/-- A key that is written as a name or as a string. -/
def Node.Spells (text : String) : Node → Prop
  | .form (.key name) _ => name = text
  | .form (.text literal) _ => literal.value = text
  | _ => False

/-- A static field or getter with the key `styles`. -/
inductive Node.IsStyles : Node → Prop where
  | member {head : MemberHead} {key core : Node} {front back : List Node}
      (isStatic : head.isStatic = true) (kind : head.kind = .field ∨ head.kind = .getter)
      (spelled : key.Spells "styles") : IsStyles (.member head key front core back)

end Script

/-- A node where it stands. -/
structure Occurrence where
  node : Node
  /-- The class members around the node, the innermost first, each with what its class extends. -/
  members : List (Node × Node) := []

namespace Occurrence

def inner (occurrence : Occurrence) (part : Part) : Occurrence where
  node := part.node
  members := (part.parent?.map (part.node, ·)).toList ++ occurrence.members

/-- What stands at a position, the numbers of parts on the way there. -/
def at? (occurrence : Occurrence) : List Nat → Option Occurrence
  | [] => some occurrence
  | index :: rest =>
    match occurrence.node.partsOf[index]? with
    | none => none
    | some part => (occurrence.inner part).at? rest

/-- The value of a binding is read, as an expression or as a property without a value of its own. -/
def Reads (id : Ident) (occurrence : Occurrence) : Prop :=
  occurrence.node = .ident .use id ∨ occurrence.node = .ident .shorthand id

/-- An export list of this module makes a binding visible. -/
def Exports (id : Ident) (occurrence : Occurrence) : Prop :=
  ∃ declaration attributes exported typeOnly,
    occurrence.node = .exportNames declaration attributes ∧ declaration.source = none ∧
      .named (.ident id) exported typeOnly ∈ declaration.specifiers

/-- A binding is the default binding of an imported stylesheet. -/
def ImportsStyle (query : Scan.Query) (id : Ident) (occurrence : Occurrence) : Prop :=
  ∃ declaration attributes, occurrence.node = .importDecl declaration attributes ∧
    declaration.typeOnly = false ∧ query.isStyle declaration.source.value = true ∧
      .default id ∈ declaration.specifiers

/-- One of the class members around is a styles member of a class that extends the base class. -/
def InStyles (base : String) (occurrence : Occurrence) : Prop :=
  ∃ member parent, (member, parent) ∈ occurrence.members ∧ member.IsStyles ∧
    ∃ scope, parent = .ident .use ⟨base, scope⟩

def Within (occurrence : Occurrence) (holds : Occurrence → Prop) : Prop :=
  ∃ position other, occurrence.at? position = some other ∧ holds other

end Occurrence

/-- A module where it stands. -/
def Script.Module.root (module : Module) : Occurrence := { node := .items module.items }

section Keys

variable {node : Node}

theorem isStylesKey_iff : isStylesKey node = true ↔ node.Spells "styles" := by
  unfold isStylesKey Node.Spells
  split <;> simp

theorem isStylesMember_iff : isStylesMember node = true ↔ node.IsStyles := by
  constructor
  · intro styles
    cases node with
    | member head key front core back =>
        simp only [isStylesMember, Bool.and_eq_true, Bool.or_eq_true, beq_iff_eq] at styles
        exact .member styles.1.1 styles.1.2 (isStylesKey_iff.mp styles.2)
    | _ => cases styles
  · rintro ⟨isStatic, kind, spelled⟩
    simp only [isStylesMember, Bool.and_eq_true, Bool.or_eq_true, beq_iff_eq]
    exact ⟨⟨isStatic, kind⟩, isStylesKey_iff.mpr spelled⟩

theorem extendsBase_iff {base : String} :
    extendsBase base node = true ↔ ∃ scope, node = .ident .use ⟨base, scope⟩ := by
  constructor
  · intro extended
    unfold extendsBase Node.asUse? at extended
    split at extended
    next id found =>
      split at found
      · cases found
        exact ⟨id.scope, by rw [← eq_of_beq extended]⟩
      · cases found
    · cases extended
  · rintro ⟨scope, rfl⟩
    simp [extendsBase, Node.asUse?]

end Keys

namespace Occurrence

section Positions

variable {occurrence : Occurrence} {holds : Occurrence → Prop}

/-- What holds at a position holds at the node itself or at a position in one of its parts. -/
theorem within_iff :
    occurrence.Within holds ↔
      holds occurrence ∨ ∃ part ∈ occurrence.node.partsOf, (occurrence.inner part).Within holds := by
  constructor
  · rintro ⟨position, other, found, held⟩
    cases position with
    | nil =>
        cases found
        exact .inl held
    | cons index rest =>
        rw [at?] at found
        split at found
        · cases found
        next part here => exact .inr ⟨part, List.mem_of_getElem? here, rest, other, found, held⟩
  · rintro (held | ⟨part, member, rest, other, found, held⟩)
    · exact ⟨[], occurrence, rfl, held⟩
    · obtain ⟨index, here⟩ := List.getElem?_of_mem member
      refine ⟨index :: rest, other, ?_, held⟩
      rw [at?, here]
      exact found

theorem weight_lt_of_mem {part : Part} {make : Node → Part} (same : ∀ node, (make node).node = node)
    {nodes : List Node} (member : part ∈ nodes.map make) :
    part.node.weight < Node.weightOf nodes := by
  induction nodes with
  | nil => cases member
  | cons first rest ih =>
      rw [Node.weightOf]
      rcases List.mem_cons.mp member with rfl | later
      · rw [same]
        omega
      · have lighter := ih later
        omega

theorem weight_lt_of_part {node : Node} {part : Part} (member : part ∈ node.partsOf) :
    part.node.weight < node.weight := by
  cases node with
  | ident role id => cases member
  | importDecl declaration attributes =>
      obtain rfl := List.mem_singleton.mp member
      exact Nat.lt_succ_self _
  | exportNames declaration attributes =>
      obtain rfl := List.mem_singleton.mp member
      exact Nat.lt_succ_self _
  | classNode head decorators members parent rest =>
      simp only [Node.partsOf, List.mem_append, List.mem_cons] at member
      rw [Node.weight]
      rcases member with (inside | inside) | rfl | inside
      · have lighter := weight_lt_of_mem (fun _ => rfl) inside
        omega
      · have lighter := weight_lt_of_mem (fun _ => rfl) inside
        omega
      · dsimp only
        omega
      · have lighter := weight_lt_of_mem (fun _ => rfl) inside
        omega
  | member head key front core back =>
      simp only [Node.partsOf, List.cons_append, List.mem_append, List.mem_cons] at member
      rw [Node.weight]
      rcases member with rfl | inside | rfl | inside
      · dsimp only
        omega
      · have lighter := weight_lt_of_mem (fun _ => rfl) inside
        omega
      · dsimp only
        omega
      · have lighter := weight_lt_of_mem (fun _ => rfl) inside
        omega
  | items body => exact Nat.lt_succ_of_lt (weight_lt_of_mem (fun _ => rfl) member)
  | form shape parts => exact Nat.lt_succ_of_lt (weight_lt_of_mem (fun _ => rfl) member)

end Positions

def inStyles (base : String) (occurrence : Occurrence) : Bool :=
  occurrence.members.any fun (member, parent) => extendsBase base parent && isStylesMember member

theorem inStyles_iff {base : String} {occurrence : Occurrence} :
    occurrence.inStyles base = true ↔ occurrence.InStyles base := by
  rw [inStyles, List.any_eq_true]
  simp only [Bool.and_eq_true, extendsBase_iff, isStylesMember_iff]
  constructor
  · rintro ⟨⟨member, parent⟩, around, extended, styles⟩
    exact ⟨member, parent, around, styles, extended⟩
  · rintro ⟨member, parent, around, styles, extended⟩
    exact ⟨(member, parent), around, extended, styles⟩

@[simp]
theorem inStyles_inner (base : String) (occurrence : Occurrence) (node : Node) :
    (occurrence.inner { node }).inStyles base = occurrence.inStyles base := rfl

@[simp]
theorem inStyles_member (base : String) (occurrence : Occurrence) (node parent : Node) :
    (occurrence.inner { node, parent? := some parent }).inStyles base =
      (occurrence.inStyles base || (extendsBase base parent && isStylesMember node)) := by
  rw [Bool.or_comm]
  rfl

end Occurrence

namespace Scan

variable {query : Query}

def enter (inStyles : Bool) (node : Node) (scan : Scan) : Scan :=
  match node with
  | .ident role id =>
    let scan := scan.useName id.name
    if role.reads then scan.refer inStyles id else scan
  | .importDecl declaration _ => useNames (idsOfImport declaration) scan
  | .exportNames declaration _ => useNames (idsOfExport declaration) scan
  | .classNode head _ _ _ _ => useNames head.name.toList scan
  | _ => scan

def leave (query : Query) (node : Node) (scan : Scan) : Scan :=
  match node with
  | .importDecl declaration _ =>
    if declaration.typeOnly || !query.isStyle declaration.source.value then scan
    else (defaultBindings declaration).foldl (fun scan id => scan.importStyle id) scan
  | .exportNames declaration _ =>
    (exportedBindings declaration).foldl (fun scan id => scan.refer false id) scan
  | _ => scan

section Steps

theorem collectAll_eq (inStyles : Bool) (nodes : List Node) (scan : Scan) :
    collectAll query inStyles nodes scan =
      nodes.foldl (fun scan node => collect query inStyles node scan) scan := by
  induction nodes generalizing scan with
  | nil => rw [collectAll, List.foldl_nil]
  | cons node rest ih => rw [collectAll, ih, List.foldl_cons]

theorem collectMembers_eq (inStyles matching : Bool) (members : List Node) (scan : Scan) :
    collectMembers query inStyles matching members scan =
      members.foldl (fun scan node =>
        collect query (inStyles || (matching && isStylesMember node)) node scan) scan := by
  induction members generalizing scan with
  | nil => rw [collectMembers, List.foldl_nil]
  | cons node rest ih => rw [collectMembers, ih, List.foldl_cons]

/-- A scan goes through the parts of a node with the flags that belong to them. -/
theorem collect_eq (occurrence : Occurrence) (scan : Scan) :
    collect query (occurrence.inStyles query.baseClass) occurrence.node scan =
      leave query occurrence.node (occurrence.node.partsOf.foldl (fun scan part =>
        collect query ((occurrence.inner part).inStyles query.baseClass) part.node scan)
        (enter (occurrence.inStyles query.baseClass) occurrence.node scan)) := by
  obtain ⟨node, members⟩ := occurrence
  cases node <;>
    simp [collect, enter, leave, Node.partsOf, collectAll_eq, collectMembers_eq, List.foldl_map]

/-- Something is noted at nodes where `before` holds, and behind the parts where `after` does. -/
structure Counts {α : Type} (query : Query) (field : Scan → List α) (noted : α)
    (before after : Occurrence → Prop) : Prop where
  enter : ∀ occurrence scan,
    noted ∈ field (enter (occurrence.inStyles query.baseClass) occurrence.node scan) ↔
      noted ∈ field scan ∨ before occurrence
  leave : ∀ (occurrence : Occurrence) (scan : Scan),
    noted ∈ field (leave query occurrence.node scan) ↔ noted ∈ field scan ∨ after occurrence

/-- What is noted of a node is noted somewhere in it. -/
theorem Counts.mem_collect {α : Type} {field : Scan → List α} {noted : α}
    {before after : Occurrence → Prop} (counts : Counts query field noted before after)
    (occurrence : Occurrence) (scan : Scan) :
    noted ∈ field (collect query (occurrence.inStyles query.baseClass) occurrence.node scan) ↔
      noted ∈ field scan ∨ occurrence.Within fun other => before other ∨ after other := by
  induction weight : occurrence.node.weight using Nat.strongRecOn generalizing occurrence scan with
  | _ weight ih =>
      subst weight
      have parts : ∀ (parts : List Part) (scan : Scan),
          (∀ part ∈ parts, part ∈ occurrence.node.partsOf) →
          (noted ∈ field (parts.foldl (fun scan part =>
              collect query ((occurrence.inner part).inStyles query.baseClass) part.node scan) scan) ↔
            noted ∈ field scan ∨ ∃ part ∈ parts,
              (occurrence.inner part).Within fun other => before other ∨ after other) := by
        intro parts
        induction parts with
        | nil => simp
        | cons part rest ihRest =>
            intro scan among
            have first := ih part.node.weight (Occurrence.weight_lt_of_part (among part (by simp)))
              (occurrence.inner part) scan rfl
            have inner : (occurrence.inner part).node = part.node := rfl
            rw [inner] at first
            rw [List.foldl_cons, ihRest _ fun part member => among part (by simp [member]), first,
              or_assoc]
            simp only [List.mem_cons, exists_eq_or_imp]
      rw [collect_eq, counts.leave, parts _ _ fun _ => id, counts.enter, Occurrence.within_iff]
      simp only [or_assoc, or_comm, or_left_comm]

end Steps

section Specifiers

variable {id : Ident}

theorem mem_idsOfModuleName {name : ModuleName} : id ∈ idsOfModuleName name ↔ name = .ident id := by
  cases name with
  | ident own => simp [idsOfModuleName, eq_comm]
  | text literal => simp [idsOfModuleName]

theorem mem_idsOfFarName {name? : Option ModuleName} :
    id ∈ name?.toList.flatMap idsOfModuleName ↔ name? = some (.ident id) := by
  cases name? with
  | none => simp
  | some name => simp [mem_idsOfModuleName]

theorem mem_idsOfImport {declaration : Import} :
    id ∈ idsOfImport declaration ↔ ∃ specifier ∈ declaration.specifiers, specifier.Bears id := by
  rw [idsOfImport, List.mem_flatMap]
  refine exists_congr fun specifier => and_congr_right fun _ => ?_
  cases specifier with
  | default binding => simp [ImportSpecifier.Bears, eq_comm]
  | everything binding => simp [ImportSpecifier.Bears, eq_comm]
  | named binding imported typeOnly =>
      rw [List.mem_cons, mem_idsOfFarName, ImportSpecifier.Bears, eq_comm]

theorem mem_idsOfExport {declaration : Export} :
    id ∈ idsOfExport declaration ↔ ∃ specifier ∈ declaration.specifiers, specifier.Bears id := by
  rw [idsOfExport, List.mem_flatMap]
  refine exists_congr fun specifier => and_congr_right fun _ => ?_
  cases specifier with
  | named subject exported typeOnly =>
      rw [List.mem_append, mem_idsOfModuleName, mem_idsOfFarName, ExportSpecifier.Bears]
  | everything exported => exact mem_idsOfModuleName

theorem mem_defaultBindings {declaration : Import} :
    id ∈ defaultBindings declaration ↔ .default id ∈ declaration.specifiers := by
  rw [defaultBindings, List.mem_filterMap]
  constructor
  · rintro ⟨specifier, member, same⟩
    cases specifier with
    | default binding =>
        cases same
        exact member
    | everything binding => cases same
    | named binding imported typeOnly => cases same
  · intro member
    exact ⟨_, member, rfl⟩

theorem mem_exportedBindings {declaration : Export} :
    id ∈ exportedBindings declaration ↔ declaration.source = none ∧
      ∃ exported typeOnly, .named (.ident id) exported typeOnly ∈ declaration.specifiers := by
  unfold exportedBindings
  cases declaration.source with
  | some source => simp
  | none =>
      simp only [Option.isSome_none, Bool.false_eq_true, if_false, List.mem_filterMap, true_and]
      constructor
      · rintro ⟨specifier, member, same⟩
        split at same
        · cases same
          exact ⟨_, _, member⟩
        · cases same
      · rintro ⟨exported, typeOnly, member⟩
        exact ⟨_, member, rfl⟩

end Specifiers

section Counting

variable {name : String} {id : Ident}

theorem counts_names :
    Counts query usedNames name (fun occurrence => ∃ id, occurrence.node.Bears id ∧ id.name = name)
      fun _ => False := by
  constructor
  · rintro ⟨node, members⟩ scan
    cases node with
    | ident role own =>
        have used : (enter ((Occurrence.mk (.ident role own) members).inStyles query.baseClass)
            (.ident role own) scan).usedNames = (scan.useName own.name).usedNames := by
          unfold enter
          dsimp only
          split
          · exact usedNames_refer _ own _
          · rfl
        simp only [used, useName, List.mem_insert_iff, Node.Bears, exists_eq_left']
        rw [or_comm, eq_comm]
    | importDecl declaration attributes =>
        rw [enter, names_useNames]
        simp only [mem_idsOfImport, Node.Bears]
    | exportNames declaration attributes =>
        rw [enter, names_useNames]
        simp only [mem_idsOfExport, Node.Bears]
    | classNode head decorators members parent rest =>
        rw [enter, names_useNames]
        simp only [Option.mem_toList, Node.Bears]
    | _ => simp [enter, Node.Bears]
  · rintro ⟨node, members⟩ scan
    have same : (leave query node scan).usedNames = scan.usedNames := by
      unfold leave
      split
      · split
        · rfl
        · exact usedNames_foldl importStyle (fun _ _ => rfl) _ _
      · exact usedNames_foldl (refer false) (usedNames_refer false) _ _
      · rfl
    simp [same]

/-- Names alone leave the bindings as they are. -/
theorem useNames_keeps (ids : List Ident) (scan : Scan) :
    (useNames ids scan).styleImports = scan.styleImports ∧
      (useNames ids scan).stylesReferences = scan.stylesReferences ∧
        (useNames ids scan).otherReferences = scan.otherReferences := by
  induction ids generalizing scan with
  | nil => exact ⟨rfl, rfl, rfl⟩
  | cons first rest ih => exact ih (scan.useName first.name)

theorem counts_imports :
    Counts query styleImports id (fun _ => False) (Occurrence.ImportsStyle query id) := by
  constructor
  · rintro ⟨node, members⟩ scan
    have same : ∀ inStyles, (enter inStyles node scan).styleImports = scan.styleImports := by
      intro inStyles
      unfold enter
      split
      · dsimp only
        split
        · cases inStyles <;> rfl
        · rfl
      · exact (useNames_keeps _ scan).1
      · exact (useNames_keeps _ scan).1
      · exact (useNames_keeps _ scan).1
      · rfl
    simp [same]
  · rintro ⟨node, members⟩ scan
    cases node with
    | importDecl declaration attributes =>
        have noted : Occurrence.ImportsStyle query id ⟨.importDecl declaration attributes, members⟩ ↔
            declaration.typeOnly = false ∧ query.isStyle declaration.source.value = true ∧
              id ∈ defaultBindings declaration := by
          rw [mem_defaultBindings]
          constructor
          · rintro ⟨_, _, same, held⟩
            cases same
            exact held
          · intro held
            exact ⟨_, _, rfl, held⟩
        rw [noted, leave]
        cases declaration.typeOnly with
        | true => simp
        | false =>
            cases query.isStyle declaration.source.value with
            | true => simp [(foldl_importStyle _ scan).2.2]
            | false => simp
    | exportNames declaration attributes =>
        simp [leave, (foldl_refer _ scan).2.1, Occurrence.ImportsStyle]
    | _ => simp [leave, Occurrence.ImportsStyle]

theorem reads_iff {role : Role} {own : Ident} {members : List (Node × Node)} :
    Occurrence.Reads id ⟨.ident role own, members⟩ ↔ role.reads = true ∧ id = own := by
  cases role <;> simp [Occurrence.Reads, Role.reads, eq_comm]

theorem counts_styles :
    Counts query stylesReferences id
      (fun occurrence => occurrence.Reads id ∧ occurrence.InStyles query.baseClass)
      fun _ => False := by
  constructor
  · rintro ⟨node, members⟩ scan
    cases node with
    | ident role own =>
        rw [← Occurrence.inStyles_iff, reads_iff, enter]
        cases role.reads with
        | false => simp [useName]
        | true =>
            cases Occurrence.inStyles query.baseClass ⟨.ident role own, members⟩ <;>
              simp [refer, useName, or_comm]
    | _ => simp [enter, useNames_keeps, Occurrence.Reads]
  · rintro ⟨node, members⟩ scan
    cases node with
    | importDecl declaration attributes =>
        rw [leave]
        split
        · simp
        · simp [(foldl_importStyle _ scan).1]
    | exportNames declaration attributes => simp [leave, (foldl_refer _ scan).1]
    | _ => simp [leave]

theorem counts_others :
    Counts query otherReferences id
      (fun occurrence => occurrence.Reads id ∧ ¬ occurrence.InStyles query.baseClass)
      (Occurrence.Exports id) := by
  constructor
  · rintro ⟨node, members⟩ scan
    cases node with
    | ident role own =>
        rw [← Occurrence.inStyles_iff, reads_iff, enter]
        cases role.reads with
        | false => simp [useName]
        | true =>
            cases Occurrence.inStyles query.baseClass ⟨.ident role own, members⟩ <;>
              simp [refer, useName, or_comm]
    | _ => simp [enter, useNames_keeps, Occurrence.Reads]
  · rintro ⟨node, members⟩ scan
    cases node with
    | importDecl declaration attributes =>
        rw [leave]
        split
        · simp [Occurrence.Exports]
        · simp [(foldl_importStyle _ scan).2.1, Occurrence.Exports]
    | exportNames declaration attributes =>
        have noted : Occurrence.Exports id ⟨.exportNames declaration attributes, members⟩ ↔
            id ∈ exportedBindings declaration := by
          rw [mem_exportedBindings]
          constructor
          · rintro ⟨_, _, exported, typeOnly, same, source, listed⟩
            cases same
            exact ⟨source, exported, typeOnly, listed⟩
          · rintro ⟨source, exported, typeOnly, listed⟩
            exact ⟨_, _, exported, typeOnly, rfl, source, listed⟩
        rw [noted, leave, (foldl_refer _ scan).2.2]
    | _ => simp [leave, Occurrence.Exports]

end Counting

/-- A scan holds what its positions tell: all names; the default bindings of imported stylesheets;
the bindings that are read with a styles member around; and those that are read without one or
exported.  Every place where a value is read is counted in one of the last two, and in one only. -/
theorem ofModule_means (query : Query) (module : Module) :
    (∀ name, name ∈ (ofModule query module).usedNames ↔
      module.root.Within fun other => ∃ id, other.node.Bears id ∧ id.name = name) ∧
    (∀ id, id ∈ (ofModule query module).styleImports ↔
      module.root.Within (Occurrence.ImportsStyle query id)) ∧
    (∀ id, id ∈ (ofModule query module).stylesReferences ↔
      module.root.Within fun other => other.Reads id ∧ other.InStyles query.baseClass) ∧
    (∀ id, id ∈ (ofModule query module).otherReferences ↔
      module.root.Within fun other =>
        other.Reads id ∧ ¬ other.InStyles query.baseClass ∨ other.Exports id) ∧
    ∀ position here id, module.root.at? position = some here → here.Reads id →
      (here.InStyles query.baseClass → id ∈ (ofModule query module).stylesReferences) ∧
      (¬ here.InStyles query.baseClass → id ∈ (ofModule query module).otherReferences) ∧
      ((∀ elsewhere other, module.root.at? elsewhere = some other →
          other.Reads id ∨ other.Exports id → elsewhere = position) →
        (id ∈ (ofModule query module).stylesReferences ↔
          id ∉ (ofModule query module).otherReferences)) := by
  have whole : ofModule query module =
      collect query (module.root.inStyles query.baseClass) module.root.node {} := rfl
  have names : ∀ name, name ∈ (ofModule query module).usedNames ↔
      module.root.Within fun other => ∃ id, other.node.Bears id ∧ id.name = name := by
    intro name
    rw [whole, counts_names.mem_collect, or_iff_right List.not_mem_nil]
    simp only [or_false]
  have imports : ∀ id, id ∈ (ofModule query module).styleImports ↔
      module.root.Within (Occurrence.ImportsStyle query id) := by
    intro id
    rw [whole, counts_imports.mem_collect, or_iff_right List.not_mem_nil]
    simp only [false_or]
  have styles : ∀ id, id ∈ (ofModule query module).stylesReferences ↔
      module.root.Within fun other => other.Reads id ∧ other.InStyles query.baseClass := by
    intro id
    rw [whole, counts_styles.mem_collect, or_iff_right List.not_mem_nil]
    simp only [or_false]
  have others : ∀ id, id ∈ (ofModule query module).otherReferences ↔
      module.root.Within fun other =>
        other.Reads id ∧ ¬ other.InStyles query.baseClass ∨ other.Exports id := by
    intro id
    rw [whole, counts_others.mem_collect, or_iff_right List.not_mem_nil]
  refine ⟨names, imports, styles, others, ?_⟩
  intro position here id found reads
  have inside : here.InStyles query.baseClass → id ∈ (ofModule query module).stylesReferences :=
    fun around => (styles id).mpr ⟨position, here, found, reads, around⟩
  have outside : ¬ here.InStyles query.baseClass → id ∈ (ofModule query module).otherReferences :=
    fun apart => (others id).mpr ⟨position, here, found, .inl ⟨reads, apart⟩⟩
  refine ⟨inside, outside, ?_⟩
  intro alone
  constructor
  · intro counted counted'
    obtain ⟨first, one, foundFirst, readsFirst, around⟩ := (styles id).mp counted
    obtain rfl := alone first one foundFirst (.inl readsFirst)
    obtain ⟨second, two, foundSecond, told⟩ := (others id).mp counted'
    obtain rfl := alone second two foundSecond (told.imp_left And.left)
    cases foundFirst.symm.trans foundSecond
    rcases told with ⟨_, apart⟩ | ⟨declaration, attributes, _, _, same, _⟩
    · exact apart around
    · rcases readsFirst with same' | same' <;> cases same.symm.trans same'
  · intro uncounted
    exact inside (Classical.byContradiction fun apart => uncounted (outside apart))

/-- A class in the styles of another one does not leave them, whatever it extends. -/
example :
    let member (isStatic : Bool) (name : String) (core : Node) : Node :=
      .member ⟨.field, isStatic, [], [], ""⟩ (.form (.key name) []) [] core []
    let extending (parent : String) (members : List Node) : Node :=
      .classNode ⟨false, false, false, none⟩ [] members (.ident .use ⟨parent, .free⟩) []
    let nested := extending "X" [member false "f" (.ident .use ⟨"a", .free⟩)]
    let scan := ofModule ⟨"B", fun _ => false⟩ ⟨none, [extending "B" [member true "styles" nested]]⟩
    scan.stylesReferences = [⟨"X", .free⟩, ⟨"a", .free⟩] ∧
      scan.otherReferences = [⟨"B", .free⟩] := by
  decide

end Scan

end StyleInline
