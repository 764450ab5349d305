import StyleInline.Proofs.Sights
import StyleInline.Rewrite

/-!
# The steps of the rewriting

What each step of the rewriting yields and what it changes, reported events apart.  Behind a
failure nothing is changed.
-/

namespace StyleInline

open Script

namespace Fetch

variable {σ : Type}

def answers (fetch : Fetch σ) (origin : Path) (world : σ) (path : Path) :
    Except InlineError String :=
  (fetch path origin world).1.content

/-- A stylesheet that was had leaves all other answers as they were. -/
def IsSteady (fetch : Fetch σ) (origin : Path) : Prop :=
  ∀ world path content, fetch.answers origin world path = .ok content →
    fetch.answers origin (fetch path origin world).2 = fetch.answers origin world

/-- No answer blames the order of items. -/
def IsProper (fetch : Fetch σ) (origin : Path) : Prop :=
  ∀ world path error, fetch.answers origin world path = .error error →
    error.isContractViolation = false

end Fetch

namespace Plan

def fault? (plan : Plan) (declaration : Import) : Option InlineError :=
  if declaration.typeOnly then none
  else
    match plan.stylesheet? declaration.source.value with
    | .error error => some error
    | .ok _ => none

/-- The stylesheet that an import stands for, with the binding of its text. -/
def sheet? (plan : Plan) (declaration : Import) : Option (Ident × Path) :=
  if declaration.typeOnly then none
  else
    match plan.stylesheet? declaration.source.value with
    | .ok (some path) => (Scan.defaultBindings declaration).head?.map fun binding => (binding, path)
    | _ => none

/-- The stylesheet of an import is named by its specifier. -/
theorem stylesheet?_of_sheet? {plan : Plan} {declaration : Import} {binding : Ident} {path : Path}
    (found : plan.sheet? declaration = some (binding, path)) :
    declaration.typeOnly = false ∧
      plan.stylesheet? declaration.source.value = .ok (some path) ∧
      (Scan.defaultBindings declaration).head? = some binding := by
  rw [Plan.sheet?] at found
  split at found
  next => cases found
  next valued =>
    split at found
    next named =>
      obtain ⟨other, head, same⟩ := Option.map_eq_some_iff.mp found
      cases same
      exact ⟨by simpa using valued, named, head⟩
    next => cases found

/-- A specifier that names no path is all that is wrong with an import by itself. -/
theorem resolve_of_fault? {plan : Plan} {declaration : Import} {error : InlineError}
    (failed : plan.fault? declaration = some error) :
    ∃ specifier origin, error = .resolve specifier origin := by
  rw [fault?] at failed
  split at failed
  · cases failed
  · rw [stylesheet?, resolveImport] at failed
    split at failed
    next inner refused =>
      split at refused
      · cases refused
        cases failed
        exact ⟨_, _, rfl⟩
      · cases refused
    · cases failed

/-- The binding of a stylesheet is a default binding of an import that is no import of types. -/
theorem of_sheet? {plan : Plan} {declaration : Import} {binding : Ident} {path : Path}
    (found : plan.sheet? declaration = some (binding, path)) :
    declaration.typeOnly = false ∧ plan.isStyle declaration.source.value = true ∧
      binding ∈ Scan.defaultBindings declaration := by
  obtain ⟨valued, named, head⟩ := stylesheet?_of_sheet? found
  refine ⟨valued, ?_, List.mem_of_head? head⟩
  rw [isStyle, named]

/-- The failure of an import that cannot be resolved, or whose stylesheet cannot be had. -/
def refusal? (plan : Plan) (answer : Path → Except InlineError String) (declaration : Import) :
    Option InlineError :=
  match plan.fault? declaration, plan.sheet? declaration with
  | some error, _ => some error
  | none, some (_, path) =>
    match answer path with
    | .error error => some error
    | .ok _ => none
  | none, none => none

/-- An import is refused if its specifier names no path, or as the stylesheet that it names. -/
theorem of_refusal? {plan : Plan} {answer : Path → Except InlineError String}
    {declaration : Import} {error : InlineError}
    (refused : plan.refusal? answer declaration = some error) :
    (∃ specifier origin, error = .resolve specifier origin) ∨
      ∃ path, answer path = .error error := by
  rw [refusal?] at refused
  cases failed : plan.fault? declaration with
  | some other =>
      rw [failed] at refused
      cases refused
      exact .inl (resolve_of_fault? failed)
  | none =>
      rw [failed] at refused
      cases found : plan.sheet? declaration with
      | none =>
          rw [found] at refused
          cases refused
      | some sheet =>
          rw [found] at refused
          dsimp only at refused
          split at refused
          next answered =>
            cases refused
            exact .inr ⟨_, answered⟩
          next => cases refused

end Plan

def Emit.tagDeclaration (name : Ident) (tag : Tag) : Import where
  typeOnly := false
  specifiers :=
    [.named name
      (if name.name = tag.localName then none else some (.ident { name := tag.localName })) false]
  source := ⟨tag.moduleName, none⟩

theorem Emit.tagImport_eq (name : Ident) (tag : Tag) :
    tagImport name tag = .importDecl (tagDeclaration name tag) .absent := rfl

/-- A constant is no import. -/
theorem Emit.constant_plain (binding : Ident) (value : Node) :
    ∀ declaration attributes, constant binding value ≠ .importDecl declaration attributes := by
  intro declaration attributes same
  rw [constant] at same
  cases same

namespace Rewrite

variable {σ : Type} {plan : Plan} {fetch : Fetch σ}

section Equations

variable (run : Run σ)

theorem rewriteNode_importDecl (declaration : Import) (attributes : Node) :
    rewriteNode plan fetch (.importDecl declaration attributes) run =
      let inner := rewriteNode plan fetch attributes run
      (.importDecl declaration inner.1, inner.2) := rfl

theorem rewriteNode_exportNames (declaration : Export) (attributes : Node) :
    rewriteNode plan fetch (.exportNames declaration attributes) run =
      let inner := rewriteNode plan fetch attributes run
      (.exportNames declaration inner.1, inner.2) := rfl

theorem rewriteNode_member (head : MemberHead) (key : Node) (front : List Node) (core : Node)
    (back : List Node) :
    rewriteNode plan fetch (.member head key front core back) run =
      let first := rewriteNode plan fetch key run
      let second := rewriteNodes plan fetch front first.2
      let third := rewriteNode plan fetch core second.2
      let fourth := rewriteNodes plan fetch back third.2
      (.member head first.1 second.1 third.1 fourth.1, fourth.2) := rfl

theorem rewriteNode_items (body : List Node) :
    rewriteNode plan fetch (.items body) run =
      let inner := rewriteItems plan fetch body run
      (.items inner.1, inner.2) := rfl

theorem rewriteNode_form (shape : Shape) (parts : List Node) :
    rewriteNode plan fetch (.form shape parts) run =
      let inner := rewriteNodes plan fetch parts run
      (.form shape inner.1, inner.2) := rfl

theorem rewriteNodes_cons (node : Node) (rest : List Node) :
    rewriteNodes plan fetch (node :: rest) run =
      let first := rewriteNode plan fetch node run
      let others := rewriteNodes plan fetch rest first.2
      (first.1 :: others.1, others.2) := rfl

theorem rewriteNode_classNode_failed (head : ClassHead) (decorators members : List Node)
    (parent : Node) (rest : List Node) (failed : run.failure.isSome = true) :
    rewriteNode plan fetch (.classNode head decorators members parent rest) run =
      (.classNode head decorators members parent rest, run) := by
  change (if run.failure.isSome then _ else _ : Step σ Node) run = _
  rw [if_pos failed]
  rfl

theorem rewriteNode_classNode_other (head : ClassHead) (decorators members : List Node)
    (parent : Node) (rest : List Node) (active : run.failure = none)
    (other : isMatching plan parent = false) :
    rewriteNode plan fetch (.classNode head decorators members parent rest) run =
      let first := rewriteNodes plan fetch decorators run
      let second := rewriteNodes plan fetch members first.2
      let third := rewriteNode plan fetch parent second.2
      let fourth := rewriteNodes plan fetch rest third.2
      (.classNode head first.1 second.1 third.1 fourth.1, fourth.2) := by
  change (if run.failure.isSome then _ else if isMatching plan parent then _ else _ : Step σ Node)
    run = _
  rw [active, other]
  rfl

def Run.called (name : Option String) (run : Run σ) : Run σ :=
  { run with progress := { run.progress with className := name } }

theorem rewriteNode_classNode_matching (head : ClassHead) (decorators members : List Node)
    (parent : Node) (rest : List Node) (active : run.failure = none)
    (matching : isMatching plan parent = true) :
    rewriteNode plan fetch (.classNode head decorators members parent rest) run =
      let first := rewriteNodes plan fetch decorators (run.called (some (classNameOf head)))
      let second := rewriteNodes plan fetch members first.2
      let third := rewriteNode plan fetch parent second.2
      let fourth := rewriteNodes plan fetch rest third.2
      let filled := fillStyles second.1 fourth.2
      (.classNode head first.1 filled.1 third.1 fourth.1,
        filled.2.called run.progress.className) := by
  change (if run.failure.isSome then _ else if isMatching plan parent then _ else _ : Step σ Node)
    run = _
  rw [active, matching]
  rfl

theorem rewriteItems_failed (items : List Node) (failed : run.failure.isSome = true) :
    rewriteItems plan fetch items run = (items, run) := by
  cases items with
  | nil => rfl
  | cons item rest =>
      cases item with
      | _ =>
          change (if run.failure.isSome then _ else _ : Step σ (List Node)) run = _
          rw [if_pos failed]
          rfl

theorem rewriteItems_importDecl (declaration : Import) (attributes : Node) (rest : List Node)
    (active : run.failure = none) :
    rewriteItems plan fetch (.importDecl declaration attributes :: rest) run =
      let first := rewriteNode plan fetch attributes run
      let second := rewriteImport plan fetch declaration first.1 first.2
      let others := rewriteItems plan fetch rest second.2
      (second.1 ++ others.1, others.2) := by
  change (if run.failure.isSome then _ else _ : Step σ (List Node)) run = _
  rw [active]
  rfl

theorem rewriteItems_alone (declaration : Import) (attributes : Node)
    (active : run.failure = none) :
    rewriteItems plan fetch [.importDecl declaration attributes] run =
      let first := rewriteNode plan fetch attributes run
      rewriteImport plan fetch declaration first.1 first.2 := by
  rw [rewriteItems_importDecl run declaration attributes [] active]
  exact congrArg (·, _) (List.append_nil _)

theorem rewriteItems_cons {item : Node} (rest : List Node) (active : run.failure = none)
    (plain : ∀ declaration attributes, item ≠ .importDecl declaration attributes) :
    rewriteItems plan fetch (item :: rest) run =
      let first := rewriteNode plan fetch item run
      let others := rewriteItems plan fetch rest first.2
      (first.1 :: others.1, others.2) := by
  cases item with
  | importDecl declaration attributes => exact absurd rfl (plain declaration attributes)
  | _ =>
      change (if run.failure.isSome then _ else _ : Step σ (List Node)) run = _
      rw [active]
      rfl

end Equations

mutual

/-- Behind a failure a node stays as it is. -/
theorem rewriteNode_failed (node : Node) (run : Run σ) (failed : run.failure.isSome = true) :
    rewriteNode plan fetch node run = (node, run) := by
  cases node with
  | ident role id => rfl
  | importDecl declaration attributes =>
      rw [rewriteNode_importDecl, rewriteNode_failed attributes run failed]
  | exportNames declaration attributes =>
      rw [rewriteNode_exportNames, rewriteNode_failed attributes run failed]
  | classNode head decorators members parent rest =>
      exact rewriteNode_classNode_failed run head decorators members parent rest failed
  | member head key front core back =>
      simp only [rewriteNode_member, rewriteNode_failed key run failed,
        rewriteNodes_failed front run failed, rewriteNode_failed core run failed,
        rewriteNodes_failed back run failed]
  | items body => rw [rewriteNode_items, rewriteItems_failed run body failed]
  | form shape parts => rw [rewriteNode_form, rewriteNodes_failed parts run failed]

theorem rewriteNodes_failed (nodes : List Node) (run : Run σ) (failed : run.failure.isSome = true) :
    rewriteNodes plan fetch nodes run = (nodes, run) := by
  cases nodes with
  | nil => rfl
  | cons node rest =>
      simp only [rewriteNodes_cons, rewriteNode_failed node run failed,
        rewriteNodes_failed rest run failed]

end

/-- Items one behind the other are rewritten one after the other. -/
theorem rewriteItems_append (first second : List Node) (run : Run σ) :
    rewriteItems plan fetch (first ++ second) run =
      let left := rewriteItems plan fetch first run
      let right := rewriteItems plan fetch second left.2
      (left.1 ++ right.1, right.2) := by
  induction first generalizing run with
  | nil => rfl
  | cons item rest ih =>
      cases failed : run.failure.isSome with
      | true => simp only [rewriteItems_failed run _ failed, List.cons_append]
      | false =>
          have active : run.failure = none := by simpa using failed
          rcases item.isImport_or with ⟨declaration, attributes, rfl⟩ | plain
          · simp only [List.cons_append, rewriteItems_importDecl run _ _ _ active, ih,
              List.append_assoc]
          · simp only [List.cons_append, rewriteItems_cons run _ active plain, ih]

section Imports

variable (declaration : Import) (attributes : Node) (run : Run σ)

theorem rewriteImport_fault {error : InlineError}
    (failed : plan.fault? declaration = some error) :
    rewriteImport plan fetch declaration attributes run =
      ([.importDecl declaration attributes], { run with failure := some error }) := by
  rw [Plan.fault?] at failed
  split at failed
  next => cases failed
  next valued =>
    split at failed
    next refused =>
      cases failed
      simp only [rewriteImport, replacement, valued, refused]
      rfl
    next => cases failed

theorem rewriteImport_other (passes : plan.fault? declaration = none)
    (other : plan.sheet? declaration = none) :
    ∃ events, rewriteImport plan fetch declaration attributes run =
      ([.importDecl declaration attributes], { run with events }) := by
  rw [Plan.fault?] at passes
  rw [Plan.sheet?] at other
  cases typed : declaration.typeOnly with
  | true =>
      refine ⟨run.events, ?_⟩
      simp only [rewriteImport, replacement, typed]
      rfl
  | false =>
      rw [typed, if_neg Bool.false_ne_true] at passes other
      cases named : plan.stylesheet? declaration.source.value with
      | error error =>
          rw [named] at passes
          cases passes
      | ok path? =>
          cases path? with
          | none =>
              refine ⟨run.events ++ [.notStylesheet declaration.source.value], ?_⟩
              simp only [rewriteImport, replacement, typed, named]
              rfl
          | some path =>
              rw [named] at other
              have missing := Option.map_eq_none_iff.mp other
              refine ⟨run.events ++ [.noDefaultBinding path], ?_⟩
              simp only [rewriteImport, replacement, typed, named, missing]
              rfl

variable {binding : Ident} {path : Path}

theorem request_eq (path origin : Path) :
    request fetch path origin run =
      ((fetch path origin run.world).1.content,
        { run with
          world := (fetch path origin run.world).2
          events := run.events ++ (fetch path origin run.world).1.events }) := rfl

theorem rewriteImport_refused (found : plan.sheet? declaration = some (binding, path))
    {error : InlineError}
    (refused : (fetch path plan.filename run.world).1.content = .error error) :
    ∃ events, rewriteImport plan fetch declaration attributes run =
      ([.importDecl declaration attributes],
        { run with
          failure := some error
          events
          world := (fetch path plan.filename run.world).2 }) := by
  obtain ⟨valued, named, head⟩ := Plan.stylesheet?_of_sheet? found
  refine ⟨run.events ++ (fetch path plan.filename run.world).1.events, ?_⟩
  simp only [rewriteImport, replacement, valued, named, head, Bool.false_eq_true, ↓reduceIte]
  simp only [bind, StateT.bind, request_eq, refused]
  rfl

theorem rewriteImport_inlined (found : plan.sheet? declaration = some (binding, path))
    {content : String}
    (answered : (fetch path plan.filename run.world).1.content = .ok content) :
    ∃ events, rewriteImport plan fetch declaration attributes run =
      inline plan binding path content
        { run with events, world := (fetch path plan.filename run.world).2 } := by
  obtain ⟨valued, named, head⟩ := Plan.stylesheet?_of_sheet? found
  refine ⟨run.events ++ (fetch path plan.filename run.world).1.events, ?_⟩
  simp only [rewriteImport, replacement, valued, named, head, Bool.false_eq_true, ↓reduceIte]
  simp only [bind, StateT.bind, request_eq, answered]
  rfl

/-- An import is refused, or it stays, or it makes room for its stylesheet. -/
theorem rewriteImport_cases :
    (∃ error events world,
      plan.refusal? (fetch.answers plan.filename run.world) declaration = some error ∧
        rewriteImport plan fetch declaration attributes run =
          ([.importDecl declaration attributes],
            { run with failure := some error, events, world })) ∨
    (∃ events,
      plan.refusal? (fetch.answers plan.filename run.world) declaration = none ∧
        plan.sheet? declaration = none ∧
        rewriteImport plan fetch declaration attributes run =
          ([.importDecl declaration attributes], { run with events })) ∨
    (∃ binding path content events,
      plan.refusal? (fetch.answers plan.filename run.world) declaration = none ∧
        plan.sheet? declaration = some (binding, path) ∧
        fetch.answers plan.filename run.world path = .ok content ∧
        rewriteImport plan fetch declaration attributes run =
          inline plan binding path content
            { run with events, world := (fetch path plan.filename run.world).2 }) := by
  simp only [Plan.refusal?]
  cases failed : plan.fault? declaration with
  | some error =>
      exact .inl ⟨error, run.events, run.world, rfl,
        rewriteImport_fault declaration attributes run failed⟩
  | none =>
      cases found : plan.sheet? declaration with
      | none =>
          obtain ⟨events, same⟩ := rewriteImport_other declaration attributes run failed found
          exact .inr (.inl ⟨events, rfl, rfl, same⟩)
      | some sheet =>
          obtain ⟨binding, path⟩ := sheet
          cases answered : fetch.answers plan.filename run.world path with
          | error error =>
              obtain ⟨events, same⟩ :=
                rewriteImport_refused declaration attributes run found answered
              exact .inl ⟨error, events, _, by simp only [answered], same⟩
          | ok content =>
              obtain ⟨events, same⟩ :=
                rewriteImport_inlined declaration attributes run found answered
              exact .inr (.inr ⟨binding, path, content, events, by simp only [answered], rfl,
                answered, same⟩)

end Imports

end Rewrite

namespace Progress

/-- The name of the tag, or the one that it is going to get. -/
def tagIdent (progress : Progress) (tag : Tag) : Ident :=
  progress.tag.getD { name := progress.scan.freshName tag.localName }

def named (progress : Progress) (tag : Tag) : Progress :=
  match progress.tag with
  | some _ => progress
  | none =>
    { progress with
      tag := some (progress.tagIdent tag)
      scan := progress.scan.useName (progress.tagIdent tag).name }

/-- The import of the tag, if it has not been imported before. -/
def lead (progress : Progress) (tag : Tag) : List Node :=
  if progress.tag.isSome then [] else [Emit.tagImport (progress.tagIdent tag) tag]

/-- The text of a stylesheet is known from now on if a class may ask for it. -/
def knowing (progress : Progress) (id : Ident) (path : Path) (content : String) : Progress :=
  if progress.scan.stylesReferences.contains id then progress.bind id ⟨id.name, path, content⟩
  else progress

section Fields

variable (progress : Progress) (tag : Tag)

@[simp]
theorem named_tag : (progress.named tag).tag = some (progress.tagIdent tag) := by
  rw [named]
  split
  next known =>
    rw [tagIdent, known]
    rfl
  next => rfl

@[simp]
theorem named_className : (progress.named tag).className = progress.className := by
  rw [named]
  split <;> rfl

@[simp]
theorem named_bindings : (progress.named tag).bindings = progress.bindings := by
  rw [named]
  split <;> rfl

@[simp]
theorem named_styleImports :
    (progress.named tag).scan.styleImports = progress.scan.styleImports := by
  rw [named]
  split <;> rfl

@[simp]
theorem named_stylesReferences :
    (progress.named tag).scan.stylesReferences = progress.scan.stylesReferences := by
  rw [named]
  split <;> rfl

@[simp]
theorem named_otherReferences :
    (progress.named tag).scan.otherReferences = progress.scan.otherReferences := by
  rw [named]
  split <;> rfl

@[simp]
theorem named_binding? (id : Ident) : (progress.named tag).binding? id = progress.binding? id := by
  rw [binding?, named_bindings, binding?]

theorem named_isStylesOnly (id : Ident) :
    (progress.named tag).scan.isStylesOnly id = progress.scan.isStylesOnly id := by
  simp [Scan.isStylesOnly]

variable (id : Ident) (path : Path) (content : String)

@[simp]
theorem knowing_tag : (progress.knowing id path content).tag = progress.tag := by
  rw [knowing]
  split <;> rfl

@[simp]
theorem knowing_className : (progress.knowing id path content).className = progress.className := by
  rw [knowing]
  split <;> rfl

@[simp]
theorem knowing_scan : (progress.knowing id path content).scan = progress.scan := by
  rw [knowing]
  split <;> rfl

end Fields

/-- The last text of a key counts. -/
theorem lookup_setBinding (id other : Ident) (binding : StyleBinding)
    (bindings : List (Ident × StyleBinding)) :
    (setBinding id binding bindings).lookup other =
      if other = id then some binding else bindings.lookup other := by
  induction bindings with
  | nil =>
      rw [setBinding, List.lookup_cons]
      split <;> simp_all
  | cons entry rest ih =>
      obtain ⟨first, old⟩ := entry
      rw [setBinding]
      split
      next same =>
        subst same
        rw [List.lookup_cons, List.lookup_cons]
        split <;> simp_all
      next differ =>
        rw [List.lookup_cons, List.lookup_cons, ih]
        split <;> simp_all

theorem binding?_knowing (progress : Progress) (id other : Ident) (path : Path) (content : String) :
    (progress.knowing id path content).binding? other =
      if other = id ∧ id ∈ progress.scan.stylesReferences then some ⟨id.name, path, content⟩
      else progress.binding? other := by
  rw [knowing]
  by_cases asked : id ∈ progress.scan.stylesReferences
  · rw [if_pos (List.contains_iff_mem.mpr asked), binding?, bind, lookup_setBinding]
    simp [asked, binding?]
  · rw [if_neg (mt List.contains_iff_mem.mp asked)]
    simp [asked]

end Progress

namespace Rewrite

variable {σ : Type} {plan : Plan} {fetch : Fetch σ}

theorem tagName_eq (tag : Tag) (run : Run σ) :
    tagName tag run =
      ((run.progress.tagIdent tag, run.progress.lead tag),
        { run with progress := run.progress.named tag }) := by
  simp only [tagName, Progress.lead, Progress.named, Progress.tagIdent]
  cases run.progress.tag <;> rfl

/-- What an import becomes when no tag is asked for. -/
theorem inline_string (untagged : plan.config.tag = none) (binding : Ident) (path : Path)
    (content : String) (run : Run σ) :
    ∃ events, inline plan binding path content run =
      ([Emit.constant binding (Emit.string content)], { run with events }) := by
  refine ⟨run.events ++ [.inlinedString path binding.name], ?_⟩
  rw [inline, untagged]
  rfl

/-- What an import becomes when a tag is asked for. -/
theorem inline_template {tag : Tag} (tagged : plan.config.tag = some tag) (binding : Ident)
    (path : Path) (content : String) (run : Run σ) :
    ∃ events, inline plan binding path content run =
      (run.progress.lead tag ++
        (if (run.progress.named tag).scan.isStylesOnly binding then []
          else [Emit.constant binding (Emit.template (run.progress.tagIdent tag) content)]),
        { run with
          progress := (run.progress.named tag).knowing binding path content, events }) := by
  let event : Event :=
    if (run.progress.named tag).scan.isStylesOnly binding then
      .deferredToStyles path binding.name
    else .inlinedTemplate path binding.name
  refine ⟨run.events ++ [event], ?_⟩
  rw [inline, tagged]
  simp only [inlineTagged, bind, StateT.bind, tagName_eq, get, getThe, MonadStateOf.get, StateT.get,
    pure, Progress.knowing]
  simp only [event]
  cases (run.progress.named tag).scan.isStylesOnly binding <;>
    cases (run.progress.named tag).scan.stylesReferences.contains binding <;>
    simp only [Bool.false_eq_true, ↓reduceIte, List.append_nil] <;> rfl

/-- The styles of a class are filled in by what is known, unless the rewriting has failed. -/
theorem fillStyles_eq (members : List Node) {run : Run σ} {className : String}
    (active : run.failure = none) (called : run.progress.className = some className) :
    ∃ events, fillStyles members run =
      let filled := Substitution.substituteMembers ⟨run.progress, className⟩ members {}
      (filled.1, { run with failure := filled.2.failure, events }) := by
  simp only [fillStyles, bind, StateT.bind, get, getThe, MonadStateOf.get, StateT.get, pure, active,
    called, StateT.run]
  obtain ⟨filled, tally⟩ := Substitution.substituteMembers ⟨run.progress, className⟩ members {}
  cases failure : tally.failure with
  | some error =>
      refine ⟨run.events, ?_⟩
      simp only [failure]
      rfl
  | none =>
      by_cases some : 0 < tally.count
      · refine ⟨run.events ++ [.inlinedStyles className tally.count], ?_⟩
        simp only [failure, if_pos some]
        rw [← active]
        rfl
      · refine ⟨run.events, ?_⟩
        simp only [failure, if_neg some]
        rw [← active]
        rfl

/-- The items in the place of a stylesheet, and the progress behind them, depend on the progress
alone. -/
theorem inline_progress (binding : Ident) (path : Path) (content : String) (progress : Progress) :
    ∃ items later, ∀ run : Run σ, run.progress = progress →
      ∃ events, inline plan binding path content run =
        (items, { run with progress := later, events }) := by
  cases tagged : plan.config.tag with
  | none =>
      refine ⟨[Emit.constant binding (Emit.string content)], progress, ?_⟩
      rintro run rfl
      exact inline_string tagged binding path content run
  | some tag =>
      refine ⟨progress.lead tag ++
        (if (progress.named tag).scan.isStylesOnly binding then []
          else [Emit.constant binding (Emit.template (progress.tagIdent tag) content)]),
        (progress.named tag).knowing binding path content, ?_⟩
      rintro run rfl
      exact inline_template tagged binding path content run

/-- An import leaves the failure that there is, unless it is refused. -/
theorem rewriteImport_failure (declaration : Import) (attributes : Node) (run : Run σ) :
    (rewriteImport plan fetch declaration attributes run).2.failure =
      (plan.refusal? (fetch.answers plan.filename run.world) declaration).or run.failure := by
  rcases @rewriteImport_cases σ plan fetch declaration attributes run with
    ⟨error, events, world, refused, same⟩ | ⟨events, passes, _, same⟩ |
    ⟨binding, path, content, events, passes, _, _, same⟩
  · rw [same, refused]
    rfl
  · rw [same, passes]
    rfl
  · obtain ⟨items, progress, made⟩ := @inline_progress σ plan binding path content run.progress
    obtain ⟨events', inlined⟩ :=
      made { run with events, world := (fetch path plan.filename run.world).2 } rfl
    rw [same, inlined, passes]
    rfl

/-- An import that is refused stays. -/
theorem rewriteImport_stays (declaration : Import) (attributes : Node) (run : Run σ)
    {error : InlineError}
    (refuses : plan.refusal? (fetch.answers plan.filename run.world) declaration = some error) :
    (rewriteImport plan fetch declaration attributes run).1 =
      [.importDecl declaration attributes] := by
  rcases @rewriteImport_cases σ plan fetch declaration attributes run with
    ⟨_, _, _, _, same⟩ | ⟨_, passes, _, _⟩ | ⟨_, _, _, _, passes, _, _, _⟩
  · rw [same]
  · cases passes.symm.trans refuses
  · cases passes.symm.trans refuses

/-- An import that is not refused leaves the answers as they are. -/
theorem rewriteImport_answers (steady : fetch.IsSteady plan.filename) (declaration : Import)
    (attributes : Node) (run : Run σ)
    (passes : plan.refusal? (fetch.answers plan.filename run.world) declaration = none) :
    fetch.answers plan.filename (rewriteImport plan fetch declaration attributes run).2.world =
      fetch.answers plan.filename run.world := by
  rcases @rewriteImport_cases σ plan fetch declaration attributes run with
    ⟨error, events, world, refused, same⟩ | ⟨events, _, _, same⟩ |
    ⟨binding, path, content, events, _, _, answered, same⟩
  · cases passes.symm.trans refused
  · rw [same]
  · obtain ⟨items, progress, made⟩ := @inline_progress σ plan binding path content run.progress
    obtain ⟨events', inlined⟩ :=
      made { run with events, world := (fetch path plan.filename run.world).2 } rfl
    rw [same, inlined]
    exact steady _ _ _ answered

theorem fillStyles_failed (members : List Node) {run : Run σ}
    (failed : run.failure.isSome = true) : fillStyles members run = (members, run) := by
  simp only [fillStyles, bind, StateT.bind, get, getThe, MonadStateOf.get, StateT.get, pure]
  cases same : run.failure with
  | none =>
      rw [same] at failed
      cases failed
  | some error => rfl

end Rewrite

end StyleInline
