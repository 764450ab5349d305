import StyleInline.Proofs.References

/-!
# What exactly a substitution replaces

Up to the first reference that cannot be replaced, a substitution replaces the references that have
a stylesheet, and nothing else.  What it has made holds no such reference any more.
-/

namespace StyleInline

open Script

/-- The bindings that are referred to in a node, in visiting order. -/
def readIn (node : Node) : List Ident := (references node).map Reference.id

namespace Decision

variable {node result : Node} {decided : List Decision}

theorem Makes.decides (treated : Makes node decided result) :
    decided.map Prod.fst = readIn node := by
  have aligned := treated.isAt
  rw [readIn]
  clear treated
  generalize references node = refs at aligned
  induction aligned with
  | nil => rfl
  | cons here _ ih => rw [List.map_cons, List.map_cons, ih, here.1]

/-- The binding that is referred to where a reference was: the tag, if the reference is gone. -/
def left : Decision → Ident
  | (id, none) => id
  | (_, some (tag, _)) => tag

theorem readIn_written {role : Role} (read : role.reads = true) (id : Ident)
    (choice : Option (Ident × String)) :
    readIn (Rules.written role id choice) = [left (id, choice)] := by
  cases choice with
  | none =>
      rw [Rules.written, readIn, references, if_pos read]
      rfl
  | some template => cases role <;> rfl

theorem readIn_compound (made : node.IsCompound) : readIn node = node.parts.flatMap readIn := by
  have parts : ∀ index nodes, (referencesFrom index nodes).map Reference.id =
      nodes.flatMap readIn := by
    intro index nodes
    induction nodes generalizing index with
    | nil => rfl
    | cons node rest ih =>
        rw [referencesFrom, List.map_append, List.map_map, ih, List.flatMap_cons]
        rfl
  rw [readIn, references_compound made, parts]

theorem MakesAll.readIn_results {nodes results : List Node} (made : MakesAll nodes decided results)
    (each : ∀ part ∈ nodes, ∀ {decided result}, Makes part decided result →
      readIn result = decided.map left) :
    results.flatMap readIn = decided.map left := by
  induction nodes generalizing decided results with
  | nil =>
      obtain ⟨rfl, rfl⟩ := made
      rfl
  | cons node rest ih =>
      obtain ⟨here, later⟩ := List.forall_mem_cons.mp each
      obtain ⟨_, _, _, _, treated, after, rfl, rfl⟩ := made
      rw [List.flatMap_cons, List.map_append, here treated, ih after later]

/-- What is referred to in the result. -/
theorem Makes.readIn_result (treated : Makes node decided result) :
    readIn result = decided.map left := by
  induction node using Node.parts_induction generalizing decided result with
  | ident role id =>
      rw [Makes] at treated
      split at treated
      next read =>
        obtain ⟨choice, rfl, rfl⟩ := treated
        exact readIn_written read id choice
      next unread =>
        obtain ⟨rfl, rfl⟩ := treated
        rw [readIn, references, if_neg unread]
        rfl
  | compound node made ih =>
      obtain ⟨parts, all, rfl⟩ := treated.parts made
      rw [readIn_compound (Node.isCompound_withParts made parts),
        Node.parts_withParts made all.length]
      exact all.readIn_results fun part member => ih part member

/-- A node whose references all stay is not changed. -/
theorem Makes.unchanged (treated : Makes node decided result)
    (stay : ∀ decision ∈ decided, decision.2 = none) : result = node := by
  induction node using Node.parts_induction generalizing decided result with
  | ident role id =>
      rw [Makes] at treated
      split at treated
      · obtain ⟨choice, rfl, rfl⟩ := treated
        obtain rfl : choice = none := stay _ (List.mem_singleton_self _)
        rfl
      · exact treated.2
  | compound node made ih =>
      obtain ⟨parts, all, rfl⟩ := treated.parts made
      have same : ∀ {nodes results decided}, MakesAll nodes decided results →
          (∀ part ∈ nodes, part ∈ node.parts) → (∀ decision ∈ decided, decision.2 = none) →
            results = nodes := by
        intro nodes
        induction nodes with
        | nil => exact fun all _ _ => all.2
        | cons first rest ih' =>
            intro results decided all inside stay
            obtain ⟨_, _, _, _, treated, after, rfl, rfl⟩ := all
            obtain ⟨here, later⟩ := List.forall_mem_cons.mp inside
            obtain ⟨stay, stay'⟩ := List.forall_mem_append.mp stay
            rw [ih first here treated stay, ih' after later stay']
      rw [same all (fun _ member => member) stay, Node.withParts_parts]

end Decision

namespace Substitution

open Decision

variable {setting : Setting}

/-- What a substitution reports: the number of the references that it has replaced, or why it has
stopped. -/
def Tally.finish (tally : Tally) : Except InlineError Nat :=
  match tally.failure with
  | some error => .error error
  | none => .ok tally.count

/-- A reference cannot be replaced: there is a stylesheet but no tag, or its import is yet to
come. -/
inductive Unmet (setting : Setting) (id : Ident) : InlineError → Prop where
  | untagged {binding : StyleBinding} (bound : setting.progress.binding? id = some binding)
      (untagged : setting.progress.tag = none) :
      Unmet setting id (.missingTagImport setting.className)
  | early (unbound : setting.progress.binding? id = none)
      (imported : id ∈ setting.progress.scan.styleImports) :
      Unmet setting id (.stylesBeforeImport setting.className id.name)

theorem unmet_iff {id : Ident} {error : InlineError} :
    Unmet setting id error ↔ fault setting id = some error := by
  rw [fault, outcome]
  constructor
  · rintro (⟨bound, untagged⟩ | ⟨unbound, imported⟩)
    · simp only [bound, untagged]
    · have listed : setting.progress.scan.styleImports.contains id = true := by simpa using imported
      simp only [unbound, listed, ↓reduceIte]
  · intro failed
    cases bound : setting.progress.binding? id with
    | none =>
        simp only [bound] at failed
        by_cases listed : setting.progress.scan.styleImports.contains id = true
        · rw [if_pos listed] at failed
          cases failed
          exact .early bound (by simpa using listed)
        · rw [if_neg listed] at failed
          cases failed
    | some binding =>
        cases tagged : setting.progress.tag with
        | none =>
            simp only [bound, tagged] at failed
            cases failed
            exact .untagged bound tagged
        | some tag =>
            simp only [bound, tagged] at failed
            cases failed

theorem decisions_fst (setting : Setting) (ids : List Ident) :
    (decisions setting ids).map Prod.fst = ids := by
  induction ids with
  | nil => rfl
  | cons id rest ih =>
      rw [decisions]
      split
      · rw [List.map_map]
        exact List.map_id _
      · rw [List.map_cons, ih]

/-- What is decided is decided about the references that are met. -/
theorem resumed_fst (setting : Setting) (failed : Bool) (ids : List Ident) :
    (resumed setting failed ids).map Prod.fst = ids := by
  rw [resumed]
  split
  · rw [List.map_map]
    exact List.map_id _
  · exact decisions_fst setting ids

/-- A visit comes upon the references of a node. -/
theorem readsOf_sights (setting : Setting) (base : String) (spot : Spot) (isStyles : Bool)
    (node : Node) : readsOf (sights base spot isStyles node) = readIn node := by
  rw [← resumed_fst setting false (readsOf _)]
  exact (makes_substitute setting base spot isStyles node {}).decides

theorem substitute_makes (node : Node) (tally : Tally) :
    Makes node (resumed setting tally.failure.isSome (readIn node))
      (substitute setting node tally).1 := by
  rw [← readsOf_sights setting "" {} false node]
  exact makes_substitute setting "" {} false node tally

theorem failure_substitute (node : Node) (tally : Tally) :
    (substitute setting node tally).2.failure =
      tally.failure.or ((readIn node).findSome? (fault setting)) := by
  rw [← readsOf_sights setting "" {} false node]
  exact substitute_failure setting "" {} false node tally

theorem substituteAll_append (first second : List Node) (tally : Tally) :
    substituteAll setting (first ++ second) tally =
      let here := substituteAll setting first tally
      let later := substituteAll setting second here.2
      (here.1 ++ later.1, later.2) := by
  induction first generalizing tally with
  | nil => rfl
  | cons node rest ih =>
      rw [List.cons_append, substituteAll_cons, substituteAll_cons]
      simp only [ih, List.cons_append]

/-- The tally of a node is that of its parts. -/
theorem tally_compound {node : Node} (made : node.IsCompound) (tally : Tally) :
    (substitute setting node tally).2 = (substituteAll setting node.parts tally).2 := by
  cases node with
  | ident role id => exact absurd rfl (made role id)
  | importDecl | exportNames | items | form => rfl
  | classNode head decorators members parent rest =>
      rw [Node.parts, substituteAll_append, substituteAll_append]
      rfl
  | member head key front core back =>
      rw [Node.parts, substituteAll_append]
      rfl

/-- The references that are decided to be replaced. -/
def replacing (decided : List Decision) : Nat := decided.countP (·.2.isSome)

theorem count_ident (role : Role) (id : Ident) (tally : Tally) :
    (substitute setting (.ident role id) tally).2.count =
      tally.count + replacing (resumed setting tally.failure.isSome (readIn (.ident role id))) := by
  rw [readIn, references]
  cases read : role.reads with
  | false =>
      rw [substitute_ident_unread setting tally role id read, if_neg Bool.false_ne_true]
      cases tally.failure <;> rfl
  | true =>
      rw [if_pos rfl]
      cases failed : tally.failure with
      | some error =>
          rw [substitute_ident_failed setting tally role id (by rw [failed]; rfl)]
          rfl
      | none =>
          rw [substitute_ident_read setting tally role id read failed, Option.isSome_none, resumed,
            if_neg Bool.false_ne_true, List.map_singleton, decisions, decisions]
          cases kind : outcome setting id with
          | keep =>
              have faultless : fault setting id = none := by rw [fault, kind]
              rw [faultless, choice?_keep kind]
              rfl
          | replace template =>
              obtain ⟨tag, content, known, _⟩ := choice?_replace kind
              have faultless : fault setting id = none := by rw [fault, kind]
              rw [faultless, known]
              rfl
          | fail error =>
              have faulty : fault setting id = some error := by rw [fault, kind]
              rw [faulty]
              rfl

theorem count_substituteAll {nodes : List Node}
    (each : ∀ node ∈ nodes, ∀ tally, (substitute setting node tally).2.count =
      tally.count + replacing (resumed setting tally.failure.isSome (readIn node)))
    (tally : Tally) :
    (substituteAll setting nodes tally).2.count =
      tally.count +
        replacing (resumed setting tally.failure.isSome (nodes.flatMap readIn)) := by
  induction nodes generalizing tally with
  | nil => cases tally.failure <;> rfl
  | cons node rest ih =>
      obtain ⟨here, later⟩ := List.forall_mem_cons.mp each
      rw [substituteAll_cons, List.flatMap_cons, resumed_append, ← failure_substitute node tally]
      dsimp only
      rw [ih later, here, replacing, replacing, replacing, List.countP_append, Nat.add_assoc]

/-- The references that are replaced are counted. -/
theorem count_substitute (node : Node) (tally : Tally) :
    (substitute setting node tally).2.count =
      tally.count + replacing (resumed setting tally.failure.isSome (readIn node)) := by
  induction node using Node.parts_induction generalizing tally with
  | ident role id => exact count_ident role id tally
  | compound node made ih =>
      rw [tally_compound made, readIn_compound made]
      exact count_substituteAll (fun part member => ih part member) tally

/-- Without a failure each reference is decided about on its own. -/
theorem decisions_of_met {ids : List Ident} (met : ∀ id ∈ ids, fault setting id = none) :
    decisions setting ids = ids.map fun id => (id, choice? setting id) := by
  induction ids with
  | nil => rfl
  | cons id rest ih =>
      obtain ⟨here, later⟩ := List.forall_mem_cons.mp met
      rw [decisions, here, Option.isSome_none, if_neg Bool.false_ne_true, ih later, List.map_cons]

/-- Where nothing is known about the references all stay. -/
theorem decisions_of_unknown {ids : List Ident} (unknown : ∀ id ∈ ids, choice? setting id = none) :
    ∀ decision ∈ decisions setting ids, decision.2 = none := by
  induction ids with
  | nil => exact fun _ impossible => absurd impossible List.not_mem_nil
  | cons id rest ih =>
      obtain ⟨here, later⟩ := List.forall_mem_cons.mp unknown
      intro decision member
      rw [decisions] at member
      split at member
      · obtain ⟨other, _, rfl⟩ := List.mem_map.mp member
        rfl
      · rcases List.mem_cons.mp member with rfl | further
        · exact here
        · exact ih later decision further

/-- A node without a reference that is replaced or fails is passed by. -/
theorem substitute_kept {node : Node} {tally : Tally} (active : tally.failure = none)
    (kept : ∀ id ∈ readIn node, outcome setting id = .keep) :
    substitute setting node tally = (node, tally) := by
  have stay := decisions_of_unknown fun id member => choice?_keep (kept id member)
  have treated := @substitute_makes setting node tally
  have counted := @count_substitute setting node tally
  have failed := @failure_substitute setting node tally
  have faultless : (readIn node).findSome? (fault setting) = none :=
    List.findSome?_eq_none_iff.mpr fun id member => by rw [fault, kept id member]
  have start : resumed setting tally.failure.isSome (readIn node) =
      decisions setting (readIn node) := by
    rw [active]
    exact if_neg Bool.false_ne_true
  have none : replacing (decisions setting (readIn node)) = 0 := by
    refine List.countP_eq_zero.mpr fun decision member => ?_
    rw [stay decision member]
    exact Bool.false_ne_true
  rw [start] at treated counted
  rw [none, Nat.add_zero] at counted
  rw [faultless, Option.or_none] at failed
  rcases made : substitute setting node tally with ⟨result, count, failure⟩
  rw [made] at treated counted failed
  dsimp only at treated counted failed
  rw [treated.unchanged stay, counted, failed]

/-- A node that refers to nothing known is left as it is. -/
theorem substitute_unknown {node : Node} (unknown : ∀ id ∈ readIn node, choice? setting id = none) :
    (substitute setting node {}).1 = node ∧ (substitute setting node {}).2.count = 0 := by
  have stay := decisions_of_unknown unknown
  have treated := @substitute_makes setting node {}
  have counted := @count_substitute setting node {}
  have start : resumed setting ({} : Tally).failure.isSome (readIn node) =
      decisions setting (readIn node) := if_neg Bool.false_ne_true
  rw [start] at treated counted
  refine ⟨treated.unchanged stay, ?_⟩
  rw [counted, replacing, List.countP_eq_zero.mpr]
  intro decision member
  rw [stay decision member]
  exact Bool.false_ne_true

/-- A reference is replaced by the template of its stylesheet if it has one, and stays if not. -/
def Settled (setting : Setting) (result : Node) (reference : Reference) : Prop :=
  (∀ binding, setting.progress.binding? reference.id = some binding →
    ∃ tag, setting.progress.tag = some tag ∧
      result.at? reference.place =
        some (Rules.written reference.role reference.id (some (tag, binding.content)))) ∧
  (setting.progress.binding? reference.id = none →
    result.at? reference.place = some (.ident reference.role reference.id))

section Settling

variable {id : Ident}

theorem choice?_unbound (unbound : setting.progress.binding? id = none) :
    choice? setting id = none := by
  rw [choice?, unbound]
  cases setting.progress.tag <;> rfl

theorem choice?_bound (met : ∀ error, ¬ Unmet setting id error) {binding : StyleBinding}
    (bound : setting.progress.binding? id = some binding) :
    ∃ tag, setting.progress.tag = some tag ∧ choice? setting id = some (tag, binding.content) := by
  cases tagged : setting.progress.tag with
  | none => exact absurd (.untagged bound tagged) (met _)
  | some tag => exact ⟨tag, rfl, by rw [choice?, tagged, bound]⟩

theorem settled_of_isAt {result : Node} {reference : Reference}
    (met : ∀ error, ¬ Unmet setting reference.id error)
    (stands : IsAt result reference (reference.id, choice? setting reference.id)) :
    Settled setting result reference := by
  constructor
  · intro binding bound
    obtain ⟨tag, tagged, known⟩ := choice?_bound met bound
    refine ⟨tag, tagged, ?_⟩
    rw [← known]
    exact stands.2
  · intro unbound
    have there := stands.2
    rw [choice?_unbound unbound] at there
    exact there

theorem fault_eq_none (met : ∀ error, ¬ Unmet setting id error) : fault setting id = none := by
  rw [Option.eq_none_iff_forall_ne_some]
  intro error failed
  exact met error (unmet_iff.mpr failed)

theorem faultless_of_met {refs : List Reference}
    (met : ∀ reference ∈ refs, ∀ error, ¬ Unmet setting reference.id error) :
    ∀ id ∈ refs.map Reference.id, fault setting id = none := by
  intro id member
  obtain ⟨reference, inside, rfl⟩ := List.mem_map.mp member
  exact fault_eq_none (met reference inside)

/-- If each can be replaced or is none to a stylesheet, the known ones are those to be replaced. -/
theorem replacing_met {refs : List Reference}
    (met : ∀ reference ∈ refs, ∀ error, ¬ Unmet setting reference.id error) :
    replacing (refs.map fun reference => (reference.id, choice? setting reference.id)) =
      refs.countP fun reference => (setting.progress.binding? reference.id).isSome := by
  rw [replacing, List.countP_map]
  refine List.countP_congr fun reference member => ?_
  cases bound : setting.progress.binding? reference.id with
  | none => simp [choice?_unbound bound]
  | some binding =>
      obtain ⟨tag, _, known⟩ := choice?_bound (met reference member) bound
      simp [known]

/-- After a substitution without a failure only the tag can be known. -/
theorem unknown_of_met {refs : List Reference}
    (met : ∀ reference ∈ refs, ∀ error, ¬ Unmet setting reference.id error)
    (untagged : ∀ tag, setting.progress.tag = some tag → setting.progress.binding? tag = none) :
    ∀ other ∈ (refs.map fun reference => (reference.id, choice? setting reference.id)).map
      Decision.left, choice? setting other = none := by
  intro other member
  obtain ⟨decision, inside, rfl⟩ := List.mem_map.mp member
  obtain ⟨reference, asked, rfl⟩ := List.mem_map.mp inside
  cases bound : setting.progress.binding? reference.id with
  | none =>
      have unknown := choice?_unbound bound
      rw [unknown]
      exact unknown
  | some binding =>
      obtain ⟨tag, tagged, known⟩ := choice?_bound (met reference asked) bound
      rw [known]
      exact choice?_unbound (untagged tag tagged)

end Settling

/-- What each reference of a node becomes. -/
theorem makes_start (node : Node) :
    Makes node (decisions setting (readIn node)) (substitute setting node {}).1 :=
  substitute_makes node {}

theorem failure_start (node : Node) :
    (substitute setting node {}).2.failure = (readIn node).findSome? (fault setting) :=
  failure_substitute node {}

theorem count_start (node : Node) :
    (substitute setting node {}).2.count = replacing (decisions setting (readIn node)) :=
  (count_substitute node {}).trans (Nat.zero_add _)

section Met

variable {node : Node}
  (met : ∀ reference ∈ references node, ∀ error, ¬ Unmet setting reference.id error)
include met

theorem decisions_met : decisions setting (readIn node) =
    (references node).map fun reference => (reference.id, choice? setting reference.id) := by
  rw [readIn, decisions_of_met (faultless_of_met met), List.map_map]
  rfl

theorem settled_met :
    ∀ reference ∈ references node, Settled setting (substitute setting node {}).1 reference := by
  intro reference member
  have aligned := (@makes_start setting node).isAt
  rw [decisions_met met, List.forall₂_map_right_iff, List.forall₂_same] at aligned
  exact settled_of_isAt (met reference member) (aligned reference member)

theorem finish_met : (substitute setting node {}).2.finish =
    .ok ((references node).countP fun reference =>
      (setting.progress.binding? reference.id).isSome) := by
  have unfailing : (readIn node).findSome? (fault setting) = none :=
    List.findSome?_eq_none_iff.mpr (faultless_of_met met)
  rw [Tally.finish, failure_start, unfailing, count_start, decisions_met met, replacing_met met]

/-- What is left after a substitution without a failure is not changed by another one. -/
theorem substitute_again
    (untagged : ∀ tag, setting.progress.tag = some tag → setting.progress.binding? tag = none) :
    let result := (substitute setting node {}).1
    (substitute setting result {}).1 = result ∧ (substitute setting result {}).2.count = 0 := by
  have unknown := unknown_of_met met untagged
  rw [← decisions_met met, ← (makes_start node).readIn_result] at unknown
  exact substitute_unknown unknown

end Met

section Stopped

variable {node : Node} {before after : List Reference} {reference : Reference}
  {error : InlineError} (split : references node = before ++ reference :: after)
  (met : ∀ earlier ∈ before, ∀ error, ¬ Unmet setting earlier.id error)
  (unmet : Unmet setting reference.id error)
include split met unmet

theorem finish_stopped : (substitute setting node {}).2.finish = .error error := by
  have ids : readIn node = before.map Reference.id ++ reference.id :: after.map Reference.id := by
    rw [readIn, split, List.map_append, List.map_cons]
  rw [Tally.finish, failure_start, ids, List.findSome?_append,
    List.findSome?_eq_none_iff.mpr (faultless_of_met met), List.findSome?_cons,
    unmet_iff.mp unmet]
  rfl

/-- What is decided before a substitution stops, and that nothing is decided afterwards. -/
theorem decisions_stopped : decisions setting (readIn node) =
    (before.map fun earlier => (earlier.id, choice? setting earlier.id)) ++
      (reference :: after).map fun later => (later.id, none) := by
  have ids : readIn node = before.map Reference.id ++ reference.id :: after.map Reference.id := by
    rw [readIn, split, List.map_append, List.map_cons]
  rw [ids, decisions_of_unmet (faultless_of_met met) (unmet_iff.mp unmet), ← List.map_cons,
    List.map_map, List.map_map]
  rfl

theorem settled_stopped :
    (∀ earlier ∈ before, Settled setting (substitute setting node {}).1 earlier) ∧
      ∀ later ∈ reference :: after, (substitute setting node {}).1.at? later.place =
        some (.ident later.role later.id) := by
  have aligned := (@makes_start setting node).isAt
  rw [decisions_stopped split met unmet, split] at aligned
  have length : (before.map fun earlier => (earlier.id, choice? setting earlier.id)).length =
      before.length := List.length_map _
  have first := List.forall₂_take_append _ _ _ aligned
  have second := List.forall₂_drop_append _ _ _ aligned
  rw [List.take_left' length.symm, List.forall₂_map_right_iff, List.forall₂_same] at first
  rw [List.drop_left' length.symm, List.forall₂_map_right_iff, List.forall₂_same] at second
  exact ⟨fun earlier member => settled_of_isAt (met earlier member) (first earlier member),
    fun later member => (second later member).2⟩

end Stopped

/-- A substitution comes to its end: every reference is settled and those to known stylesheets are
counted. -/
structure Completes (setting : Setting) (node : Node) : Prop where
  settled : ∀ reference ∈ references node,
    Settled setting (substitute setting node {}).1 reference
  counted : (substitute setting node {}).2.finish = .ok ((references node).countP fun reference =>
    (setting.progress.binding? reference.id).isSome)
  /-- There is nothing left to replace, unless the tag is itself such a stylesheet. -/
  again : (∀ tag, setting.progress.tag = some tag → setting.progress.binding? tag = none) →
    let result := (substitute setting node {}).1
    (substitute setting result {}).1 = result ∧ (substitute setting result {}).2.count = 0

/-- A substitution stops at a reference: those `before` it are settled, and those from there on are
left as they are. -/
structure StopsAt (setting : Setting) (node : Node) (before left : List Reference)
    (error : InlineError) : Prop where
  reported : (substitute setting node {}).2.finish = .error error
  settled : ∀ earlier ∈ before, Settled setting (substitute setting node {}).1 earlier
  kept : ∀ later ∈ left,
    (substitute setting node {}).1.at? later.place = some (.ident later.role later.id)

/-- What a substitution makes of a node and of the references in it. -/
structure IsExact (setting : Setting) (node : Node) : Prop where
  ordered : (references node).Pairwise fun reference other => reference.place < other.place
  listed : ∀ reference, reference ∈ references node ↔
    node.at? reference.place = some (.ident reference.role reference.id) ∧
      (reference.role = .use ∨ reference.role = .shorthand)
  untouched : ∀ place found, node.at? place = some found →
    (∀ id, found ≠ .ident .use id ∧ found ≠ .ident .shorthand id) →
      ∃ parts, parts.length = found.parts.length ∧
        (substitute setting node {}).1.at? place = some (found.withParts parts)
  completes : (∀ reference ∈ references node, ∀ error, ¬ Unmet setting reference.id error) →
    Completes setting node
  stops : ∀ before reference after error, references node = before ++ reference :: after →
    (∀ earlier ∈ before, ∀ error, ¬ Unmet setting earlier.id error) →
      Unmet setting reference.id error →
        StopsAt setting node before (reference :: after) error

/-- A substitution stops at the first reference that cannot be replaced, and reports why; in front
of it exactly the references to known stylesheets are replaced, and everything else stays in its
place.  If there is no such reference all of them are replaced and counted, and after that, unless
the tag is itself such a stylesheet, there is nothing left to replace. -/
theorem substitute_exact (setting : Setting) (node : Node) : IsExact setting node := by
  constructor
  case ordered => exact pairwise_references node
  case listed =>
    intro reference
    rw [mem_references]
    cases reference.role <;> simp [Role.reads]
  case untouched =>
    intro place found here other
    refine (makes_start node).at? here fun role id same => ?_
    subst same
    cases role with
    | use => exact absurd rfl (other id).1
    | shorthand => exact absurd rfl (other id).2
    | bind | element | plain => rfl
  case completes => exact fun met => ⟨settled_met met, finish_met met, substitute_again met⟩
  case stops =>
    intro before reference after error split met unmet
    obtain ⟨settled, kept⟩ := settled_stopped split met unmet
    exact ⟨finish_stopped split met unmet, settled, kept⟩

/-- The third reference comes before its import, and the fourth stays although it is known. -/
theorem substitute_exact_early :
    let known : Ident := ⟨"a", .declared 0⟩
    let early : Ident := ⟨"b", .declared 0⟩
    let setting : Setting :=
      ⟨{ tag := some ⟨"_css", .free⟩, bindings := [(known, ⟨"a", ⟨"/a.css"⟩, ".a \x7b\x7d"⟩)],
         scan := { styleImports := [early] } }, "A"⟩
    let node : Node := .form (.array false) [.ident .use known,
      .form (.object false) [.ident .shorthand known], .ident .use early, .ident .use known]
    (substitute setting node {}).2.finish = .error (.stylesBeforeImport "A" "b") ∧
      (substitute setting node {}).1.at? [3] = some (.ident .use known) := by
  intro known early setting node
  have met : ∀ error, ¬ Unmet setting known error := by
    intro error unmet
    cases unmet_iff.mp unmet
  have stopped := (substitute_exact setting node).stops
    [⟨[0], .use, known⟩, ⟨[1, 0], .shorthand, known⟩] ⟨[2], .use, early⟩ [⟨[3], .use, known⟩]
    (.stylesBeforeImport "A" "b") rfl (by simp [met]) (.early rfl (by decide))
  exact ⟨stopped.reported, stopped.kept ⟨[3], .use, known⟩ (by simp)⟩

end Substitution

end StyleInline
