import StyleInline.Proofs.ImmediateExecution
import StyleInline.Proofs.Rules.Views

/-!
# What runs before an item

An item of a module, nested or not, stands behind items of its own list and of the lists around it.
What stands in its place in a result stands behind what stands in the places of those items.
-/

namespace StyleInline

open Script Node

mutual

/-- The outermost item lists in a node, and where they stand. -/
def bodies (base : String) (spot : Spot) (isStyles : Bool) : Node → List (Spot × List Node)
  | .ident _ _ => []
  | .importDecl _ attributes => bodies base spot false attributes
  | .exportNames _ attributes => bodies base spot false attributes
  | .classNode _ decorators members parent rest =>
    bodiesOfAll base spot false decorators ++
      bodiesOfAll base spot (extendsBase base parent) members ++
      bodies base spot false parent ++ bodiesOfAll base spot false rest
  | .member _ key front core back =>
    let around := if isStyles then spot.within .beside else spot
    bodies base around false key ++ bodiesOfAll base around false front ++
      bodies base (if isStyles then spot.within .filled else spot) false core ++
      bodiesOfAll base around false back
  | .items body => [(spot, body)]
  | .form _ parts => bodiesOfAll base spot false parts

def bodiesOfAll (base : String) (spot : Spot) (matching : Bool) :
    List Node → List (Spot × List Node)
  | [] => []
  | node :: rest =>
    bodies base spot (matching && isStylesMember node) node ++ bodiesOfAll base spot matching rest

end

def bodiesOfItem (base : String) (spot : Spot) : Node → List (Spot × List Node)
  | .importDecl declaration attributes => bodies base (spot.inside declaration) false attributes
  | item => bodies base spot false item

/-- An item stands in a list, or in a list nested there, at some place; `seen` is what a visit comes
upon in what runs of the items before it and before the items around it. -/
inductive Leads (base : String) : Spot → List Node → List Sight → Spot → Node → Prop where
  | here {spot : Spot} {before after : List Node} {item : Node} :
    Leads base spot (before ++ item :: after) (sightsOfItems base spot (runningAll before)) spot item
  | within {spot inner place : Spot} {before after body : List Node} {host item : Node}
    {seen : List Sight} (nested : (inner, body) ∈ bodiesOfItem base spot host)
    (leads : Leads base inner body seen place item) :
    Leads base spot (before ++ host :: after)
      (sightsOfItems base spot (runningAll before) ++ seen) place item

section Hosts

mutual

/-- A list in a node stands in the attributes that the node stands in. -/
theorem hosts_of_bodies {base : String} {spot inner : Spot} {isStyles : Bool} {node : Node}
    {body : List Node} (nested : (inner, body) ∈ bodies base spot isStyles node) :
    inner.hosts = spot.hosts := by
  cases node with
  | ident role id => cases nested
  | importDecl declaration attributes | exportNames declaration attributes =>
      rw [bodies] at nested
      exact hosts_of_bodies nested
  | classNode head decorators members parent rest =>
      simp only [bodies, List.mem_append] at nested
      rcases nested with ((first | second) | third) | fourth
      · exact hosts_of_bodiesOfAll first
      · exact hosts_of_bodiesOfAll second
      · exact hosts_of_bodies third
      · exact hosts_of_bodiesOfAll fourth
  | member head key front core back =>
      have around (place : Place) : (if isStyles then spot.within place else spot).hosts =
          spot.hosts := by
        cases isStyles <;> rfl
      simp only [bodies, List.mem_append] at nested
      rcases nested with ((first | second) | third) | fourth
      · exact (hosts_of_bodies first).trans (around _)
      · exact (hosts_of_bodiesOfAll second).trans (around _)
      · exact (hosts_of_bodies third).trans (around _)
      · exact (hosts_of_bodiesOfAll fourth).trans (around _)
  | items body =>
      cases List.mem_singleton.mp nested
      rfl
  | form shape parts =>
      rw [bodies] at nested
      exact hosts_of_bodiesOfAll nested
termination_by node.weight
decreasing_by all_goals (subst_vars; simp only [Node.weight]; omega)

theorem hosts_of_bodiesOfAll {base : String} {spot inner : Spot} {matching : Bool}
    {nodes : List Node} {body : List Node}
    (nested : (inner, body) ∈ bodiesOfAll base spot matching nodes) :
    inner.hosts = spot.hosts := by
  cases nodes with
  | nil => cases nested
  | cons node rest =>
      rw [bodiesOfAll, List.mem_append] at nested
      rcases nested with first | later
      · exact hosts_of_bodies first
      · exact hosts_of_bodiesOfAll later
termination_by Node.weightOf nodes
decreasing_by all_goals (subst_vars; simp only [Node.weightOf]; omega)

end

theorem bodiesOfItem_plain {item : Node} (base : String) (spot : Spot)
    (plain : ∀ declaration attributes, item ≠ .importDecl declaration attributes) :
    bodiesOfItem base spot item = bodies base spot false item := by
  cases item with
  | importDecl declaration attributes => exact absurd rfl (plain declaration attributes)
  | _ => rfl

/-- A nested item stands in the attributes of all imports around it. -/
theorem Leads.hosts {base : String} {spot place : Spot} {items : List Node} {seen : List Sight}
    {item : Node} (leads : Leads base spot items seen place item) : spot.hosts ⊆ place.hosts := by
  induction leads with
  | here => exact List.Subset.refl _
  | @within spot inner place before after body host item seen nested leads ih =>
      intro import' member
      apply ih
      rcases host.isImport_or with ⟨declaration, attributes, rfl⟩ | plain
      · rw [hosts_of_bodies nested]
        exact List.mem_cons_of_mem _ member
      · rw [bodiesOfItem_plain base spot plain] at nested
        rwa [hosts_of_bodies nested]

end Hosts

section Sights

mutual

/-- What a visit comes upon in a list it comes upon in the node around. -/
theorem sights_of_bodies {base : String} {spot inner : Spot} {isStyles : Bool} {node : Node}
    {body : List Node} (nested : (inner, body) ∈ bodies base spot isStyles node) :
    sightsOfItems base inner body ⊆ sights base spot isStyles node := by
  intro sight inside
  cases node with
  | ident role id => cases nested
  | importDecl declaration attributes | exportNames declaration attributes =>
      rw [bodies] at nested
      rw [sights]
      exact List.mem_append_left _ (sights_of_bodies nested inside)
  | classNode head decorators members parent rest =>
      simp only [bodies, List.mem_append] at nested
      simp only [sights, List.mem_append]
      rcases nested with ((first | second) | third) | fourth
      · exact .inl (.inl (.inl (.inl (sights_of_bodiesOfAll first inside))))
      · exact .inl (.inl (.inl (.inr (sights_of_bodiesOfAll second inside))))
      · exact .inl (.inl (.inr (sights_of_bodies third inside)))
      · exact .inl (.inr (sights_of_bodiesOfAll fourth inside))
  | member head key front core back =>
      simp only [bodies, List.mem_append] at nested
      simp only [sights, List.mem_append]
      rcases nested with ((first | second) | third) | fourth
      · exact .inl (.inl (.inl (sights_of_bodies first inside)))
      · exact .inl (.inl (.inr (sights_of_bodiesOfAll second inside)))
      · exact .inl (.inr (sights_of_bodies third inside))
      · exact .inr (sights_of_bodiesOfAll fourth inside)
  | items body =>
      cases List.mem_singleton.mp nested
      exact inside
  | form shape parts =>
      rw [bodies] at nested
      exact sights_of_bodiesOfAll nested inside
termination_by node.weight
decreasing_by all_goals (subst_vars; simp only [Node.weight]; omega)

theorem sights_of_bodiesOfAll {base : String} {spot inner : Spot} {matching : Bool}
    {nodes body : List Node} (nested : (inner, body) ∈ bodiesOfAll base spot matching nodes) :
    sightsOfItems base inner body ⊆ sightsOfAll base spot matching nodes := by
  intro sight inside
  cases nodes with
  | nil => cases nested
  | cons node rest =>
      rw [bodiesOfAll, List.mem_append] at nested
      rw [sightsOfAll, List.mem_append]
      rcases nested with first | later
      · exact .inl (sights_of_bodies first inside)
      · exact .inr (sights_of_bodiesOfAll later inside)
termination_by Node.weightOf nodes
decreasing_by all_goals (subst_vars; simp only [Node.weightOf]; omega)

end

/-- A visit comes upon an import wherever it stands. -/
theorem Leads.imported {base : String} {spot place : Spot} {items : List Node} {seen : List Sight}
    {declaration : Import} {attributes : Node}
    (leads : Leads base spot items seen place (.importDecl declaration attributes)) :
    .imported place declaration true ∈ sightsOfItems base spot items := by
  generalize same : Node.importDecl declaration attributes = target at leads
  induction leads with
  | here =>
      subst same
      rw [sightsOfItems_append, sightsOfItems]
      simp
  | @within spot inner place before after body host item seen nested leads ih =>
      have inside := ih same
      rw [sightsOfItems_append, List.mem_append]
      right
      rcases host.isImport_or with ⟨host, held, rfl⟩ | plain
      · rw [sightsOfItems]
        exact List.mem_append_left _ (sights_of_bodies nested inside)
      · rw [bodiesOfItem_plain base spot plain] at nested
        rw [sightsOfItems_cons base spot after plain]
        exact List.mem_append_left _ (sights_of_bodies nested inside)

end Sights

namespace Rules

variable {rules : Rules} {base : String}

mutual

/-- A list in a node has its place in a result. -/
theorem bodies_of_allows (fills : rules.fills = extendsBase base) {inStyles isStyles : Bool}
    {node result : Node} (allowed : rules.Allows inStyles isStyles node result) {spot : Spot}
    (place : inStyles = true ↔ spot.place = .filled) (spot' : Spot) (isStyles' : Bool)
    {inner : Spot} {body : List Node} (nested : (inner, body) ∈ bodies base spot isStyles node) :
    ∃ inside body' inner', (inside = true ↔ inner.place = .filled) ∧
      rules.AllowsItems inside body body' ∧ (inner', body') ∈ bodies base spot' isStyles' result := by
  cases node with
  | ident role id => cases nested
  | importDecl declaration attributes | exportNames declaration attributes =>
      obtain ⟨result, allowed, rfl⟩ := allowed
      rw [bodies] at nested ⊢
      exact bodies_of_allows fills allowed place spot' false nested
  | classNode head decorators members parent rest =>
      obtain ⟨_, _, parent', _, a, b, c, d, rfl⟩ := allowed
      rw [fills] at b
      simp only [bodies, List.mem_append] at nested ⊢
      rcases nested with ((first | second) | third) | fourth
      · obtain ⟨inside, body', inner', filled, items, found⟩ :=
          bodiesOfAll_of_allowsAll fills a place spot' false first
        exact ⟨inside, body', inner', filled, items, .inl (.inl (.inl found))⟩
      · obtain ⟨inside, body', inner', filled, items, found⟩ :=
          bodiesOfAll_of_allowsAll fills b place spot' (extendsBase base parent') second
        exact ⟨inside, body', inner', filled, items, .inl (.inl (.inr found))⟩
      · obtain ⟨inside, body', inner', filled, items, found⟩ :=
          bodies_of_allows fills c place spot' false third
        exact ⟨inside, body', inner', filled, items, .inl (.inr found)⟩
      · obtain ⟨inside, body', inner', filled, items, found⟩ :=
          bodiesOfAll_of_allowsAll fills d place spot' false fourth
        exact ⟨inside, body', inner', filled, items, .inr found⟩
  | member head key front core back =>
      obtain ⟨_, _, _, _, a, b, c, d, rfl⟩ := allowed
      have around : inStyles = true ↔
          (if isStyles then spot.within .beside else spot).place = .filled := by
        cases isStyles
        · exact place
        · simp [Spot.within, place]
      have filled : (inStyles || isStyles) = true ↔
          (if isStyles then spot.within .filled else spot).place = .filled := by
        cases isStyles
        · simpa using place
        · simp [Spot.within]
      simp only [bodies, List.mem_append] at nested ⊢
      rcases nested with ((first | second) | third) | fourth
      · obtain ⟨inside, body', inner', filled, items, found⟩ :=
          bodies_of_allows fills a around _ false first
        exact ⟨inside, body', inner', filled, items, .inl (.inl (.inl found))⟩
      · obtain ⟨inside, body', inner', filled, items, found⟩ :=
          bodiesOfAll_of_allowsAll fills b around _ false second
        exact ⟨inside, body', inner', filled, items, .inl (.inl (.inr found))⟩
      · obtain ⟨inside, body', inner', filled, items, found⟩ :=
          bodies_of_allows fills c filled _ false third
        exact ⟨inside, body', inner', filled, items, .inl (.inr found)⟩
      · obtain ⟨inside, body', inner', filled, items, found⟩ :=
          bodiesOfAll_of_allowsAll fills d around _ false fourth
        exact ⟨inside, body', inner', filled, items, .inr found⟩
  | items body =>
      obtain ⟨result, allowed, rfl⟩ := allowed
      cases List.mem_singleton.mp nested
      exact ⟨inStyles, result, spot', place, allowed, List.mem_singleton_self _⟩
  | form shape parts =>
      obtain ⟨result, allowed, rfl⟩ := allowed
      rw [bodies] at nested ⊢
      exact bodiesOfAll_of_allowsAll fills allowed place spot' false nested
termination_by node.weight
decreasing_by all_goals (subst_vars; simp only [Node.weight]; omega)

theorem bodiesOfAll_of_allowsAll (fills : rules.fills = extendsBase base)
    {inStyles matching : Bool} {nodes results : List Node}
    (allowed : rules.AllowsAll inStyles matching nodes results) {spot : Spot}
    (place : inStyles = true ↔ spot.place = .filled) (spot' : Spot) (matching' : Bool)
    {inner : Spot} {body : List Node}
    (nested : (inner, body) ∈ bodiesOfAll base spot matching nodes) :
    ∃ inside body' inner', (inside = true ↔ inner.place = .filled) ∧
      rules.AllowsItems inside body body' ∧
        (inner', body') ∈ bodiesOfAll base spot' matching' results := by
  cases nodes with
  | nil => cases nested
  | cons node rest =>
      obtain ⟨_, _, a, b, rfl⟩ := allowed
      rw [bodiesOfAll, List.mem_append] at nested
      simp only [bodiesOfAll, List.mem_append]
      rcases nested with first | later
      · obtain ⟨inside, body', inner', filled, items, found⟩ :=
          bodies_of_allows fills a place spot' _ first
        exact ⟨inside, body', inner', filled, items, .inl found⟩
      · obtain ⟨inside, body', inner', filled, items, found⟩ :=
          bodiesOfAll_of_allowsAll fills b place spot' matching' later
        exact ⟨inside, body', inner', filled, items, .inr found⟩
termination_by Node.weightOf nodes
decreasing_by all_goals (subst_vars; simp only [Node.weightOf]; omega)

end

variable {α : Type} {dropped : Import → Bool} {view trace : Sight → List α}

/-- What a view finds in what runs of a result is what is left of what runs of the items. -/
theorem Traces.running (traces : rules.Traces base dropped view trace) (alike : rules.RunsAlike)
    {inStyles : Bool} {items results : List Node} {spot : Spot}
    (place : inStyles = true ↔ spot.place = .filled) (stays : spot.hosts.any dropped = false)
    (allowed : rules.AllowsItems inStyles items results) (spot' : Spot) :
    (sightsOfItems base spot' (runningAll results)).flatMap view =
      left dropped trace (sightsOfItems base spot (runningAll items)) :=
  traces.items spot place stays (alike.allowsItems allowed) spot'

theorem open_of_subset {hosts more : List Import} (subset : hosts ⊆ more)
    (stays : more.any dropped = false) : hosts.any dropped = false := by
  rw [List.any_eq_false] at stays ⊢
  exact fun host member => stays host (subset member)

/-- A list in an item has its place in a result, unless it is in the attributes of an import that is
replaced. -/
theorem Traces.hosted (traces : rules.Traces base dropped view trace) {spot inner : Spot}
    {host : Node} {after body results : List Node}
    (nested : (inner, body) ∈ bodiesOfItem base spot host)
    (stays : inner.hosts.any dropped = false) {inStyles : Bool}
    (filled : inStyles = true ↔ spot.place = .filled)
    (allowed : rules.AllowsItems inStyles (host :: after) results) (spot' : Spot) :
    ∃ host' back, results = host' :: back ∧
      ∃ inside body' inner', (inside = true ↔ inner.place = .filled) ∧
        rules.AllowsItems inside body body' ∧ (inner', body') ∈ bodiesOfItem base spot' host' := by
  rcases host.isImport_or with ⟨declaration, attributes, rfl⟩ | plain
  · obtain ⟨_, back, replaced | ⟨attributes', _, a, rfl⟩, _, rfl⟩ := allowed
    · have gone := (traces.replaced {} {} declaration _ replaced).1
      rw [hosts_of_bodies nested, Spot.inside, List.any_cons, gone] at stays
      cases stays
    · have filled' : inStyles = true ↔ (spot.inside declaration).place = .filled := filled
      exact ⟨_, back, rfl,
        bodies_of_allows traces.fills a filled' (spot'.inside declaration) false nested⟩
  · rw [allowsItems_cons plain] at allowed
    obtain ⟨host', back, a, _, rfl⟩ := allowed
    rw [bodiesOfItem_plain base spot plain] at nested
    refine ⟨host', back, rfl, ?_⟩
    rw [bodiesOfItem_plain base spot' (plain_of_allows plain a)]
    exact bodies_of_allows traces.fills a filled spot' false nested

/-- The items in the place of an import stand behind what is left of all that runs before it. -/
theorem Traces.leads (traces : rules.Traces base dropped view trace) (alike : rules.RunsAlike)
    {spot place : Spot} {items : List Node} {seen : List Sight} {declaration : Import}
    {attributes : Node}
    (leads : Leads base spot items seen place (.importDecl declaration attributes))
    (gone : dropped declaration = true) (stays : place.hosts.any dropped = false)
    {inStyles : Bool} (filled : inStyles = true ↔ spot.place = .filled) {results : List Node}
    (allowed : rules.AllowsItems inStyles items results) (spot' : Spot) :
    ∃ put, rules.replaces declaration put ∧
      ∀ first item later, put = first ++ item :: later →
        ∃ seen' outer place', Leads base spot' results
            (seen' ++ sightsOfItems base outer (runningAll first)) place' item ∧
          seen'.flatMap view = left dropped trace seen := by
  generalize same : Node.importDecl declaration attributes = target at leads
  induction leads generalizing inStyles results spot' with
  | @here spot before after item =>
      subst same
      obtain ⟨front, others, a, rest, rfl⟩ := allowsItems_append.mp allowed
      obtain ⟨put, back, replaced | ⟨_, kept, _⟩, b, rfl⟩ := rest
      · refine ⟨put, replaced, ?_⟩
        rintro first item later rfl
        refine ⟨_, spot', spot', ?_, traces.running alike filled stays a spot'⟩
        rw [← sightsOfItems_append, runningAll_eq, runningAll_eq, ← List.map_append,
          ← runningAll_eq]
        have split : front ++ (first ++ item :: later ++ back) =
            front ++ first ++ item :: (later ++ back) := by simp
        rw [split]
        exact .here
      · rw [(traces.kept {} {} declaration kept).1] at gone
        cases gone
  | @within spot inner place before after body host item seen nested leads ih =>
      have around : spot.hosts.any dropped = false := by
        have within : Leads base spot (before ++ host :: after) _ place item := .within nested leads
        exact open_of_subset within.hosts stays
      obtain ⟨front, others, a, rest, rfl⟩ := allowsItems_append.mp allowed
      have before' := traces.running alike filled around a spot'
      obtain ⟨host', back, rfl, inside, body', inner', filled', allowed', nested'⟩ :=
        traces.hosted nested (open_of_subset leads.hosts stays) filled rest spot'
      obtain ⟨put, replaced, found⟩ := ih stays filled' allowed' inner' same
      refine ⟨put, replaced, ?_⟩
      intro first item later split
      obtain ⟨seen', outer, place', leads', traced⟩ := found first item later split
      refine ⟨sightsOfItems base spot' (runningAll front) ++ seen', outer, place', ?_, ?_⟩
      · rw [List.append_assoc]
        exact .within nested' leads'
      · rw [List.flatMap_append, before', traced, left_append]

end Rules

end StyleInline
