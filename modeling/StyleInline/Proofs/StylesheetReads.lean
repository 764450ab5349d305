import StyleInline.Proofs.Visit
import StyleInline.Proofs.VisitorReuse

/-!
# The stylesheets that are read

The forecast of a module tells which stylesheets its rewriting reads, and in which order.  Every
stylesheet that is imported is read once, up to the sight that ends the rewriting; the imports whose
attributes hold that sight are read behind it.
-/

namespace StyleInline

open Script Rewrite

/-- The stylesheet that an import stands for. -/
def Plan.path? (plan : Plan) (declaration : Import) : Option Path :=
  (plan.sheet? declaration).map Prod.snd

/-- An import that cannot be resolved stands for no stylesheet. -/
theorem Plan.sheet?_of_fault? {plan : Plan} {declaration : Import} {error : InlineError}
    (failed : plan.fault? declaration = some error) : plan.sheet? declaration = none := by
  rw [fault?] at failed
  rw [sheet?]
  split at failed
  next => cases failed
  next valued =>
    rw [if_neg valued]
    split at failed
    next refused => rw [refused]
    next => cases failed

/-- An import reads its stylesheet, whether it can be had or not, and no other. -/
theorem Rewrite.rewriteImport_world {σ : Type} {plan : Plan} {fetch : Fetch σ}
    (declaration : Import) (attributes : Node) (run : Run σ) :
    (rewriteImport plan fetch declaration attributes run).2.world =
      fetch.after plan.filename (plan.path? declaration).toList run.world := by
  cases failed : plan.fault? declaration with
  | some error =>
      rw [rewriteImport_fault declaration attributes run failed, Plan.path?,
        Plan.sheet?_of_fault? failed]
      rfl
  | none =>
      cases found : plan.sheet? declaration with
      | none =>
          obtain ⟨events, same⟩ := rewriteImport_other declaration attributes run failed found
          rw [same, Plan.path?, found]
          rfl
      | some sheet =>
          obtain ⟨binding, path⟩ := sheet
          cases answered : (fetch path plan.filename run.world).1.content with
          | error error =>
              obtain ⟨events, same⟩ :=
                rewriteImport_refused declaration attributes run found answered
              rw [same, Plan.path?, found]
              rfl
          | ok content =>
              obtain ⟨events, same⟩ :=
                rewriteImport_inlined declaration attributes run found answered
              obtain ⟨items, progress, made⟩ :=
                @inline_progress σ plan binding path content run.progress
              obtain ⟨events', inlined⟩ := made
                { run with events, world := (fetch path plan.filename run.world).2 } rfl
              rw [same, inlined, Plan.path?, found]
              rfl

/-- Filling in styles reads nothing. -/
theorem Rewrite.fillStyles_world {σ : Type} (members : List Node) (run : Run σ) :
    (fillStyles members run).2.world = run.world := by
  cases failed : run.failure with
  | some error => rw [fillStyles_failed members (by rw [failed]; rfl)]
  | none =>
      cases called : run.progress.className with
      | none => rw [fillStyles_uncalled members called]
      | some className =>
          obtain ⟨events, same⟩ := fillStyles_eq members failed called
          rw [same]

def Verdict.fold {α : Type} (clear : List (Ident × Path) → α) (ended : α) : Verdict → α
  | .clear passed => clear passed
  | .refused => ended
  | .unmet _ _ _ => ended

namespace Forecast

/-- The stylesheet that is read at a sight. -/
def readAt? (forecast : Forecast) (sight : Sight) : Option Path :=
  (forecast.sheetAt? sight).map Prod.snd

/-- The stylesheets that are read for imports, whatever is in their attributes. -/
def readFor (forecast : Forecast) (hosts : List Import) : List Path :=
  hosts.filterMap forecast.plan.path?

/-- The stylesheets that are read for some sights; behind the sight that ends the rewriting, those
of the imports around it. -/
def reads (forecast : Forecast) : List Sight → List (Ident × Path) → List Path
  | [], _ => []
  | sight :: rest, passed =>
    (forecast.readAt? sight).toList ++
      (forecast.judge sight passed).fold (forecast.reads rest) (forecast.readFor sight.spot.hosts)

section Reads

variable (forecast : Forecast)

theorem reads_append (first second : List Sight) (passed : List (Ident × Path)) :
    forecast.reads (first ++ second) passed =
      forecast.reads first passed ++
        (forecast.judgeAll first passed).fold (forecast.reads second) [] := by
  induction first generalizing passed with
  | nil => rfl
  | cons sight rest ih =>
      rw [List.cons_append, reads, reads, judgeAll, List.append_assoc]
      congr 1
      cases forecast.judge sight passed with
      | clear later => exact ih later
      | refused | unmet className id hosts => exact (List.append_nil _).symm

/-- What is seen from further outside is also read for the imports that come in between. -/
theorem reads_seenFrom (outer : Spot) (seen : List Sight) (passed : List (Ident × Path)) :
    forecast.reads (seen.map (Sight.seenFrom outer)) passed =
      forecast.reads seen passed ++
        (forecast.judgeAll seen passed).fold (fun _ => []) (forecast.readFor outer.hosts) := by
  induction seen generalizing passed with
  | nil => rfl
  | cons sight rest ih =>
      have here : forecast.readAt? (sight.seenFrom outer) = forecast.readAt? sight := by
        cases sight with
        | imported spot declaration isItem => cases isItem <;> rfl
        | _ => rfl
      rw [List.map_cons, reads, reads, judgeAll, here, judge_seenFrom, List.append_assoc]
      congr 1
      cases forecast.judge sight passed with
      | clear later => exact ih later
      | refused | unmet className id hosts =>
          simp only [Verdict.seenFrom, Verdict.fold, Verdict.next, Sight.spot_seenFrom, readFor,
            Spot.join, List.filterMap_append]

/-- Nothing is read where nothing is imported. -/
theorem reads_unread (seen : List Sight) (passed : List (Ident × Path))
    (unread : ∀ sight ∈ seen, forecast.readAt? sight = none)
    (unhosted : ∀ sight ∈ seen, sight.spot.hosts = []) : forecast.reads seen passed = [] := by
  induction seen generalizing passed with
  | nil => rfl
  | cons sight rest ih =>
      obtain ⟨here, later⟩ := List.forall_mem_cons.mp unread
      obtain ⟨alone, others⟩ := List.forall_mem_cons.mp unhosted
      rw [reads, here, alone]
      cases forecast.judge sight passed with
      | clear middle => exact ih middle later others
      | refused | unmet className id hosts => rfl

/-- An import among items reads what its attributes read, and its own stylesheet. -/
theorem reads_item (base : String) (place : Place) (declaration : Import) (attributes : Node)
    (passed : List (Ident × Path)) :
    forecast.reads (sights base (({ place } : Spot).inside declaration) false attributes ++
        [.imported { place } declaration true]) passed =
      forecast.reads (sights base { place } false attributes) passed ++
        (forecast.plan.path? declaration).toList := by
  rw [reads_append, judgeAll_inside, Spot.inside_start, sights_join, reads_seenFrom,
    List.append_assoc]
  congr 1
  cases forecast.judgeAll (sights base { place } false attributes) passed with
  | clear middle =>
      simp only [Verdict.fold, Verdict.seenFrom, reads, readAt?, sheetAt?, Sight.spot, readFor,
        List.filterMap_nil, List.nil_append, Plan.path?]
      cases forecast.judge (.imported { place } declaration true) middle <;>
        exact List.append_nil _
  | refused | unmet className id hosts =>
      simp only [Verdict.fold, Verdict.seenFrom, readFor, List.append_nil, List.filterMap_cons,
        List.filterMap_nil]
      cases forecast.plan.path? declaration <;> rfl

/-- Where nothing ends the rewriting, every import of a stylesheet reads it. -/
theorem reads_of_passes {seen : List Sight} {passed : List (Ident × Path)}
    (passes : forecast.Passes seen passed) :
    forecast.reads seen passed = seen.filterMap forecast.readAt? := by
  induction seen generalizing passed with
  | nil => rfl
  | cons sight rest ih =>
      obtain ⟨here, others⟩ := passes_cons.mp passes
      rw [reads, judge_passing here, Verdict.fold, ih others, List.filterMap_cons]
      cases forecast.readAt? sight <;> rfl

/-- Behind the sight that ends the rewriting, only the imports around it are read. -/
theorem reads_of_stops {before after : List Sight} {sight : Sight} {passed : List (Ident × Path)}
    (passes : forecast.Passes before passed)
    (stops : forecast.Stops (forecast.passedIn before ++ passed) sight) :
    forecast.reads (before ++ sight :: after) passed =
      before.filterMap forecast.readAt? ++ (forecast.readAt? sight).toList ++
        forecast.readFor sight.spot.hosts := by
  have clear := (forecast.judgeAll_eq_clear_iff before passed _).mpr ⟨passes, rfl⟩
  rw [reads_append, clear, Verdict.fold, reads_of_passes forecast passes, reads,
    List.append_assoc]
  congr 2
  cases verdict : forecast.judge sight (forecast.passedIn before ++ passed) with
  | clear later => exact absurd verdict (judge_stopping stops later)
  | refused | unmet className id hosts => rfl

end Reads

variable {σ : Type}

/-- A run comes as far as the verdict on some sights tells, and has read what is read for them. -/
structure Follows (forecast : Forecast) (fetch : Fetch σ) (name : Option String)
    (seen : List Sight) (passed : List (Ident × Path)) (run run' : Run σ) : Prop where
  ends : forecast.Ends fetch name (fun _ => True) run' (forecast.judgeAll seen passed)
  world : run'.world =
    fetch.after forecast.plan.filename (forecast.reads seen passed) run.world

section Follows

variable {forecast : Forecast} {fetch : Fetch σ} {name : Option String} {seen seen' : List Sight}
  {passed : List (Ident × Path)} {run middle run' : Run σ}

theorem Follows.append (first : forecast.Follows fetch name seen passed run middle)
    (second : ∀ later, forecast.Standing fetch later name middle →
      forecast.Follows fetch name seen' later middle run')
    (frozen : middle.failure.isSome = true → run' = middle) :
    forecast.Follows fetch name (seen ++ seen') passed run run' := by
  constructor
  · exact (first.ends.append (fun later standing => (second later standing).ends) frozen).mono
      fun _ _ => trivial
  · have ends := first.ends
    rw [reads_append, Fetch.after_append, ← first.world]
    cases verdict : forecast.judgeAll seen passed with
    | clear later =>
        rw [verdict] at ends
        exact (second later ends.1).world
    | refused =>
        rw [verdict] at ends
        obtain ⟨error, failed, _⟩ := ends
        rw [frozen (by rw [failed]; rfl)]
        rfl
    | unmet className id hosts =>
        rw [verdict] at ends
        have failed : middle.failure.isSome = true := by
          simp only [Ends] at ends
          split at ends
          · obtain ⟨error, failed, _⟩ := ends
            rw [failed]
            rfl
          · rw [ends.1]
            rfl
        rw [frozen failed]
        rfl

mutual

/-- The rewriting of a node reads what is told. -/
theorem follows_node (fits : forecast.Fits fetch) (place : Place) (isStyles : Bool) (node : Node)
    {passed : List (Ident × Path)} {name : Option String} {run : Run σ}
    (covers : forecast.Covers (sights forecast.plan.config.baseClass { place } isStyles node))
    (standing : forecast.Standing fetch passed name run) :
    forecast.Follows fetch name (sights forecast.plan.config.baseClass { place } isStyles node)
      passed run (rewriteNode forecast.plan fetch node run).2 := by
  refine ⟨(course fits place isStyles node covers standing).mono fun _ _ => trivial, ?_⟩
  cases node with
  | ident role id => rfl
  | importDecl declaration attributes =>
      obtain ⟨inner, _⟩ := covers_append.mp covers
      have follows := follows_node fits place false attributes inner standing
      rw [rewriteNode_importDecl, sights, reads_append, Fetch.after_append, ← follows.world]
      cases forecast.judgeAll _ passed <;> rfl
  | exportNames declaration attributes =>
      obtain ⟨inner, _⟩ := covers_append.mp covers
      have follows := follows_node fits place false attributes inner standing
      have silent (later : List (Ident × Path)) : forecast.reads
          ((Scan.exportedBindings declaration).map (Sight.exported { place })) later = [] := by
        refine forecast.reads_unread _ _ ?_ ?_ <;> simp [readAt?, sheetAt?, Sight.spot]
      rw [rewriteNode_exportNames, sights, reads_append, Fetch.after_append, ← follows.world]
      cases forecast.judgeAll _ passed with
      | clear later => rw [Verdict.fold, silent]; rfl
      | refused | unmet className id hosts => rfl
  | classNode head decorators members parent rest =>
      have parts {name : Option String} {run : Run σ}
          (standing : forecast.Standing fetch passed name run) :=
        have ⟨ofDecorators, ofMembers, ofParent, ofRest⟩ := covers.parts
        (((follows_nodes fits place false decorators ofDecorators standing).append
          (fun later standing => follows_nodes fits place _ members ofMembers standing)
          fun failed => by rw [rewriteNodes_failed members _ failed]).append
          (fun later standing => follows_node fits place false parent ofParent standing)
          fun failed => by rw [rewriteNode_failed parent _ failed]).append
          (fun later standing => follows_nodes fits place false rest ofRest standing)
          fun failed => by rw [rewriteNodes_failed rest _ failed]
      have silent (later : List (Ident × Path)) : forecast.reads
          (if extendsBase forecast.plan.config.baseClass parent then
            [.styled { place } head members] else []) later = [] := by
        refine forecast.reads_unread _ _ ?_ ?_ <;> split <;> simp [readAt?, sheetAt?, Sight.spot]
      have whole (verdict : Verdict) : verdict.fold (forecast.reads
          (if extendsBase forecast.plan.config.baseClass parent then
            [.styled { place } head members] else [])) [] = [] := by
        cases verdict with
        | clear later => exact silent later
        | refused | unmet className id hosts => rfl
      rw [sights, reads_append, whole, List.append_nil]
      cases matching : isMatching forecast.plan parent with
      | false =>
          rw [rewriteNode_classNode_other run _ _ _ _ _ standing.active matching]
          exact (parts standing).world
      | true =>
          rw [rewriteNode_classNode_matching run _ _ _ _ _ standing.active matching]
          exact (fillStyles_world _ _).trans (parts (standing.rename _)).world
  | member head key front core back =>
      have spot (part : Place) : (if isStyles then ({ place } : Spot).within part else { place }) =
          { place := if isStyles then place.join part else place } := by
        cases isStyles <;> rfl
      simp only [sights, spot] at covers ⊢
      obtain ⟨first, ofBack⟩ := covers_append.mp covers
      obtain ⟨first, ofCore⟩ := covers_append.mp first
      obtain ⟨ofKey, ofFront⟩ := covers_append.mp first
      rw [rewriteNode_member]
      exact ((((follows_node fits _ false key ofKey standing).append
        (fun later standing => follows_nodes fits _ false front ofFront standing)
        fun failed => by rw [rewriteNodes_failed front _ failed]).append
        (fun later standing => follows_node fits _ false core ofCore standing)
        fun failed => by rw [rewriteNode_failed core _ failed]).append
        (fun later standing => follows_nodes fits _ false back ofBack standing)
        fun failed => by rw [rewriteNodes_failed back _ failed]).world
  | items body => exact (follows_items fits place body covers standing).world
  | form shape parts => exact (follows_nodes fits place false parts covers standing).world
termination_by node.weight
decreasing_by all_goals (subst_vars; simp only [Node.weight]; omega)

theorem follows_nodes (fits : forecast.Fits fetch) (place : Place) (matching : Bool)
    (nodes : List Node) {passed : List (Ident × Path)} {name : Option String} {run : Run σ}
    (covers : forecast.Covers
      (sightsOfAll forecast.plan.config.baseClass { place } matching nodes))
    (standing : forecast.Standing fetch passed name run) :
    forecast.Follows fetch name
      (sightsOfAll forecast.plan.config.baseClass { place } matching nodes) passed run
      (rewriteNodes forecast.plan fetch nodes run).2 := by
  cases nodes with
  | nil => exact ⟨⟨standing, trivial⟩, rfl⟩
  | cons node rest =>
      obtain ⟨here, others⟩ := covers_append.mp covers
      rw [sightsOfAll, rewriteNodes_cons]
      exact (follows_node fits place (matching && isStylesMember node) node here standing).append
        (fun later standing => follows_nodes fits place matching rest others standing)
        fun failed => congrArg Prod.snd (rewriteNodes_failed rest _ failed)
termination_by Node.weightOf nodes
decreasing_by all_goals (subst_vars; simp only [Node.weightOf]; omega)

theorem follows_items (fits : forecast.Fits fetch) (place : Place) (items : List Node)
    {passed : List (Ident × Path)} {name : Option String} {run : Run σ}
    (covers : forecast.Covers (sightsOfItems forecast.plan.config.baseClass { place } items))
    (standing : forecast.Standing fetch passed name run) :
    forecast.Follows fetch name (sightsOfItems forecast.plan.config.baseClass { place } items)
      passed run (rewriteItems forecast.plan fetch items run).2 := by
  cases items with
  | nil => exact ⟨⟨standing, trivial⟩, rfl⟩
  | cons item rest =>
      rcases item.isImport_or with ⟨declaration, attributes, rfl⟩ | plain
      · have split : sightsOfItems forecast.plan.config.baseClass { place }
            (.importDecl declaration attributes :: rest) =
            (sights forecast.plan.config.baseClass (({ place } : Spot).inside declaration) false
              attributes ++ [.imported { place } declaration true]) ++
                sightsOfItems forecast.plan.config.baseClass { place } rest := by
          rw [sightsOfItems, List.append_assoc, List.singleton_append]
        rw [split] at covers ⊢
        obtain ⟨here, others⟩ := covers_append.mp covers
        have inside := covers_inside.mp (covers_append.mp here).1
        have ends := ends_import fits (course fits place false attributes inside standing)
          declaration (rewriteNode forecast.plan fetch attributes run).1
        have whole : forecast.Follows fetch name
            (sights forecast.plan.config.baseClass (({ place } : Spot).inside declaration) false
              attributes ++ [.imported { place } declaration true]) passed run
            (rewriteImport forecast.plan fetch declaration
              (rewriteNode forecast.plan fetch attributes run).1
              (rewriteNode forecast.plan fetch attributes run).2).2 := by
          refine ⟨ends.mono fun _ _ => trivial, ?_⟩
          rw [reads_item, Fetch.after_append,
            ← (follows_node fits place false attributes inside standing).world]
          exact rewriteImport_world declaration _ _
        rw [rewriteItems_importDecl run declaration attributes rest standing.active]
        refine whole.append
          (fun later standing => follows_items fits place rest others standing) fun failed => ?_
        dsimp only
        rw [rewriteItems_failed _ rest failed]
      · rw [sightsOfItems_cons _ _ rest plain] at covers ⊢
        obtain ⟨here, others⟩ := covers_append.mp covers
        rw [rewriteItems_cons run rest standing.active plain]
        exact (follows_node fits place false item here standing).append
          (fun later standing => follows_items fits place rest others standing)
          fun failed => congrArg Prod.snd (rewriteItems_failed _ rest failed)
termination_by Node.weightOf items
decreasing_by all_goals (subst_vars; simp only [Node.weight, Node.weightOf]; omega)

end

end Follows

end Forecast

namespace Fetch

variable {σ : Type} {fetch : Fetch σ} {origin : Path}

def recording (fetch : Fetch σ) : Fetch (σ × List Path) := fun path origin (world, asked) =>
  let (fetched, world) := fetch path origin world
  (fetched, world, asked ++ [path])

theorem recording_after (paths : List Path) (world : σ × List Path) :
    (fetch.recording.after origin paths world).2 = world.2 ++ paths := by
  induction paths generalizing world with
  | nil => exact (List.append_nil _).symm
  | cons path rest ih =>
      rw [after, List.foldl_cons, ← after, ih, recording, List.append_assoc]
      rfl

theorem IsSteady.recording (steady : fetch.IsSteady origin) :
    fetch.recording.IsSteady origin :=
  fun world path content answered => steady world.1 path content answered

theorem IsProper.recording (proper : fetch.IsProper origin) :
    fetch.recording.IsProper origin :=
  fun world path error refused => proper world.1 path error refused

theorem Along.recording {answer : Path → Except InlineError String} {paths : List Path} {world : σ}
    (along : fetch.Along origin answer paths world) (asked : List Path) :
    fetch.recording.Along origin answer paths (world, asked) := by
  induction paths generalizing world asked with
  | nil => trivial
  | cons path rest ih => exact ⟨along.1, ih along.2 _⟩

end Fetch

/-- Without processing, fetchers give the same answers where the files do. -/
theorem Fetcher.along_plain {systems : Systems} {origin : Path} {paths : List Path}
    {world : Fetcher.World} (plain : world.1.processing.isEnabled = false)
    {read : Path → Except FileError String}
    (same : ∀ path ∈ paths, (systems world.1.system).read path = read path) :
    (Fetcher.fetch systems).Along origin (fun path => (read path).mapError (.read path origin))
      paths world := by
  have gives := Fetcher.gives_plain systems origin world plain
  induction paths generalizing world with
  | nil => trivial
  | cons path rest ih =>
      obtain ⟨here, others⟩ := List.forall_mem_cons.mp same
      have still : (Fetcher.fetch systems path origin world).2 = world := by
        cases found : (systems world.1.system).read path with
        | error source => rw [fetch_missing found]
        | ok content => rw [fetch_plain found plain]
      refine ⟨?_, ?_⟩
      · rw [gives.answers]
        exact congrArg _ here
      · rw [still]
        exact ih plain others gives

namespace Forecast

/-- The rewriting passes all sights, or one of them is the first that ends it. -/
theorem passes_or_stops (forecast : Forecast) (seen : List Sight) :
    forecast.Passes seen [] ∨ ∃ before sight after, seen = before ++ sight :: after ∧
      forecast.Passes before [] ∧ forecast.Stops (forecast.passedIn before) sight := by
  by_cases clear : ∃ later, forecast.judgeAll seen [] = .clear later
  · obtain ⟨later, clear⟩ := clear
    exact .inl ((forecast.judgeAll_eq_clear_iff seen [] later).mp clear).1
  · obtain ⟨before, sight, after, split, passes, ended⟩ :=
      (forecast.judgeAll_eq_iff seen [] fun later same => clear ⟨later, same⟩).mp rfl
    refine .inr ⟨before, sight, after, split, passes, ?_⟩
    rw [List.append_nil] at ended
    by_contra goesOn
    exact clear ⟨_, ended.symm.trans (judge_passing goesOn)⟩

end Forecast

namespace Visitor

variable {σ σ' : Type} {fetch : Fetch σ} {fetch' : Fetch σ'} {visitor : Visitor}

/-- A visit reads what its forecast tells. -/
theorem world_visit (steady : fetch.IsSteady visitor.plan.filename)
    (proper : fetch.IsProper visitor.plan.filename) (ready : visitor.failure = none)
    (module : Module) (world : σ) {forecast : Forecast}
    (made : forecast =
      Forecast.ofModule visitor.plan module (fetch.answers visitor.plan.filename world)) :
    (visitor.visit fetch module world).world =
      fetch.after visitor.plan.filename (forecast.reads (forecast.seenIn module) []) world := by
  subst made
  have follows := Forecast.follows_items
    ⟨steady, proper, Forecast.isFresh_ofModule visitor.plan module _⟩ .outside module.items
    (Forecast.covers_ofModule visitor.plan module _)
    (Forecast.standing_start visitor.plan fetch module world)
  rw [visit, ready]
  exact follows.world

/-- Visits that get the same answers to what they ask for lead to the same result. -/
theorem visit_driven (visitor : Visitor) (module : Module)
    (answer : Path → Except InlineError String) :
    ∃ asked result after, ∀ (σ : Type) (fetch : Fetch σ) (world : σ),
      fetch.Along visitor.plan.filename answer asked world →
        ∃ events, visitor.visit fetch module world =
          ⟨result, after, events, fetch.after visitor.plan.filename asked world⟩ := by
  obtain ⟨course, takes⟩ := @driven_items visitor.plan answer module.items
    { scan := Scan.ofModule visitor.plan.query module } visitor.failure
  refine ⟨course.asked, { module with items := course.result },
    { visitor with progress := {}, failure := course.failure }, fun σ fetch world along => ?_⟩
  obtain ⟨events, same⟩ := takes σ fetch (visitor.start module world) rfl rfl along
  dsimp only at same
  rw [visit_eq, same]
  exact ⟨events, rfl⟩

/-- Another fetch leads to the same visit if it gives the same answers to what is read. -/
theorem visit_alike (steady : fetch.IsSteady visitor.plan.filename)
    (proper : fetch.IsProper visitor.plan.filename) (ready : visitor.failure = none)
    (module : Module) (world : σ) (world' : σ')
    (gives : fetch.Gives visitor.plan.filename
      (fetch.answers visitor.plan.filename world) world) {forecast : Forecast}
    (made : forecast =
      Forecast.ofModule visitor.plan module (fetch.answers visitor.plan.filename world))
    (along : fetch'.Along visitor.plan.filename (fetch.answers visitor.plan.filename world)
      (forecast.reads (forecast.seenIn module) []) world') :
    (visitor.visit fetch' module world').module = (visitor.visit fetch module world).module ∧
      (visitor.visit fetch' module world').visitor =
        (visitor.visit fetch module world).visitor := by
  obtain ⟨asked, result, after, takes⟩ :=
    visit_driven visitor module (fetch.answers visitor.plan.filename world)
  -- What is written down tells that nothing else is asked for.
  obtain ⟨_, written⟩ := takes _ fetch.recording (world, []) ((gives.along _).recording [])
  have recorded := world_visit steady.recording proper.recording ready module (world, []) made
  rw [written] at recorded
  have same := congrArg Prod.snd recorded
  rw [Fetch.recording_after, Fetch.recording_after, List.nil_append, List.nil_append] at same
  obtain ⟨_, one⟩ := takes _ fetch world (gives.along _)
  obtain ⟨_, other⟩ := takes _ fetch' world' (same ▸ along)
  rw [one, other]
  exact ⟨rfl, rfl⟩

end Visitor

/-- Behind the registration a compilation is a visit. -/
theorem compile_registered {τ σ : Type} {config : Config} {files : FileSystem}
    {tracker : Tracker τ} {registrations : τ}
    (registered : ∃ paths,
      (Dependency.register tracker files config.externalDependencies registrations).paths =
        .ok paths) (filename : Path) (fetch : Fetch σ) (module : Module) (world : σ) :
    let compiled := compile config filename files tracker fetch module registrations world
    let visit := (Visitor.ofConfig config filename files).visit fetch module world
    compiled.module = visit.module ∧ compiled.failure = visit.visitor.failure ∧
      compiled.world = visit.world := by
  obtain ⟨paths, registered⟩ := registered
  simp only [compile, registered]
  exact ⟨trivial, trivial, trivial⟩

/-- A compilation without processing reads exactly the stylesheets that are imported, one after
another, up to the first sight that ends the rewriting and, behind that sight, those of the imports
whose attributes hold it.  Files that give the same answers to these reads lead to the same module
and to the same failure. -/
theorem compile_reads {τ : Type} (config : Config) (filename : Path) (files : FileSystem)
    (tracker : Tracker τ) (module : Module) (registrations : τ) (world : Fetcher.World)
    (plain : world.1.processing.isEnabled = false)
    (registered : ∃ paths,
      (Dependency.register tracker files config.externalDependencies registrations).paths =
        .ok paths) :
    let fetch := Fetcher.fetch fun _ => files
    let compiled := compile config filename files tracker fetch module registrations world
    let forecast := Forecast.ofModule (Visitor.ofConfig config filename files).plan module
      fun path => (files.read path).mapError (.read path filename)
    let seen := forecast.seenIn module
    let reads := (compile config filename files tracker fetch.recording module registrations
      (world, [])).world.2
    ((compiled.failure = none ∧ forecast.Passes seen [] ∧
        reads = seen.filterMap forecast.readAt?) ∨
      (compiled.failure.isSome = true ∧ ∃ before sight after,
        seen = before ++ sight :: after ∧ forecast.Passes before [] ∧
        forecast.Stops (forecast.passedIn before) sight ∧
        reads = before.filterMap forecast.readAt? ++ (forecast.readAt? sight).toList ++
          forecast.readFor sight.spot.hosts)) ∧
    ∀ (τ' : Type) (files' : FileSystem) (tracker' : Tracker τ') (registrations' : τ')
      (world' : Fetcher.World), world'.1.processing.isEnabled = false →
      files'.cwd = files.cwd →
      (∃ paths,
        (Dependency.register tracker' files' config.externalDependencies registrations').paths =
          .ok paths) →
      (∀ path ∈ reads, files'.read path = files.read path) →
      let compiled' := compile config filename files' tracker' (Fetcher.fetch fun _ => files')
        module registrations' world'
      compiled'.module = compiled.module ∧ compiled'.failure = compiled.failure := by
  intro fetch compiled forecast seen reads
  let visitor := Visitor.ofConfig config filename files
  have gives := Fetcher.gives_plain (fun _ => files) filename world plain
  have answers := gives.answers
  rw [← answers] at gives
  have made : forecast = Forecast.ofModule visitor.plan module (fetch.answers filename world) := by
    rw [answers]
  have steady := Fetcher.fetch_isSteady (fun _ => files) filename
  have proper := Fetcher.fetch_isProper (fun _ => files) filename
  obtain ⟨built, failure, _⟩ := compile_registered registered filename fetch module world
  have written : reads = forecast.reads seen [] := by
    obtain ⟨_, _, recorded⟩ :=
      compile_registered registered filename fetch.recording module (world, [])
    have visited := @Visitor.world_visit _ fetch.recording visitor steady.recording
      proper.recording rfl module (world, []) forecast made
    have same := congrArg Prod.snd (recorded.trans visited)
    rwa [Fetch.recording_after] at same
  refine ⟨?_, ?_⟩
  · have tells := visitor.ends_visit steady proper rfl module world forecast made
    rw [← failure] at tells
    rcases forecast.passes_or_stops seen with passes | ⟨before, sight, after, split, passes, stops⟩
    · have clear := (forecast.judgeAll_eq_clear_iff seen [] _).mpr ⟨passes, rfl⟩
      rw [clear] at tells
      exact .inl ⟨tells.1, passes, written.trans (forecast.reads_of_passes passes)⟩
    · refine .inr ⟨?_, before, sight, after, split, passes, stops, ?_⟩
      · by_contra complete
        have succeeded : compiled.failure = none := by simpa using complete
        rw [succeeded] at tells
        exact tells.passes before sight after split ((List.append_nil _).symm ▸ stops)
      · rw [written, split, forecast.reads_of_stops passes ((List.append_nil _).symm ▸ stops)]
  · intro τ' files' tracker' registrations' world' plain' here registered' agree compiled'
    obtain ⟨built', failure', _⟩ := compile_registered registered' filename
      (Fetcher.fetch fun _ => files') module world'
    have planned : Visitor.ofConfig config filename files' = visitor := by
      rw [Visitor.ofConfig, here]
      rfl
    have along : (Fetcher.fetch fun _ => files').Along filename (fetch.answers filename world)
        (forecast.reads seen []) world' := by
      rw [answers, ← written]
      exact Fetcher.along_plain plain' agree
    obtain ⟨same, failed⟩ := @Visitor.visit_alike _ _ fetch (Fetcher.fetch fun _ => files') visitor
      steady proper rfl module world world' gives forecast made along
    rw [planned] at built' failure'
    exact ⟨built'.trans (same.trans built.symm),
      failure'.trans ((congrArg Visitor.failure failed).trans failure.symm)⟩

/-- A stylesheet that is missing: the one behind it is not read, so it does not matter. -/
theorem compile_reads_missing :
    let files := Memory.fileSystem { entries := [(⟨"/a.css"⟩, .file ".a {}" 0)] }
    let files' := Memory.fileSystem
      { entries := [(⟨"/a.css"⟩, .file ".a {}" 1), (⟨"/c.css"⟩, .file ".c {}" 1)] }
    let style (name specifier : String) : Node := .importDecl
      ⟨.evaluation, false, [.default ⟨name, .declared 0⟩], ⟨specifier, none⟩, false⟩ .absent
    let module : Module :=
      ⟨none, [style "a" "./a.css", style "b" "./b.css", style "c" "./c.css"]⟩
    let world : Fetcher.World := (⟨0, .disabled, none⟩, {})
    let compiled := compile {} ⟨"/index.js"⟩ files (@Tracker.tracing Unit)
      (Fetcher.fetch fun _ => files) module () world
    let compiled' := compile {} ⟨"/index.js"⟩ files' (@Tracker.tracing Unit)
      (Fetcher.fetch fun _ => files') module () world
    let reads := (compile {} ⟨"/index.js"⟩ files (@Tracker.tracing Unit)
      (Fetcher.fetch fun _ => files).recording module () (world, [])).world.2
    reads = [⟨"/a.css"⟩, ⟨"/b.css"⟩] ∧ compiled'.module = compiled.module ∧
      compiled'.failure = compiled.failure := by
  intro files files' style module world compiled compiled' reads
  have read : reads = [⟨"/a.css"⟩, ⟨"/b.css"⟩] := by decide +kernel
  obtain ⟨_, alike⟩ := compile_reads {} ⟨"/index.js"⟩ files (@Tracker.tracing Unit) module () world
    rfl ⟨[], rfl⟩
  have agree : ∀ path ∈ reads, files'.read path = files.read path := by
    rw [read]
    decide +kernel
  exact ⟨read, alike Unit files' Tracker.tracing () world rfl rfl ⟨[], rfl⟩ agree⟩

end StyleInline
