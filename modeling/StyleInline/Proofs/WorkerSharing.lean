import Mathlib.Data.List.Induction
import Mathlib.Data.List.Nodup
import StyleInline.Proofs.Fetching
import StyleInline.Proofs.Options

/-!
# Shared workers

Requests for one way of processing obtain one worker, the one that the first of them has built.
It keeps the file system and the file of options of that request, and the options that it loads
first.
-/

namespace StyleInline

namespace Processing

/-- One way of processing; of files the components of their paths count. -/
inductive IsSame : Processing → Processing → Prop where
  | disabled : IsSame .disabled .disabled
  | enabled : IsSame .enabled .enabled
  | configFile {path other : Path} (components : path.components = other.components) :
      IsSame (.configFile path) (.configFile other)

theorem same_iff {processing other : Processing} :
    processing.same other = true ↔ processing.IsSame other := by
  constructor
  · intro same
    unfold Processing.same at same
    split at same
    · exact .disabled
    · exact .enabled
    · exact .configFile (eq_of_beq same)
    · cases same
  · rintro (_ | _ | components)
    · rfl
    · rfl
    · exact beq_iff_eq.mpr components

theorem IsSame.refl (processing : Processing) : processing.IsSame processing := by
  cases processing with
  | disabled => exact .disabled
  | enabled => exact .enabled
  | configFile path => exact .configFile rfl

theorem IsSame.symm {processing other : Processing} (same : processing.IsSame other) :
    other.IsSame processing := by
  cases same with
  | disabled => exact .disabled
  | enabled => exact .enabled
  | configFile components => exact .configFile components.symm

theorem IsSame.trans {first second third : Processing} (same : first.IsSame second)
    (same' : second.IsSame third) : first.IsSame third := by
  cases same with
  | disabled => exact same'
  | enabled => exact same'
  | configFile components =>
      cases same' with
      | configFile components' => exact .configFile (components.trans components')

/-- What is the same as one of two is the same as the other. -/
theorem same_congr {processing other : Processing} (same : processing.IsSame other)
    (third : Processing) : third.same processing = third.same other :=
  Bool.eq_iff_iff.mpr (same_iff.trans
    ⟨fun one => same_iff.mpr (one.trans same), fun two => (same_iff.mp two).trans same.symm⟩)

end Processing

namespace Workshop

/-- What is asked of a workshop; a call meets the file systems as they are then. -/
inductive Act where
  | share (processing : Processing) (system : SystemId)
  | hire (engine : Engine)
  | call (systems : Systems) (id : WorkerId) (input : String) (source : Path)

def perform (workshop : Workshop) : Act → Workshop
  | .share processing system => (workshop.share processing system).2.2
  | .hire engine => (workshop.hire engine).2
  | .call systems id input source => (workshop.call systems id input source).2

/-- An empty workshop after some acts. -/
def reached (acts : List Act) : Workshop := acts.foldl perform {}

/-- The file systems that the calls of a worker meet, one call after another. -/
def met (id : WorkerId) (acts : List Act) : List Systems :=
  acts.filterMap fun
    | .call systems other _ _ => if other = id then some systems else none
    | _ => none

/-- The options that are loaded first. -/
def firstLoaded (system : SystemId) (options : Option Path) (met : List Systems) :
    Option ProcessorConfig :=
  met.findSome? fun systems => (ProcessorConfig.load (systems system) options).toOption

/-- A worker that processes stylesheets, with the options that it has loaded. -/
def Holds (workshop : Workshop) (id : WorkerId) (system : SystemId) (options : Option Path)
    (config : Option ProcessorConfig) : Prop :=
  workshop.workers[id]? = some ⟨.stylesheets system options, ⟨config, true⟩⟩

section Serving

variable {workshop : Workshop} {id : WorkerId} {system : SystemId} {options : Option Path}
  {config : Option ProcessorConfig}

/-- The options that a call uses are those that are known, or else those that it loads. -/
theorem call_stylesheets (systems : Systems) (input : String) (source : Path) :
    let worker : Worker := ⟨.stylesheets system options, ⟨config, true⟩⟩
    let found := ProcessorConfig.load (systems system) options
    let used := match config with
      | some known => Except.ok known
      | none => found
    worker.call systems input source =
      (used.bind fun known => Stylesheet.process known input source,
        ⟨.stylesheets system options, ⟨config.or found.toOption, true⟩⟩) := by
  intro worker found used
  have processed : ∀ known (bridge : Bridge),
      Bridge.process (Stylesheet.processor options) known input source bridge (systems system) =
        ⟨Stylesheet.process known input source, bridge, systems system⟩ := by
    intro known bridge
    simp only [Bridge.process, Stylesheet.processor]
    cases Stylesheet.process known input source <;> rfl
  cases config with
  | some known =>
      simp only [worker, used, Worker.call, Bridge.call, processed]
      rfl
  | none =>
      cases loading : found with
      | ok known =>
          have loaded : (Stylesheet.processor options).loadConfig (systems system) =
              (.done known, systems system) := by
            simp only [Stylesheet.processor]
            rw [show ProcessorConfig.load (systems system) options = .ok known from loading]
          simp only [worker, used, Worker.call, Bridge.call, loaded, processed, loading]
          rfl
      | error failure =>
          have failed : (Stylesheet.processor options).loadConfig (systems system) =
              (.failed failure, systems system) := by
            simp only [Stylesheet.processor]
            rw [show ProcessorConfig.load (systems system) options = .error failure from loading]
          simp only [worker, used, Worker.call, Bridge.call, failed, loading]
          rfl

end Serving

section Requests

variable {workshop : Workshop} {processing : Processing} {system : SystemId} {id : WorkerId}

theorem share_known (known : workshop.shared? processing = some id) :
    workshop.share processing system = (id, [], workshop) := by
  simp only [share, known]

theorem share_first (first : workshop.shared? processing = none) :
    workshop.share processing system =
      (workshop.workers.length, [.processorStarted],
        ⟨workshop.workers ++ [{ engine := .stylesheets system (optionsOf processing) }],
          workshop.shared ++ [(processing, workshop.workers.length)]⟩) := by
  simp only [share, first, hire]

/-- A request adds at most one worker, and takes none away. -/
theorem prefix_share (workshop : Workshop) (processing : Processing) (system : SystemId) :
    workshop.workers <+: (workshop.share processing system).2.2.workers ∧
      workshop.shared <+: (workshop.share processing system).2.2.shared := by
  cases known : workshop.shared? processing with
  | some id =>
      rw [share_known known]
      exact ⟨List.prefix_refl _, List.prefix_refl _⟩
  | none =>
      rw [share_first known]
      exact ⟨List.prefix_append _ _, List.prefix_append _ _⟩

theorem shared_call (systems : Systems) (input : String) (source : Path) :
    (workshop.call systems id input source).2.shared = workshop.shared := by
  rw [call]
  split <;> rfl

theorem length_call (systems : Systems) (input : String) (source : Path) :
    (workshop.call systems id input source).2.workers.length = workshop.workers.length := by
  rw [call]
  split
  · rfl
  · exact List.length_set

theorem prefix_perform (workshop : Workshop) (act : Act) :
    workshop.shared <+: (workshop.perform act).shared := by
  cases act with
  | share processing system => exact (prefix_share workshop processing system).2
  | hire engine => exact List.prefix_refl _
  | call systems id input source =>
      rw [perform, shared_call]

/-- A shared worker stays the one for its way of processing. -/
theorem shared?_perform (known : workshop.shared? processing = some id) (act : Act) :
    (workshop.perform act).shared? processing = some id := by
  obtain ⟨more, grown⟩ := prefix_perform workshop act
  obtain ⟨entry, found, same⟩ := Option.map_eq_some_iff.mp known
  rw [shared?, ← grown, List.find?_append, found]
  exact congrArg some same

theorem shared?_run (known : workshop.shared? processing = some id) (acts : List Act) :
    (acts.foldl perform workshop).shared? processing = some id := by
  induction acts generalizing workshop with
  | nil => exact known
  | cons act acts ih => exact ih (shared?_perform known act)

/-- Whoever asks for a way of processing finds its worker afterwards. -/
theorem shared?_share (workshop : Workshop) (processing : Processing) (system : SystemId) :
    (workshop.share processing system).2.2.shared? processing =
      some (workshop.share processing system).1 := by
  cases known : workshop.shared? processing with
  | some id =>
      rw [share_known known]
      exact known
  | none =>
      have absent := Option.map_eq_none_iff.mp known
      have same := Processing.same_iff.mpr (Processing.IsSame.refl processing)
      rw [share_first known, shared?, List.find?_append, absent, Option.none_or,
        List.find?_singleton, if_pos same]
      rfl

/-- The worker that a request has obtained is the one for its way of processing ever after. -/
theorem shared?_reached (front : List Act) (processing : Processing) (system : SystemId)
    (back : List Act) :
    (reached (front ++ .share processing system :: back)).shared? processing =
      some ((reached front).share processing system).1 := by
  rw [reached, List.foldl_append, List.foldl_cons]
  exact shared?_run (shared?_share _ processing system) back

theorem shared?_congr {other : Processing} (same : processing.IsSame other) :
    workshop.shared? processing = workshop.shared? other := by
  rw [shared?, shared?]
  congr 2
  funext ⟨third, _⟩
  exact Processing.same_congr same third

/-- Each shared worker exists, and is shared in one way only. -/
structure IsOrderly (workshop : Workshop) : Prop where
  inside : ∀ entry ∈ workshop.shared, entry.2 < workshop.workers.length
  nodup : (workshop.shared.map Prod.snd).Nodup

theorem IsOrderly.perform (orderly : workshop.IsOrderly) (act : Act) :
    (workshop.perform act).IsOrderly := by
  obtain ⟨inside, nodup⟩ := orderly
  cases act with
  | hire engine =>
      refine ⟨fun entry member => ?_, nodup⟩
      exact Nat.lt_of_lt_of_le (inside entry member) (by simp [Workshop.perform, hire])
  | call systems id input source =>
      constructor
      · rw [Workshop.perform, shared_call, length_call]
        exact inside
      · rw [Workshop.perform, shared_call]
        exact nodup
  | share processing system =>
      rw [Workshop.perform]
      cases known : workshop.shared? processing with
      | some id =>
          rw [share_known known]
          exact ⟨inside, nodup⟩
      | none =>
          rw [share_first known]
          constructor
          · intro entry member
            rw [List.length_append, List.length_singleton]
            rcases List.mem_append.mp member with old | new
            · exact Nat.lt_succ_of_lt (inside entry old)
            · obtain rfl := List.mem_singleton.mp new
              exact Nat.lt_succ_self _
          · rw [List.map_append, List.map_singleton, List.nodup_append]
            refine ⟨nodup, List.nodup_singleton _, ?_⟩
            rintro id old _ new rfl
            obtain ⟨entry, member, rfl⟩ := List.mem_map.mp old
            exact Nat.ne_of_lt (inside entry member) (List.mem_singleton.mp new)

theorem isOrderly_reached (acts : List Act) : (reached acts).IsOrderly := by
  induction acts using List.reverseRecOn with
  | nil => exact ⟨by simp [reached], by simp [reached]⟩
  | append_singleton acts act ih =>
      rw [reached, List.foldl_append]
      exact ih.perform act

/-- Two ways of processing with one worker are the same. -/
theorem IsOrderly.isSame (orderly : workshop.IsOrderly) {other : Processing}
    (known : workshop.shared? processing = some id) (known' : workshop.shared? other = some id) :
    processing.IsSame other := by
  obtain ⟨entry, found, rfl⟩ := Option.map_eq_some_iff.mp known
  obtain ⟨entry', found', same⟩ := Option.map_eq_some_iff.mp known'
  have one : entry' = entry := List.inj_on_of_nodup_map orderly.nodup
    (List.mem_of_find?_eq_some found') (List.mem_of_find?_eq_some found) same
  rw [one] at found'
  have left : entry.1.same processing = true := by simpa using List.find?_some found
  have right : entry.1.same other = true := by simpa using List.find?_some found'
  exact (Processing.same_iff.mp left).symm.trans (Processing.same_iff.mp right)

/-- What is shared was asked for. -/
theorem exists_share (acts : List Act) :
    ∀ entry ∈ (reached acts).shared, ∃ system, .share entry.1 system ∈ acts := by
  induction acts using List.reverseRecOn with
  | nil => simp [reached]
  | append_singleton acts act ih =>
      have before : ∀ entry ∈ (reached acts).shared,
          ∃ system, .share entry.1 system ∈ acts ++ [act] :=
        fun entry member => (ih entry member).imp fun _ => List.mem_append_left _
      rw [reached, List.foldl_append]
      cases act with
      | hire engine => exact before
      | call systems id input source =>
          intro entry member
          rw [List.foldl_cons, List.foldl_nil, perform, shared_call] at member
          exact before entry member
      | share processing system =>
          intro entry member
          rw [List.foldl_cons, List.foldl_nil, perform] at member
          cases known : (reached acts).shared? processing with
          | some id =>
              rw [← reached, share_known known] at member
              exact before entry member
          | none =>
              rw [← reached, share_first known] at member
              rcases List.mem_append.mp member with old | new
              · exact before entry old
              · obtain rfl := List.mem_singleton.mp new
                exact ⟨system, List.mem_append_right _ (List.mem_singleton_self _)⟩

/-- A way of processing that nobody has asked for has no worker. -/
theorem shared?_eq_none {acts : List Act}
    (first : ∀ earlier other, .share earlier other ∈ acts → ¬ earlier.IsSame processing) :
    (reached acts).shared? processing = none := by
  rw [shared?, Option.map_eq_none_iff, List.find?_eq_none]
  intro entry member same
  obtain ⟨system, asked⟩ := exists_share acts entry member
  exact first _ _ asked (Processing.same_iff.mp same)

end Requests

section Serving

variable {workshop : Workshop} {id : WorkerId} {system : SystemId} {options : Option Path}
  {config : Option ProcessorConfig}

/-- A worker stays where it is while others are added. -/
theorem Holds.mono {other : Workshop} (holds : workshop.Holds id system options config)
    (grown : workshop.workers <+: other.workers) : other.Holds id system options config := by
  obtain ⟨inside, _⟩ := List.getElem?_eq_some_iff.mp holds
  obtain ⟨more, grown⟩ := grown
  rw [Holds, ← grown, List.getElem?_append_left inside]
  exact holds

theorem met_call (systems : Systems) (other : WorkerId) (input : String) (source : Path) :
    met id [.call systems other input source] = if other = id then [systems] else [] := by
  rw [met, List.filterMap_cons]
  split <;> simp_all

/-- The answer of a call, and what its worker knows afterwards. -/
theorem Holds.call (holds : workshop.Holds id system options config) (systems : Systems)
    (input : String) (source : Path) :
    let found := ProcessorConfig.load (systems system) options
    (workshop.call systems id input source).1 =
        (config.elim found .ok).bind (Stylesheet.process · input source) ∧
      (workshop.call systems id input source).2.Holds id system options
        (config.or found.toOption) := by
  obtain ⟨inside, _⟩ := List.getElem?_eq_some_iff.mp holds
  rw [call_known holds, call_stylesheets]
  exact ⟨by cases config <;> rfl, List.getElem?_set_self inside⟩

/-- A worker that processes stylesheets keeps to what it was built with. -/
theorem Holds.perform (holds : workshop.Holds id system options config) (act : Act) :
    (workshop.perform act).Holds id system options
      (config.or (firstLoaded system options (met id [act]))) := by
  cases act with
  | share processing other =>
      have same : config.or (firstLoaded system options (met id [.share processing other])) =
          config := Option.or_none
      rw [same]
      exact holds.mono (prefix_share workshop processing other).1
  | hire engine =>
      have same : config.or (firstLoaded system options (met id [.hire engine])) = config :=
        Option.or_none
      rw [same]
      exact holds.mono (List.prefix_append _ _)
  | call systems other input source =>
      rw [met_call]
      by_cases own : other = id
      · subst own
        rw [if_pos rfl, firstLoaded, List.findSome?_singleton]
        exact (holds.call systems input source).2
      · have apart : ∀ worker, (workshop.workers.set other worker)[id]? = workshop.workers[id]? :=
          fun worker => List.getElem?_set_ne own
        rw [if_neg own, firstLoaded, List.findSome?_nil, Option.or_none, Workshop.perform,
          Workshop.call]
        split
        · exact holds
        · exact (apart _).trans holds

theorem met_cons (act : Act) (acts : List Act) :
    met id (act :: acts) = met id [act] ++ met id acts :=
  @List.filterMap_append _ _ [act] acts _

theorem Holds.run (holds : workshop.Holds id system options config) (acts : List Act) :
    (acts.foldl Workshop.perform workshop).Holds id system options
      (config.or (firstLoaded system options (met id acts))) := by
  induction acts generalizing workshop config with
  | nil =>
      rw [met, List.filterMap_nil, firstLoaded, List.findSome?_nil, Option.or_none]
      exact holds
  | cons act acts ih =>
      have later := ih (holds.perform act)
      rw [Option.or_assoc] at later
      rw [List.foldl_cons, met_cons, firstLoaded, List.findSome?_append]
      exact later

theorem firstLoaded_eq_none {met : List Systems}
    (fruitless : ∀ systems ∈ met, ∃ failure,
      ProcessorConfig.load (systems system) options = .error failure) :
    firstLoaded system options met = none := by
  rw [firstLoaded, List.findSome?_eq_none_iff]
  intro systems member
  obtain ⟨failure, failed⟩ := fruitless systems member
  rw [failed]
  rfl

theorem firstLoaded_eq_some {fruitless rest : List Systems} {found : Systems}
    {loaded : ProcessorConfig}
    (none : ∀ systems ∈ fruitless, ∃ failure,
      ProcessorConfig.load (systems system) options = .error failure)
    (loading : ProcessorConfig.load (found system) options = .ok loaded) :
    firstLoaded system options (fruitless ++ found :: rest) = some loaded := by
  have before := firstLoaded_eq_none none
  rw [firstLoaded] at before ⊢
  rw [List.findSome?_append, before, Option.none_or, List.findSome?_cons, loading]
  rfl

theorem firstLoaded_snoc (met : List Systems) (systems : Systems) :
    firstLoaded system options (met ++ [systems]) =
      (firstLoaded system options met).or
        (ProcessorConfig.load (systems system) options).toOption := by
  rw [firstLoaded, List.findSome?_append, List.findSome?_singleton]
  rfl

section Calls

variable {met : List Systems} {systems : Systems}
  (holds : workshop.Holds id system options (firstLoaded system options met))
  (input : String) (source : Path)
include holds

/-- A call uses the options that were loaded first, be it by the call itself. -/
theorem Holds.call_loaded {used : ProcessorConfig}
    (loaded : firstLoaded system options (met ++ [systems]) = some used) :
    let called := workshop.call systems id input source
    called.1 = Stylesheet.process used input source ∧
      called.2.Holds id system options (some used) := by
  obtain ⟨answered, kept⟩ := holds.call systems input source
  rw [firstLoaded_snoc] at loaded
  rw [loaded] at kept
  refine ⟨?_, kept⟩
  rw [answered]
  cases earlier : firstLoaded system options met with
  | some known =>
      rw [earlier] at loaded
      cases loaded
      rfl
  | none =>
      rw [earlier, Option.none_or] at loaded
      cases loads : ProcessorConfig.load (systems system) options with
      | ok known =>
          rw [loads] at loaded
          cases loaded
          rfl
      | error failure =>
          rw [loads] at loaded
          cases loaded

/-- A call fails as long as no options have been loaded. -/
theorem Holds.call_unloaded {failure : Failure}
    (unloaded : firstLoaded system options met = none)
    (failed : ProcessorConfig.load (systems system) options = .error failure) :
    let called := workshop.call systems id input source
    called.1 = .error failure ∧ called.2.Holds id system options none := by
  obtain ⟨answered, kept⟩ := holds.call systems input source
  rw [unloaded, failed] at answered kept
  exact ⟨answered, kept⟩

end Calls

end Serving

/-- The worker that the first request for a way of processing has built, after some acts. -/
theorem holds_reached {front : List Act} {processing : Processing}
    (first : ∀ earlier other, .share earlier other ∈ front → ¬ earlier.IsSame processing)
    (system : SystemId) (between : List Act) :
    let id := ((reached front).share processing system).1
    (reached (front ++ .share processing system :: between)).Holds id system
      (optionsOf processing) (firstLoaded system (optionsOf processing) (met id between)) := by
  intro id
  have built : ((reached front).perform (.share processing system)).Holds id system
      (optionsOf processing) none := by
    simp only [id, Workshop.perform, share_first (shared?_eq_none first)]
    exact List.getElem?_concat_length
  have holds := built.run between
  rw [Option.none_or] at holds
  rw [reached, List.foldl_append]
  exact holds

/-- Requests obtain one worker if and only if they ask for one way of processing; a request takes
nothing away; and all calls of the worker use the options that were the first to be loaded from the
file system and the file of options of the first of these requests, or fail as long as none have
been loaded. -/
theorem shared_workers (acts : List Act) :
    (∀ front processing system back front' processing' system' back',
      acts = front ++ .share processing system :: back →
      acts = front' ++ .share processing' system' :: back' →
        (((reached front).share processing system).1 =
            ((reached front').share processing' system').1 ↔ processing.IsSame processing')) ∧
    (∀ front processing system back, acts = front ++ .share processing system :: back →
      (reached front).workers <+: (reached (front ++ [.share processing system])).workers ∧
        (reached front).shared <+: (reached (front ++ [.share processing system])).shared) ∧
    ∀ front processing system between systems input source back,
      let id := ((reached front).share processing system).1
      let met := met id between ++ [systems]
      let load := fun systems : Systems =>
        ProcessorConfig.load (systems system) (optionsOf processing)
      let before := front ++ .share processing system :: between
      let called := (reached before).call systems id input source
      acts = before ++ .call systems id input source :: back →
      (∀ earlier other, .share earlier other ∈ front → ¬ earlier.IsSame processing) →
        (∀ fruitless found rest config, met = fruitless ++ found :: rest →
          (∀ other ∈ fruitless, ∃ failure, load other = .error failure) → load found = .ok config →
            called.1 = Stylesheet.process config input source ∧
            called.2.workers[id]? =
              some ⟨.stylesheets system (optionsOf processing), ⟨some config, true⟩⟩) ∧
        (∀ failure, (∀ other ∈ met, ∃ failure, load other = .error failure) →
          load systems = .error failure →
            called.1 = .error failure ∧
            called.2.workers[id]? =
              some ⟨.stylesheets system (optionsOf processing), ⟨none, true⟩⟩) := by
  refine ⟨?_, ?_, ?_⟩
  · intro front processing system back front' processing' system' back' split split'
    have known := shared?_reached front processing system back
    have known' := shared?_reached front' processing' system' back'
    rw [← split] at known
    rw [← split'] at known'
    constructor
    · intro one
      rw [one] at known
      exact (isOrderly_reached acts).isSame known known'
    · intro same
      rw [shared?_congr same, known'] at known
      exact (Option.some.inj known).symm
  · intro front processing system back _
    rw [reached, reached, List.foldl_append]
    exact prefix_share (reached front) processing system
  · intro front processing system between systems input source back id met' load before called _
      first
    have holds := holds_reached first system between
    constructor
    · intro fruitless found rest config split none loading
      have loaded : firstLoaded system (optionsOf processing) met' = some config := by
        rw [split]
        exact firstLoaded_eq_some none loading
      exact holds.call_loaded input source loaded
    · intro failure fruitless failed
      have unloaded : firstLoaded system (optionsOf processing) (met id between) = none :=
        firstLoaded_eq_none fun other member => fruitless other (List.mem_append_left _ member)
      exact holds.call_unloaded input source unloaded failed

/-- Two file systems, of which the first has a file of options. -/
def withOptions (text : String) : Systems := fun system =>
  { Memory.fileSystem {} with
    read := fun path =>
      if system = 0 ∧ path = ⟨"/css.json"⟩ then .ok text else .error Memory.missing }

/-- The options that were loaded by the second call stay in use when the file has changed. -/
theorem shared_workers_changed :
    let acts := [Act.share (.configFile ⟨"/css.json"⟩) 0,
      .call (withOptions "") 0 "a \x7b\x7d" ⟨"/a.css"⟩, .share (.configFile ⟨"//css.json"⟩) 1,
      .call (withOptions "\x7b\"minify\": true\x7d") 0 "a \x7b\x7d" ⟨"/a.css"⟩]
    ((reached acts).call (withOptions "\x7b\x7d") 0 "b \x7b\x7d" ⟨"/b.css"⟩).1 =
      Stylesheet.process { minify := true } "b \x7b\x7d" ⟨"/b.css"⟩ := by
  intro acts
  have absolute : (⟨"/css.json"⟩ : Path).isAbsolute = true := by decide +kernel
  have loading : ∀ text, ProcessorConfig.load (withOptions text 0) (some ⟨"/css.json"⟩) =
      ProcessorConfig.decoded "Invalid stylesheet processor config /css.json"
        (ProcessorConfig.decoder.decodeText text) := by
    intro text
    rw [@ProcessorConfig.load_file _ ⟨"/"⟩ _ (.inr absolute), ProcessorConfig.place,
      if_pos absolute]
    rfl
  obtain ⟨_, _, used⟩ := shared_workers
    (acts ++ [.call (withOptions "\x7b\x7d") 0 "b \x7b\x7d" ⟨"/b.css"⟩])
  refine ((used [] _ 0 _ _ _ _ [] rfl (by simp)).1 [withOptions ""]
    (withOptions "\x7b\"minify\": true\x7d") [withOptions "\x7b\x7d"] _ rfl ?_ ?_).1
  · intro other member
    obtain rfl := List.mem_singleton.mp member
    have fault : ProcessorConfig.decoder.decodeText "" =
        .error ⟨.endOfValue, some ⟨1, 0⟩⟩ := by decide +kernel
    exact ⟨_, (loading _).trans (by rw [fault]; rfl)⟩
  · have decoded : ProcessorConfig.decoder.decodeText "\x7b\"minify\": true\x7d" =
        .ok { minify := true } := by decide +kernel
    exact (loading _).trans (by rw [decoded]; rfl)

end Workshop

namespace Fetcher

/-- A fetcher asks a workshop for its worker, unless it has one, and calls it. -/
theorem exists_acts (systems : Systems) (path origin : Path) (world : World) :
    ∃ content, ∃ acts, List.Sublist acts [.share world.1.processing world.1.system,
        .call systems (chosen world).1 content path] ∧
      (fetch systems path origin world).2.2 = acts.foldl Workshop.perform world.2 := by
  cases read : (systems world.1.system).read path with
  | error source =>
      rw [fetch_missing read]
      exact ⟨"", [], List.nil_sublist _, rfl⟩
  | ok content =>
      refine ⟨content, ?_⟩
      cases enabled : world.1.processing.isEnabled with
      | false =>
          rw [fetch_plain read enabled]
          exact ⟨[], List.nil_sublist _, rfl⟩
      | true =>
          rw [fetch_processed read enabled, (process_eq systems path origin content world).2]
          obtain ⟨⟨system, processing, worker⟩, workshop⟩ := world
          cases worker with
          | some id => exact ⟨[.call systems id content path], List.sublist_cons_self _ _, rfl⟩
          | none => exact ⟨_, List.Sublist.refl _, rfl⟩

end Fetcher

end StyleInline
