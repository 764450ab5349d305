import StyleInline.Proofs.Rewrite
import StyleInline.Workshop

/-!
# Steady answers

What comes of asking for a stylesheet does not depend on the stylesheets that were asked for
successfully before: a processor loads its options once, and then goes on as it began.
-/

namespace StyleInline

/-- What a processor makes of a text does not depend on its state. -/
def Processor.IsSteady {σ : Type} (processor : Processor σ) : Prop :=
  ∀ config input source state state',
    (processor.process config input source state).1 =
      (processor.process config input source state').1

namespace Bridge

variable {σ : Type} {processor : Processor σ}

theorem answer_process (steady : processor.IsSteady) (config : ProcessorConfig) (input : String)
    (source : Path) (bridge bridge' : Bridge) (state state' : σ) :
    (process processor config input source bridge state).answer =
      (process processor config input source bridge' state').answer := by
  have same := steady config input source state state'
  simp only [process]
  rcases outcome : processor.process config input source state with ⟨first, middle⟩
  rcases outcome' : processor.process config input source state' with ⟨second, middle'⟩
  rw [outcome, outcome'] at same
  obtain rfl : first = second := same
  cases first <;> rfl

theorem bridge_process {config : ProcessorConfig} {input : String} {source : Path}
    {bridge : Bridge} {state : σ} {output : String}
    (answered : (process processor config input source bridge state).answer = .ok output) :
    (process processor config input source bridge state).bridge = bridge := by
  simp only [process] at answered ⊢
  rcases outcome : processor.process config input source state with ⟨first, middle⟩
  rw [outcome] at answered
  cases first with
  | done value => rfl
  | failed failure => cases answered
  | stopped => cases answered

/-- A call that was answered leaves all other answers as they were. -/
theorem answer_call (steady : processor.IsSteady) {input : String} {source : Path} {bridge : Bridge}
    {state : σ} {output : String}
    (answered : (call processor input source bridge state).answer = .ok output)
    (other : String) (path : Path) (state' : σ) :
    (call processor other path (call processor input source bridge state).bridge state').answer =
      (call processor other path bridge state).answer := by
  cases running : bridge.isRunning with
  | false =>
      simp only [call, running, Bool.not_false, ↓reduceIte] at answered
      cases answered
  | true =>
      cases known : bridge.config with
      | some config =>
          simp only [call, running, known, Bool.not_true, Bool.false_eq_true, ↓reduceIte]
            at answered ⊢
          rw [bridge_process answered, running, known]
          exact answer_process steady config other path bridge bridge state' state
      | none =>
          rcases loaded : processor.loadConfig state with ⟨first, middle⟩
          simp only [call, running, known, loaded, Bool.not_true, Bool.false_eq_true, ↓reduceIte]
            at answered ⊢
          cases first with
          | done config =>
              rw [bridge_process answered]
              simp only [Bool.not_true, Bool.false_eq_true, ↓reduceIte]
              exact answer_process steady config other path _ _ state' middle
          | failed failure => cases answered
          | stopped => cases answered

end Bridge

theorem Stylesheet.processor_isSteady (options : Option Path) : (processor options).IsSteady := by
  intro config input source state state'
  simp only [processor]
  cases Stylesheet.process config input source <;> rfl

theorem Trial.processor_isSteady (trial : Trial) : trial.processor.IsSteady := by
  intro config input source state state'
  simp only [processor]
  split
  · rfl
  · split <;> rfl

theorem Worker.answer_call {systems : Systems} {input : String} {source : Path} {worker : Worker}
    {output : String} (answered : (worker.call systems input source).1 = .ok output)
    (other : String) (path : Path) :
    ((worker.call systems input source).2.call systems other path).1 =
      (worker.call systems other path).1 := by
  obtain ⟨engine, bridge⟩ := worker
  cases engine with
  | stylesheets system options =>
      exact Bridge.answer_call (Stylesheet.processor_isSteady options) answered other path _
  | trial trial loads =>
      exact Bridge.answer_call (Trial.processor_isSteady trial) answered other path _

theorem Workshop.call_known {systems : Systems} {id : WorkerId} {workshop : Workshop}
    {worker : Worker} (known : workshop.workers[id]? = some worker) (input : String)
    (source : Path) :
    workshop.call systems id input source =
      ((worker.call systems input source).1,
        { workshop with
          workers := workshop.workers.set id (worker.call systems input source).2 }) := by
  simp only [call, known]

theorem Workshop.answer_call {systems : Systems} {id : WorkerId} {input : String} {source : Path}
    {workshop : Workshop} {output : String}
    (answered : (workshop.call systems id input source).1 = .ok output) (other : String)
    (path : Path) :
    ((workshop.call systems id input source).2.call systems id other path).1 =
      (workshop.call systems id other path).1 := by
  cases known : workshop.workers[id]? with
  | none =>
      simp only [call, known] at answered
      cases answered
  | some worker =>
      obtain ⟨inside, _⟩ := List.getElem?_eq_some_iff.mp known
      rw [call_known known] at answered
      have known' : (workshop.workers.set id (worker.call systems input source).2)[id]? =
          some (worker.call systems input source).2 := by
        simp [inside]
      rw [call_known known, call_known known]
      rw [call_known known']
      exact Worker.answer_call answered other path

namespace Fetcher

/-- The worker that a fetcher has texts processed by, with the workshop it is found in. -/
def chosen : World → WorkerId × Workshop
  | (fetcher, workshop) =>
    match fetcher.worker with
    | some id => (id, workshop)
    | none =>
      let (id, _, workshop) := workshop.share fetcher.processing fetcher.system
      (id, workshop)

theorem process_eq (systems : Systems) (path origin : Path) (content : String) (world : World) :
    (process systems path origin content world).1.content =
        (((chosen world).2.call systems (chosen world).1 content path).1.mapError fun failure =>
          InlineError.process path origin failure) ∧
      (process systems path origin content world).2 =
        ({ world.1 with worker := some (chosen world).1 },
          ((chosen world).2.call systems (chosen world).1 content path).2) := by
  obtain ⟨⟨system, processing, worker⟩, workshop⟩ := world
  cases worker <;> exact ⟨rfl, rfl⟩

theorem answer_process {systems : Systems} {path origin : Path} {content output : String}
    {world : World}
    (answered : (process systems path origin content world).1.content = .ok output)
    (other : Path) (text : String) :
    (process systems other origin text (process systems path origin content world).2).1.content =
      (process systems other origin text world).1.content := by
  obtain ⟨first, after⟩ := process_eq systems path origin content world
  rw [first] at answered
  have called : ((chosen world).2.call systems (chosen world).1 content path).1 = .ok output := by
    cases call : ((chosen world).2.call systems (chosen world).1 content path).1 with
    | error failure =>
        rw [call] at answered
        cases answered
    | ok value =>
        rw [call] at answered
        cases answered
        rfl
  rw [(process_eq systems other origin text _).1, (process_eq systems other origin text world).1,
    after]
  exact congrArg _ (Workshop.answer_call called text other)

section Cases

variable {systems : Systems} {path origin : Path} {world : World}

theorem fetch_missing {source : FileError}
    (missing : (systems world.1.system).read path = .error source) :
    fetch systems path origin world = (⟨.error (.read path origin source), []⟩, world) := by
  simp only [fetch, missing]

theorem fetch_plain {content : String}
    (found : (systems world.1.system).read path = .ok content)
    (plain : world.1.processing.isEnabled = false) :
    fetch systems path origin world = (⟨.ok content, []⟩, world) := by
  simp only [fetch, found, plain, Bool.false_eq_true, ↓reduceIte]

theorem fetch_processed {content : String}
    (found : (systems world.1.system).read path = .ok content)
    (enabled : world.1.processing.isEnabled = true) :
    fetch systems path origin world = process systems path origin content world := by
  simp only [fetch, found, enabled, ↓reduceIte]

end Cases

/-- The fetcher of stylesheets is steady. -/
theorem fetch_isSteady (systems : Systems) (origin : Path) : (fetch systems).IsSteady origin := by
  intro world path output answered
  funext other
  simp only [Fetch.answers] at answered ⊢
  cases first : (systems world.1.system).read path with
  | error source =>
      rw [fetch_missing first] at answered
      cases answered
  | ok content =>
      cases enabled : world.1.processing.isEnabled with
      | false => rw [fetch_plain first enabled]
      | true =>
          rw [fetch_processed first enabled] at answered ⊢
          have after := (process_eq systems path origin content world).2
          have steady := answer_process answered other
          have same : (systems (process systems path origin content world).2.1.system).read other =
              (systems world.1.system).read other := by
            rw [after]
          have enabled' :
              (process systems path origin content world).2.1.processing.isEnabled = true := by
            rw [after]
            exact enabled
          cases second : (systems world.1.system).read other with
          | error source => rw [fetch_missing second, fetch_missing (same.trans second)]
          | ok text =>
              rw [fetch_processed second enabled, fetch_processed (same.trans second) enabled',
                steady text]

/-- A stylesheet that cannot be had is no fault of the order of items. -/
theorem fetch_isProper (systems : Systems) (origin : Path) : (fetch systems).IsProper origin := by
  intro world path error refused
  simp only [Fetch.answers] at refused
  cases first : (systems world.1.system).read path with
  | error source =>
      rw [fetch_missing first] at refused
      cases refused
      rfl
  | ok content =>
      cases enabled : world.1.processing.isEnabled with
      | false =>
          rw [fetch_plain first enabled] at refused
          cases refused
      | true =>
          rw [fetch_processed first enabled, (process_eq systems path origin content world).1]
            at refused
          cases called : ((chosen world).2.call systems (chosen world).1 content path).1 with
          | error failure =>
              rw [called] at refused
              cases refused
              rfl
          | ok output =>
              rw [called] at refused
              cases refused

end Fetcher

end StyleInline
