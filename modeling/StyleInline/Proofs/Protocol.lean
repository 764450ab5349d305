import Mathlib.Data.List.Chain
import StyleInline.FileSystem
import StyleInline.Processor.Trial

/-!
# The protocol of a bridge

A bridge serves one call after another.  What its processor is asked for during each call is
written down beside the answer, and one step of the bridge tells all that a call can lead to; a
sequence of calls of any length follows from it.
-/

namespace StyleInline

namespace Bridge

/-- Something a processor was asked for, with what came of it. -/
inductive Demand where
  | load (outcome : Outcome ProcessorConfig)
  | process (config : ProcessorConfig) (input : String) (source : Path)
      (outcome : Outcome String)

namespace Demand

def isLoad : Demand → Bool
  | .load _ => true
  | .process .. => false

def stops : Demand → Bool
  | .load .stopped | .process _ _ _ .stopped => true
  | _ => false

def loaded? : Demand → Option ProcessorConfig
  | .load (.done config) => some config
  | _ => none

end Demand

/-- One call, between two states of the processor. -/
structure Turn (σ : Type) where
  input : String
  source : Path
  found : σ
  demands : List Demand
  answer : Except Failure String
  left : σ

namespace Turn

variable {σ : Type}

def stops (turn : Turn σ) : Bool := turn.demands.any Demand.stops

def loaded? (turn : Turn σ) : Option ProcessorConfig := turn.demands.findSome? Demand.loaded?

end Turn

def reply : Outcome String → Except Failure String
  | .done output => .ok output
  | .failed failure => .error failure
  | .stopped => .error stoppedFailure

variable {σ : Type} (processor : Processor σ)

/-- The processor, with what it is asked for written down. -/
def recording : Processor (σ × List Demand) where
  loadConfig := fun (state, demands) =>
    let (outcome, state) := processor.loadConfig state
    (outcome, state, demands ++ [.load outcome])
  process := fun config input source (state, demands) =>
    let (outcome, state) := processor.process config input source state
    (outcome, state, demands ++ [.process config input source outcome])

def turn (input : String) (source : Path) (bridge : Bridge) (state : σ) : Turn σ where
  input
  source
  found := state
  demands := (call (recording processor) input source bridge (state, [])).state.2
  answer := (call processor input source bridge state).answer
  left := (call processor input source bridge state).state

/-- Calls one after another. -/
def turns : List (String × Path) → Bridge → σ → List (Turn σ)
  | [], _, _ => []
  | (input, source) :: rest, bridge, state =>
    let called := call processor input source bridge state
    turn processor input source bridge state :: turns rest called.bridge called.state

/-- What a call of a running bridge may lead to, with the options that are known before it. -/
inductive Serves : Option ProcessorConfig → Turn σ → Prop where
  | unloaded {input : String} {source : Path} {state left : σ} {failure : Failure}
      (loading : processor.loadConfig state = (.failed failure, left)) :
      Serves none ⟨input, source, state, [.load (.failed failure)], .error failure, left⟩
  | stopped {input : String} {source : Path} {state left : σ}
      (loading : processor.loadConfig state = (.stopped, left)) :
      Serves none ⟨input, source, state, [.load .stopped], .error stoppedFailure, left⟩
  | first {input : String} {source : Path} {state middle left : σ} {config : ProcessorConfig}
      {outcome : Outcome String} (loading : processor.loadConfig state = (.done config, middle))
      (processing : processor.process config input source middle = (outcome, left)) :
      Serves none ⟨input, source, state,
        [.load (.done config), .process config input source outcome], reply outcome, left⟩
  | again {input : String} {source : Path} {state left : σ} {config : ProcessorConfig}
      {outcome : Outcome String}
      (processing : processor.process config input source state = (outcome, left)) :
      Serves (some config) ⟨input, source, state, [.process config input source outcome],
        reply outcome, left⟩

/-- What a call of a bridge that has stopped leads to. -/
def refused (input : String) (source : Path) (state : σ) : Turn σ :=
  ⟨input, source, state, [], .error notRunningFailure, state⟩

variable {processor}

section Step

variable {bridge : Bridge} (input : String) (source : Path) (state : σ)

theorem turn_of_stopped (ended : bridge.isRunning = false) :
    turn processor input source bridge state = refused input source state ∧
      (call processor input source bridge state).bridge = bridge := by
  simp only [turn, refused, call, ended, Bool.not_false, ↓reduceIte]
  exact ⟨trivial, trivial⟩

/-- A running bridge remembers the options that a call has loaded, and goes on unless the call has
stopped its processor. -/
theorem turn_of_running (running : bridge.isRunning = true) :
    Serves processor bridge.config (turn processor input source bridge state) ∧
      (call processor input source bridge state).bridge =
        ⟨bridge.config.or (turn processor input source bridge state).loaded?,
          !(turn processor input source bridge state).stops⟩ := by
  obtain ⟨known, isRunning⟩ := bridge
  cases running
  cases known with
  | some config =>
      rcases processing : processor.process config input source state with ⟨outcome, left⟩
      have same : turn processor input source ⟨some config, true⟩ state =
          ⟨input, source, state, [.process config input source outcome], reply outcome, left⟩ := by
        simp only [turn, call, Bridge.process, recording, processing]
        cases outcome <;> rfl
      rw [same]
      refine ⟨.again processing, ?_⟩
      simp only [call, Bridge.process, processing]
      cases outcome <;> rfl
  | none =>
      rcases loading : processor.loadConfig state with ⟨loaded, middle⟩
      cases loaded with
      | failed failure =>
          have same : turn processor input source ⟨none, true⟩ state =
              ⟨input, source, state, [.load (.failed failure)], .error failure, middle⟩ := by
            simp only [turn, call, recording, loading]
            rfl
          rw [same]
          refine ⟨.unloaded loading, ?_⟩
          simp only [call, loading]
          rfl
      | stopped =>
          have same : turn processor input source ⟨none, true⟩ state =
              ⟨input, source, state, [.load .stopped], .error stoppedFailure, middle⟩ := by
            simp only [turn, call, recording, loading]
            rfl
          rw [same]
          refine ⟨.stopped loading, ?_⟩
          simp only [call, loading]
          rfl
      | done config =>
          rcases processing : processor.process config input source middle with ⟨outcome, left⟩
          have same : turn processor input source ⟨none, true⟩ state =
              ⟨input, source, state, [.load (.done config), .process config input source outcome],
                reply outcome, left⟩ := by
            simp only [turn, call, Bridge.process, recording, loading, processing]
            cases outcome <;> rfl
          rw [same]
          refine ⟨.first loading processing, ?_⟩
          simp only [call, Bridge.process, loading, processing]
          cases outcome <;> rfl

end Step

/-- Each call has its turn. -/
theorem turns_calls (calls : List (String × Path)) (bridge : Bridge) (state : σ) :
    (turns processor calls bridge state).map (fun turn => (turn.input, turn.source)) = calls := by
  induction calls generalizing bridge state with
  | nil => rfl
  | cons asked rest ih => exact congrArg (asked :: ·) (ih _ _)

/-- The processor stays as it is between two turns. -/
theorem turns_linked (calls : List (String × Path)) (bridge : Bridge) (state : σ) :
    (turns processor calls bridge state).IsChain (fun turn next => turn.left = next.found) := by
  induction calls generalizing bridge state with
  | nil => exact .nil
  | cons asked rest ih =>
      cases rest with
      | nil => exact .singleton _
      | cons other rest => exact .cons_cons rfl (ih _ _)

/-- A turn is served if the bridge was running and no turn before it has stopped the processor; it
uses the options that were loaded first. -/
theorem turns_split {calls : List (String × Path)} {bridge : Bridge} {state : σ}
    {before after : List (Turn σ)} {turn : Turn σ}
    (split : turns processor calls bridge state = before ++ turn :: after) :
    if bridge.isRunning && !before.any Turn.stops then
      Serves processor (bridge.config.or (before.findSome? Turn.loaded?)) turn
    else turn = refused turn.input turn.source turn.found := by
  -- The induction is over the calls with any bridge and any state: what the first call leaves of
  -- the bridge is told by the turn itself, so the hypothesis applies to the turns behind it.
  induction calls generalizing bridge state before with
  | nil =>
      rw [turns] at split
      cases before <;> cases split
  | cons asked rest ih =>
      obtain ⟨input, source⟩ := asked
      rw [turns] at split
      cases running : bridge.isRunning with
      | false =>
          obtain ⟨same, still⟩ := turn_of_stopped input source state running
          cases before with
          | nil =>
              injection split with first _
              rw [← first, same]
              rfl
          | cons other before =>
              injection split with _ later
              have inner := ih later
              rw [still, running] at inner
              exact inner
      | true =>
          obtain ⟨serves, next⟩ := turn_of_running input source state running
          cases before with
          | nil =>
              injection split with first _
              rw [← first, List.findSome?_nil, Option.or_none]
              exact serves
          | cons other before =>
              injection split with first later
              have inner := ih later
              have loaded : (other :: before).findSome? Turn.loaded? =
                  other.loaded?.or (before.findSome? Turn.loaded?) := by
                rw [List.findSome?_cons]
                cases other.loaded? <;> rfl
              rw [next, first] at inner
              simpa only [loaded, List.any_cons, Bool.not_or, Bool.true_and,
                Option.or_assoc] using inner

/-- A served turn loads options if none are known before it. -/
theorem Serves.loads {known : Option ProcessorConfig} {turn : Turn σ}
    (serves : Serves processor known turn) :
    turn.demands.countP Demand.isLoad = if known.isNone then 1 else 0 := by
  cases serves <;> rfl

theorem length_upTo_upTo {α : Type} (first second : α → Bool) (head : α) (rest : List α) :
    (FileSystem.upTo first (FileSystem.upTo second (head :: rest))).length =
      1 + if !second head && !first head then
        (FileSystem.upTo first (FileSystem.upTo second rest)).length
      else 0 := by
  cases stopped : second head <;> cases found : first head <;>
    simp [FileSystem.upTo, stopped, found, Nat.add_comm]

/-- Options are loaded anew in each turn, until a turn has loaded them or has stopped the
processor. -/
theorem turns_loads (calls : List (String × Path)) (bridge : Bridge) (state : σ) :
    ((turns processor calls bridge state).flatMap Turn.demands).countP Demand.isLoad =
      if bridge.isRunning && bridge.config.isNone then
        (FileSystem.upTo (fun turn => turn.loaded?.isSome)
          (FileSystem.upTo Turn.stops (turns processor calls bridge state))).length
      else 0 := by
  induction calls generalizing bridge state with
  | nil =>
      rw [turns]
      split <;> rfl
  | cons asked rest ih =>
      obtain ⟨input, source⟩ := asked
      rw [turns, List.flatMap_cons, List.countP_append, ih]
      cases running : bridge.isRunning with
      | false =>
          obtain ⟨same, still⟩ := turn_of_stopped input source state running
          rw [same, still, running]
          rfl
      | true =>
          obtain ⟨serves, next⟩ := turn_of_running input source state running
          -- Both sides lose one turn, and both stop counting where options are known.
          rw [next, serves.loads, length_upTo_upTo]
          cases known : bridge.config with
          | some config =>
              simp only [Option.some_or, Option.isNone_some, Bool.and_false, Bool.false_eq_true,
                ↓reduceIte]
          | none =>
              simp only [Option.none_or, Option.isNone_none, Bool.true_and, ↓reduceIte,
                Option.not_isSome]
              rfl

/-- Calls of a new bridge: they are served up to the one that stops the processor, each with the
options that were loaded first; a call loads options only as long as no call has loaded them. -/
theorem turns_protocol (processor : Processor σ) (calls : List (String × Path)) (state : σ) :
    let log := turns processor calls {} state
    log.map (fun turn => (turn.input, turn.source)) = calls ∧
    log.IsChain (fun turn next => turn.left = next.found) ∧
    (∀ before turn after, log = before ++ turn :: after →
      (before.any Turn.stops = false →
        Serves processor (before.findSome? Turn.loaded?) turn) ∧
      (before.any Turn.stops = true →
        turn = refused turn.input turn.source turn.found)) ∧
    (log.flatMap Turn.demands).countP Demand.isLoad =
      (FileSystem.upTo (fun turn => turn.loaded?.isSome)
        (FileSystem.upTo Turn.stops log)).length := by
  intro log
  refine ⟨turns_calls calls {} state, turns_linked calls {} state,
    fun before turn after split => ?_, turns_loads calls {} state⟩
  have told := turns_split split
  constructor
  · intro served
    rw [served] at told
    exact told
  · intro ended
    rw [ended] at told
    exact told

/-- A processor that loads its options on the second attempt, and stops over the third text. -/
theorem turns_protocol_trial :
    let path : Path := ⟨"/a.css"⟩
    let log := turns (Trial.processor { failingLoads := 1 })
      [("a", path), ("b", path), ("panic", path), ("c", path)] {} 0
    log.map Turn.answer =
        [.error (.plain "Config load 0 failed"), .ok "B", .error stoppedFailure,
          .error notRunningFailure] ∧
      (log.flatMap Turn.demands).countP Demand.isLoad = 2 := by
  intro path log
  obtain ⟨_, _, _, loads⟩ := turns_protocol (Trial.processor { failingLoads := 1 })
    [("a", path), ("b", path), ("panic", path), ("c", path)] 0
  exact ⟨rfl, loads.trans rfl⟩

end Bridge

end StyleInline
