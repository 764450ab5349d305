import StyleInline.Failure
import StyleInline.Path

/-!
# Processors and bridges

A processor transforms the text of stylesheets.  It is reached through a bridge, which serves
one call after another: the options are loaded by the first call that succeeds in it, and a
processor that stops in the middle of a call is never asked again.
-/

namespace StyleInline

structure ProcessorConfig where
  minify : Bool := false
  browsers : Option (List String) := none
  deriving DecidableEq, Repr, Inhabited

inductive Outcome (α : Type) where
  | done (value : α)
  | failed (failure : Failure)
  | stopped
  deriving Repr

/-- A processor, which may look at and change a state. -/
structure Processor (σ : Type) where
  loadConfig : σ → Outcome ProcessorConfig × σ
  process : ProcessorConfig → String → Path → σ → Outcome String × σ

structure Bridge where
  config : Option ProcessorConfig := none
  isRunning : Bool := true
  deriving DecidableEq, Repr, Inhabited

structure Called (σ : Type) where
  answer : Except Failure String
  bridge : Bridge
  state : σ

namespace Bridge

/-- The failure of the call in which the processor stopped. -/
def stoppedFailure : Failure := .plain "Stylesheet processor stopped before replying"

/-- The failure of every call after that. -/
def notRunningFailure : Failure := .plain "Stylesheet processor is not running"

def process {σ : Type} (processor : Processor σ) (config : ProcessorConfig) (input : String)
    (source : Path) (bridge : Bridge) (state : σ) : Called σ :=
  match processor.process config input source state with
  | (.done output, state) => ⟨.ok output, bridge, state⟩
  | (.failed failure, state) => ⟨.error failure, bridge, state⟩
  | (.stopped, state) => ⟨.error stoppedFailure, { bridge with isRunning := false }, state⟩

/-- Has a text processed; `source` is the path of the stylesheet. -/
def call {σ : Type} (processor : Processor σ) (input : String) (source : Path) (bridge : Bridge)
    (state : σ) : Called σ :=
  if !bridge.isRunning then ⟨.error notRunningFailure, bridge, state⟩
  else
    match bridge.config with
    | some config => process processor config input source bridge state
    | none =>
      match processor.loadConfig state with
      | (.done config, state) =>
        process processor config input source { bridge with config := some config } state
      | (.failed failure, state) => ⟨.error failure, bridge, state⟩
      | (.stopped, state) => ⟨.error stoppedFailure, { bridge with isRunning := false }, state⟩

end Bridge

end StyleInline
