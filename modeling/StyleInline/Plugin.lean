import StyleInline.Compile
import StyleInline.Workshop

/-!
# The plugin

The compiler behind a plugin interface: the configuration is a text or is missing, programs
are modules or scripts, and failures become diagnostics.  A plugin runs where no worker can
be started, so that processing of stylesheets is refused.
-/

namespace StyleInline

open Script

namespace Plugin

def processingRefused : String :=
  "processContent is not supported by the SWC plugin, remove it to inline stylesheets unprocessed"

/-- The configuration of a plugin, or why it cannot be used; without a text it is the default. -/
def configOf : Option String → Except String Config
  | none => .ok {}
  | some text =>
    match Config.ofText text with
    | .error message => .error ("Invalid inline CSS imports configuration: " ++ message)
    | .ok config => if config.processing.isEnabled then .error processingRefused else .ok config

inductive Program where
  | module (module : Module)
  /-- A script, in which no import can stand. -/
  | script (module : Module)

structure Result where
  module : Module
  diagnostics : List String

/-- Transforms a program; the file it is from has no name if the host does not tell it. -/
def transform (config : Option String) (filename : Option Path) (files : FileSystem) :
    Program → Result
  | .script module =>
    match configOf config with
    | .error message => ⟨module, [message]⟩
    | .ok _ => ⟨module, []⟩
  | .module module =>
    match configOf config with
    | .error message => ⟨module, [message]⟩
    | .ok config =>
      let world : Fetcher.World := (⟨0, config.processing, none⟩, {})
      let compiled :=
        compile config (filename.getD ⟨""⟩) files Tracker.tracing (Fetcher.fetch fun _ => files)
          module () world
      ⟨compiled.module, compiled.failure.toList.map InlineError.message⟩

end Plugin

end StyleInline
