import StyleInline.Dependency
import StyleInline.Rewrite

/-!
# Compiling a module

External dependencies are registered first; if that fails, the module stays as it is and no
stylesheet is read.  Then the module is rewritten.
-/

namespace StyleInline

open Script

structure Compiled (τ σ : Type) where
  module : Module
  failure : Option InlineError
  registrations : τ
  world : σ
  events : List Event

namespace Visitor

/-- A visitor that has not visited anything; a directory that cannot be told counts as empty. -/
def ofConfig (config : Config) (filename : Path) (files : FileSystem) : Visitor where
  plan := ⟨config, filename, files.cwd.toOption.getD ⟨""⟩⟩

end Visitor

/-- Compiles a module of a file. -/
def compile {τ σ : Type} (config : Config) (filename : Path) (files : FileSystem)
    (tracker : Tracker τ) (fetch : Fetch σ) (module : Module) (registrations : τ) (world : σ) :
    Compiled τ σ :=
  let registered :=
    Dependency.register tracker files config.externalDependencies registrations
  match registered.paths with
  | .error error => ⟨module, some error, registered.state, world, registered.events⟩
  | .ok _ =>
    let visit := (Visitor.ofConfig config filename files).visit fetch module world
    { module := visit.module
      failure := visit.visitor.failure
      registrations := registered.state
      world := visit.world
      events := registered.events ++ visit.events }

end StyleInline
