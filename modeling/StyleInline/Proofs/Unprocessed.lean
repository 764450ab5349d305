import StyleInline.FileSystem.Memory
import StyleInline.Plugin
import StyleInline.Proofs.Decoding
import StyleInline.Proofs.FetchProgram
import StyleInline.Proofs.Fetching
import StyleInline.Proofs.PartialResult
import StyleInline.Proofs.Registration
import StyleInline.Proofs.Visit
import StyleInline.Script.Printer

/-!
# Compiling without processing

Where processing is disabled, a compilation goes as if stylesheets were only read from the files, and
there were neither a fetcher nor a workshop.  What is put into the module are the texts of the files.

A plugin admits a configuration if its text can be read and chooses no processing, be it that it
leaves the choice out or that it is written as `false` or as the empty path.  So under what it admits
nothing is processed.
-/

namespace StyleInline

open Script Rewrite

def InlineError.isOfProcessor : InlineError → Bool
  | .process _ _ _ => true
  | _ => false

/-- Styles that cannot be filled in are not to be blamed on a processor. -/
theorem InlineError.isOfProcessor_of_fault {setting : Substitution.Setting} {id : Ident}
    {error : InlineError} (faulty : Substitution.fault setting id = some error) :
    error.isOfProcessor = false := by
  rw [Substitution.fault] at faulty
  split at faulty
  next other failed =>
    cases faulty
    rw [Substitution.outcome] at failed
    split at failed
    · split at failed <;> cases failed
      rfl
    · split at failed <;> cases failed
      rfl
  next => cases faulty

def FileSystem.fetch (files : FileSystem) : Fetch Unit := fun path origin world =>
  (⟨(files.read path).mapError (.read path origin), []⟩, world)

section View

variable {σ σ' : Type}

/-- Behind `view` a fetch gives what another one gives, and what is left behind `view` is the same. -/
def Fetch.IsSeen (fetch : Fetch σ) (fetch' : Fetch σ') (origin : Path) (view : σ → σ') : Prop :=
  ∀ path world, fetch' path origin (view world) = (fetch path origin world).map id view

/-- A run whose world is seen otherwise. -/
def Rewrite.Run.view (view : σ → σ') (run : Run σ) : Run σ' :=
  ⟨run.progress, run.failure, run.events, view run.world⟩

variable {fetch : Fetch σ} {fetch' : Fetch σ'} {origin : Path} {view : σ → σ'}

/-- A program goes the same way, wherever its world is seen from. -/
theorem Rewrite.Program.IsMade.natural {α : Type} {program : Program α}
    (made : program.IsMade origin) (seen : fetch.IsSeen fetch' origin view) (run : Run σ) :
    program σ' fetch' (run.view view) = (program σ fetch run).map id (Run.view view) := by
  induction made generalizing run with
  | pure value => rfl
  | @bind α β first second one two ih ih' =>
      change second (first σ' fetch' (run.view view)).1 σ' fetch'
          (first σ' fetch' (run.view view)).2 =
        (second (first σ fetch run).1 σ fetch (first σ fetch run).2).map id (Run.view view)
      rw [ih run]
      exact ih' (first σ fetch run).1 (first σ fetch run).2
  | look each ih => exact ih run.progress run.failure run
  | put progress failure => rfl
  | report event other => rfl
  | request path =>
      have asked := seen path run.world
      simp only [request_eq, Run.view, asked]
      rfl

/-- A program does not tell that a processor was started unless a fetch tells it. -/
theorem Rewrite.Program.IsMade.quiet {α : Type} {program : Program α}
    (made : program.IsMade origin)
    (quiet : ∀ path world, .processorStarted ∉ (fetch path origin world).1.events) {run : Run σ}
    (untold : .processorStarted ∉ run.events) :
    .processorStarted ∉ (program σ fetch run).2.events := by
  induction made generalizing run with
  | pure value => exact untold
  | bind one two ih ih' => exact ih' _ (ih untold)
  | look each ih => exact ih run.progress run.failure untold
  | put progress failure => exact untold
  | report event other =>
      exact List.not_mem_append untold fun told => other (List.mem_singleton.mp told).symm
  | request path => exact List.not_mem_append untold (quiet path run.world)

/-- A visit goes the same way, wherever its world is seen from. -/
theorem Visitor.visit_view (visitor : Visitor)
    (seen : fetch.IsSeen fetch' visitor.plan.filename view) (module : Module) (world : σ) :
    visitor.visit fetch' module (view world) =
      let visit := visitor.visit fetch module world
      ⟨visit.module, visit.visitor, visit.events, view visit.world⟩ := by
  have same := (@made_items visitor.plan module.items).natural seen
    (visitor.start module world)
  change rewriteItems visitor.plan fetch' module.items (visitor.start module (view world)) = _
    at same
  rw [visit_eq, same]
  rfl

/-- A compilation goes the same way, wherever its world is seen from. -/
theorem compile_view {τ : Type} (config : Config) {filename : Path} (files : FileSystem)
    (tracker : Tracker τ) (seen : fetch.IsSeen fetch' filename view) (module : Module)
    (registrations : τ) (world : σ) :
    compile config filename files tracker fetch' module registrations (view world) =
      let compiled := compile config filename files tracker fetch module registrations world
      ⟨compiled.module, compiled.failure, compiled.registrations, view compiled.world,
        compiled.events⟩ := by
  have visits := (Visitor.ofConfig config filename files).visit_view seen module world
  rw [compile, compile]
  dsimp only at visits ⊢
  split
  next => rfl
  next => rw [visits]

end View

/-- Where nothing is processed, all that is seen of a fetcher is that it reads files. -/
theorem Fetcher.isSeen_fetch (systems : Systems) (origin : Path) {world : Fetcher.World}
    (disabled : world.1.processing.isEnabled = false) :
    (systems world.1.system).fetch.IsSeen (Fetcher.fetch systems) origin fun _ => world := by
  intro path _
  rw [FileSystem.fetch]
  cases found : (systems world.1.system).read path with
  | error source => rw [fetch_missing found]; rfl
  | ok content => rw [fetch_plain found disabled]; rfl

namespace Forecast

/-- The rules of a rewriting that may end anywhere, in which a stylesheet makes room for its own text
and for no other one. -/
def verbatim (forecast : Forecast) (sheets : List (Ident × Path)) : Rules :=
  { forecast.halfway sheets with
    replaces := fun declaration items =>
      ∃ binding path content passed, forecast.plan.sheet? declaration = some (binding, path) ∧
        forecast.answer path = .ok content ∧
        items = (if forecast.isLed passed then [] else [forecast.lead]) ++
          forecast.inlined binding content }

theorem isHalfway_verbatim (forecast : Forecast) (sheets : List (Ident × Path)) :
    forecast.IsHalfway sheets (forecast.verbatim sheets) where
  fills := rfl
  keeps _ := trivial
  replaces := by
    rintro declaration items ⟨binding, path, content, passed, found, _, same⟩
    exact ⟨binding, path, content, passed, found, same⟩
  reads := rfl

end Forecast

namespace FileSystem

/-- What the rewriting of a module meets where stylesheets are read as they are. -/
def forecast (files : FileSystem) (plan : Plan) (module : Module) : Forecast :=
  Forecast.ofModule plan module fun path => (files.read path).mapError (.read path plan.filename)

variable (files : FileSystem) (plan : Plan) (module : Module)

theorem read_of_answers_fetch {files : FileSystem} {origin path : Path} {world : Unit}
    {error : InlineError} (refused : files.fetch.answers origin world path = .error error) :
    ∃ source, error = .read path origin source := by
  rw [Fetch.answers, fetch] at refused
  cases found : files.read path with
  | error source =>
      rw [found] at refused
      cases refused
      exact ⟨source, rfl⟩
  | ok content =>
      rw [found] at refused
      cases refused

theorem fits_fetch : (files.forecast plan module).Fits files.fetch where
  steady _ _ _ _ := rfl
  proper world path error refused := by
    obtain ⟨source, rfl⟩ := read_of_answers_fetch refused
    rfl
  fresh := Forecast.isFresh_ofModule plan module _

/-- Each step of a rewriting that reads stylesheets as they are puts in no other text, and fails for
no processor. -/
theorem upholds_fetch (sheets : List (Ident × Path)) :
    let forecast := files.forecast plan module
    Upholds plan files.fetch (forecast.verbatim sheets)
      (fun sight => ∀ sheet, forecast.sheetAt? sight = some sheet → sheet ∈ sheets)
      fun run => forecast.Told files.fetch sheets run ∧
        ∀ error, run.failure = some error → error.isOfProcessor = false := by
  intro forecast
  have steps := (forecast.isHalfway_verbatim sheets).upholds (files.fits_fetch plan module)
    fun _ _ binding path content passed found answered =>
      ⟨binding, path, content, passed, found, answered, rfl⟩
  refine steps.withFailure (fun world declaration error refused => ?_)
    fun _ _ _ => InlineError.isOfProcessor_of_fault
  obtain ⟨specifier, origin, rfl⟩ | ⟨path, answered⟩ := Plan.of_refusal? refused
  · rfl
  · obtain ⟨source, rfl⟩ := read_of_answers_fetch answered
    rfl

/-- However a visit ends, stylesheets have made room for the texts of their files only, no processor
is to blame, and none was started. -/
theorem visit_fetch :
    let visit := ({ plan } : Visitor).visit files.fetch module ()
    let forecast := files.forecast plan module
    (forecast.verbatim (forecast.passedIn (forecast.seenIn module))).AllowsItems false module.items
        visit.module.items ∧
      (∀ error, visit.visitor.failure = some error → error.isOfProcessor = false) ∧
      .processorStarted ∉ visit.events := by
  intro visit forecast
  have told := (Forecast.standing_start plan files.fetch module ()).told
    (List.nil_subset (forecast.passedIn (forecast.seenIn module)))
  have start : ∀ error, (none : Option InlineError) = some error → error.isOfProcessor = false := by
    intro error impossible
    cases impossible
  obtain ⟨held, allowed⟩ := (files.upholds_fetch plan module _).items {} module.items
    ⟨told, start⟩ (forecast.lists_passedIn _)
  exact ⟨allowed, held.2, (made_items module.items).quiet (fun _ _ => List.not_mem_nil)
    List.not_mem_nil⟩

end FileSystem

/-- Nothing is processed while a module is compiled. -/
structure CompilesPlainly {τ : Type} (config : Config) (filename : Path) (files : FileSystem)
    (tracker : Tracker τ) (systems : Systems) (module : Module) (registrations : τ)
    (world : Fetcher.World) : Prop where
  /-- A stylesheet is what its file holds, and whoever asks for it leaves the fetcher and all workers
  as they are. -/
  fetches : ∀ path origin, Fetcher.fetch systems path origin world =
    (⟨((systems world.1.system).read path).mapError (.read path origin), []⟩, world)
  /-- The compilation goes as it does where there are neither fetchers nor workers. -/
  compiles :
    let plain :=
      compile config filename files tracker (systems world.1.system).fetch module registrations ()
    compile config filename files tracker (Fetcher.fetch systems) module registrations world =
      ⟨plain.module, plain.failure, plain.registrations, world, plain.events⟩
  /-- However it ends, texts that have been put into the module are those of the files. -/
  verbatim :
    let compiled :=
      compile config filename files tracker (Fetcher.fetch systems) module registrations world
    let forecast :=
      (systems world.1.system).forecast (Visitor.ofConfig config filename files).plan module
    compiled.module.interpreter = module.interpreter ∧
      (forecast.verbatim (forecast.passedIn (forecast.seenIn module))).AllowsItems false
        module.items compiled.module.items
  /-- A failure is none of a processor. -/
  unfailing : ∀ path origin source,
    (compile config filename files tracker (Fetcher.fetch systems) module registrations
      world).failure ≠ some (.process path origin source)
  /-- Behind the registrations it is not told that a processor was started. -/
  quiet : ∃ events,
    (compile config filename files tracker (Fetcher.fetch systems) module registrations
        world).events =
      (Dependency.register tracker files config.externalDependencies registrations).events ++
        events ∧
    .processorStarted ∉ events

/-- However a compilation ends that reads stylesheets as they are, it puts in the texts of the files
and no others, no processor is to blame for a failure, and none was started. -/
theorem compile_fetch {τ : Type} (config : Config) (filename : Path) (files sheets : FileSystem)
    (tracker : Tracker τ) (module : Module) (registrations : τ) :
    let compiled := compile config filename files tracker sheets.fetch module registrations ()
    let forecast := sheets.forecast (Visitor.ofConfig config filename files).plan module
    (compiled.module.interpreter = module.interpreter ∧
      (forecast.verbatim (forecast.passedIn (forecast.seenIn module))).AllowsItems false
        module.items compiled.module.items) ∧
    (∀ error, compiled.failure = some error → error.isOfProcessor = false) ∧
    ∃ events, compiled.events =
        (Dependency.register tracker files config.externalDependencies registrations).events ++
          events ∧
      .processorStarted ∉ events := by
  intro compiled forecast
  obtain ⟨allowed, plain, quiet⟩ :=
    sheets.visit_fetch (Visitor.ofConfig config filename files).plan module
  simp only [compiled, compile]
  split
  next error failed =>
    obtain ⟨pattern, source, rfl⟩ := Dependency.exists_glob_of_register tracker failed
    refine ⟨⟨rfl, (forecast.isHalfway_verbatim _).isReflexive.allowsItems _ _⟩, ?_,
      [], (List.append_nil _).symm, List.not_mem_nil⟩
    rintro _ same
    cases same
    rfl
  next => exact ⟨⟨rfl, allowed⟩, plain, _, rfl, quiet⟩

/-- Where processing is disabled, nothing is processed. -/
theorem compilesPlainly {τ : Type} (config : Config) (filename : Path) (files : FileSystem)
    (tracker : Tracker τ) (systems : Systems) (module : Module) (registrations : τ)
    (world : Fetcher.World) (disabled : world.1.processing.isEnabled = false) :
    CompilesPlainly config filename files tracker systems module registrations world := by
  have seen (origin : Path) := Fetcher.isSeen_fetch systems origin disabled
  have compiles := compile_view config files tracker (seen filename) module registrations ()
  obtain ⟨verbatim, unfailing, quiet⟩ :=
    compile_fetch config filename files (systems world.1.system) tracker module registrations
  constructor
  · exact fun path origin => seen origin path ()
  · exact compiles
  · intro compiled forecast
    rw [show compiled = _ from compiles]
    exact verbatim
  · intro path origin source failed
    rw [compiles] at failed
    cases unfailing _ failed
  · rw [compiles]
    exact quiet

open Json.Decoder (Field)

/-- Processing is disabled by `false` and by the empty path. -/
theorem Processing.disabled_iff {value : Json.Value} {processing : Processing}
    (form : form? value = some processing) :
    processing.isEnabled = false ↔ value = .bool false ∨ value = .text "" := by
  cases value with
  | bool flag =>
      cases flag <;> cases form <;> simp [isEnabled]
  | text path =>
      rw [form?] at form
      split at form
      next empty =>
        cases form
        simpa [isEnabled] using empty
      next full =>
        cases form
        simpa [isEnabled] using full
  | _ => cases form

namespace Config

/-- How a configuration has its choice of processing written, if it has it. -/
def choice : Json.Decoder (Option Json.Value) :=
  Json.Decoder.record "struct InlineCssImportsConfig" (fields.map (Field.only "processContent")) none

def choiceIn (text : String) : Except Json.Fault (Option Json.Value) := choice.decodeText text

/-- The stylesheets of a configuration are processed as it is written. -/
def Chooses (config : Config) : Option Json.Value → Prop
  | none => config.processing = .disabled
  | some value => Processing.form? value = some config.processing

/-- The other fields of a configuration leave the choice of processing as it is. -/
theorem follows_choice :
    List.Forall₂ (Field.Follows Chooses) fields (fields.map (Field.only "processContent")) := by
  refine .cons ?_ (.cons ?_ (.cons ?_ (.cons ?_ (.cons ?_ .nil))))
  · exact Field.follows_only_of_ne (by decide) _ fun _ _ choice chooses => by
      cases choice <;> exact chooses
  · exact Field.follows_only fun _ _ _ form => form
  all_goals
    exact Field.follows_only_of_ne (by decide) _ fun _ _ choice chooses => by
      cases choice <;> exact chooses

/-- The text of a configuration tells how its choice of processing is written. -/
theorem exists_choice {text : String} {config : Config} (read : ofText text = .ok config) :
    ∃ choice, choiceIn text = .ok choice ∧ config.Chooses choice := by
  rw [ofText] at read
  cases decoded : decoder.decodeText text with
  | error fault =>
      rw [decoded] at read
      cases read
  | ok found =>
      rw [decoded] at read
      cases read
      have start : Chooses {} none := rfl
      exact (Json.Decoder.record_follows follows_choice _ start Json.depthLimit).whole decoded

/-- Processing is disabled by leaving out the choice, by `false` and by the empty path. -/
theorem Chooses.disabled_iff {config : Config} {choice : Option Json.Value}
    (chooses : config.Chooses choice) :
    config.processing.isEnabled = false ↔
      choice = none ∨ choice = some (.bool false) ∨ choice = some (.text "") := by
  cases choice with
  | none =>
      have disabled : config.processing = .disabled := chooses
      simp [disabled, Processing.isEnabled]
  | some value =>
      rw [Processing.disabled_iff chooses]
      simp

end Config

namespace Plugin

theorem configOf_text {text : String} {config : Config} :
    configOf (some text) = .ok config ↔
      Config.ofText text = .ok config ∧ config.processing.isEnabled = false := by
  rw [configOf]
  cases read : Config.ofText text with
  | error message => simp
  | ok found =>
      cases enabled : found.processing.isEnabled with
      | true =>
          simp only [enabled, ↓reduceIte, reduceCtorEq, Except.ok.injEq, false_iff]
          rintro ⟨rfl, disabled⟩
          cases enabled.symm.trans disabled
      | false =>
          simp only [enabled, Bool.false_eq_true, ↓reduceIte, Except.ok.injEq]
          exact ⟨fun same => ⟨same, same ▸ enabled⟩, And.left⟩

/-- Nothing is processed under a configuration that a plugin admits. -/
theorem disabled_of_configOf {given : Option String} {config : Config}
    (admitted : configOf given = .ok config) : config.processing.isEnabled = false := by
  cases given with
  | none =>
      cases admitted
      rfl
  | some text => exact (configOf_text.mp admitted).2

/-- A plugin admits a configuration text exactly if the text can be read and has its choice of
processing left out, or written as `false` or as the empty path.  Under all that it admits a module
is compiled as if there were nothing but files to read: no fetcher reaches a worker, the texts that
are put into a module are those of the files, and no failure is one of a processor. -/
theorem configOf_unprocessed :
    configOf none = .ok {} ∧
    (∀ text config, configOf (some text) = .ok config ↔
      Config.ofText text = .ok config ∧
        ∃ choice, Config.choiceIn text = .ok choice ∧
          (choice = none ∨ choice = some (.bool false) ∨ choice = some (.text ""))) ∧
    ∀ given config, configOf given = .ok config →
      (∀ filename files module,
        let plain := compile config (filename.getD ⟨""⟩) files (@Tracker.tracing Unit) files.fetch
          module () ()
        transform given filename files (.module module) =
          ⟨plain.module, plain.failure.toList.map InlineError.message⟩) ∧
      ∀ (τ : Type) (filename : Path) (files : FileSystem) (tracker : Tracker τ) (systems : Systems)
        (module : Module) (registrations : τ) (world : Fetcher.World),
        world.1.processing = config.processing →
          CompilesPlainly config filename files tracker systems module registrations world := by
  refine ⟨rfl, fun text config => ?_, fun given config admitted => ⟨?_, ?_⟩⟩
  · rw [configOf_text]
    refine and_congr_right fun read => ?_
    obtain ⟨choice, chosen, chooses⟩ := Config.exists_choice read
    rw [chooses.disabled_iff]
    constructor
    · exact fun written => ⟨choice, chosen, written⟩
    · rintro ⟨other, also, written⟩
      cases chosen.symm.trans also
      exact written
  · intro filename files module plain
    have compiles := (compilesPlainly config (filename.getD ⟨""⟩) files (@Tracker.tracing Unit)
      (fun _ => files) module () (⟨0, config.processing, none⟩, {})
      (disabled_of_configOf admitted)).compiles
    simp only [transform, admitted]
    rw [compiles]
  · intro τ filename files tracker systems module registrations world same
    refine compilesPlainly config filename files tracker systems module registrations world ?_
    rw [same]
    exact disabled_of_configOf admitted

/-- The empty path as the choice, and a module with one stylesheet. -/
theorem configOf_unprocessed_empty :
    let text := "\x7b\"processContent\": \"\"\x7d"
    let files := Memory.fileSystem { entries := [(⟨"/a.css"⟩, .file ".a {}" 0)] }
    let module : Module :=
      ⟨none, [.importDecl
        ⟨.evaluation, false, [.default ⟨"a", .declared 0⟩], ⟨"./a.css", none⟩, false⟩ .absent]⟩
    ∃ config, configOf (some text) = .ok config ∧
      (⟨0, config.processing, none⟩ : Fetcher).processing = config.processing ∧
      CompilesPlainly config ⟨"/index.js"⟩ files (@Tracker.tracing Unit) (fun _ => files) module ()
        (⟨0, config.processing, none⟩, {}) ∧
      (transform (some text) (some ⟨"/index.js"⟩) files (.module module)).module.print =
        "const a = \".a {}\";\n" := by
  intro text files module
  have read : (configOf (some text)).toOption.isSome = true := by decide +kernel
  cases admitted : configOf (some text) with
  | error message =>
      rw [admitted] at read
      cases read
  | ok config =>
      obtain ⟨_, _, unprocessed⟩ := configOf_unprocessed
      obtain ⟨_, compiles⟩ := unprocessed (some text) config admitted
      exact ⟨config, rfl, rfl, compiles _ _ _ _ _ _ _ _ rfl, by decide +kernel⟩

end Plugin

end StyleInline
