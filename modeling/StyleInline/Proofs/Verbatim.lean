import StyleInline.Proofs.Parsing
import StyleInline.Proofs.Quoting
import StyleInline.Proofs.Registration
import StyleInline.Proofs.StylesheetReads
import StyleInline.Session

/-!
# Strings hold stylesheets as they are

The constant that takes the place of an import without a tag is printed on a line of its own.  When
that line is read again, the value of the constant is the text of the stylesheet, unless the text
has the escape of a surrogate with an opening brace that stays open.
-/

namespace StyleInline

open Script

theorem Text.Layout.write_append (level : Nat) (left right : Layout) (page : Page) :
    (left ++ right).write level page = right.write level (left.write level page) :=
  rfl

namespace Script

theorem Quoted.quoted_isEmpty (value : String) : (quoted value).isEmpty = false := by
  rw [quoted, String.isEmpty_eq_false_iff, ← String.toList_inj.ne, String.toList_ofList]
  exact List.cons_ne_nil _ _

/-- The line that a constant with a string is printed on. -/
def constantLine (content : String) : String := "const s = " ++ Quoted.quoted content ++ ";\n"

namespace Module

theorem print_constant (scope : Scope) (content : String) :
    (⟨none, [Emit.constant ⟨"s", scope⟩ (Emit.string content)]⟩ : Module).print =
      constantLine content := by
  have layout : (⟨none, [Emit.constant ⟨"s", scope⟩ (Emit.string content)]⟩ : Module).layout =
      .nothing ++ (.nothing ++ .text "const " ++
        (.text "s" ++ (.text " = " ++ .text (Quoted.quoted content))) ++ .text ";" ++ .line ++
          .nothing) :=
    rfl
  rw [print, layout, ← String.toList_inj]
  simp [Text.Layout.render, Text.Layout.write_append, Text.Layout.write, Text.Layout.margin,
    Quoted.quoted_isEmpty, constantLine]

theorem constantLine_eq (content : String) :
    constantLine content = String.ofList (Grammar.constantFront
      ((Quoted.quoted content).toList ++ [';', '\n'])) := by
  rw [← String.toList_inj, constantLine, String.toList_ofList]
  simp [Grammar.constantFront]

/-- Read again, the line of a constant gives the text that it was written for, unless a brace stays
open in that text. -/
theorem parse_constantLine (dialect : Dialect) (content : String) :
    (∃ raw, parse dialect (constantLine content) =
      .ok ⟨none, [Emit.constant { name := "s" } (.form (.text ⟨content, raw⟩) [])]⟩) ↔
        Quoted.IsKept content := by
  have next := Quoted.ofChars_quoted dialect.types [';', '\n'] content
  rw [constantLine_eq]
  constructor
  · rintro ⟨raw, read⟩
    by_contra opens
    -- The line may still be read, with a value that is another one.
    rcases Quoted.token_quoted_open dialect.types [';', '\n'] opens (by decide) with
      ⟨error, left, seen⟩ | ⟨other, spelling, different, seen⟩
    · rw [seen] at next
      rw [parse_constant_fault next rfl rfl] at read
      cases read
    · rw [seen] at next
      rw [parse_constant next rfl rfl rfl] at read
      cases read
      exact different rfl
  · intro kept
    rw [Quoted.token_quoted dialect.types _ kept] at next
    exact ⟨_, parse_constant next rfl rfl rfl⟩

end Module

def styleImport (scope : Scope) : Import :=
  ⟨.evaluation, false, [.default ⟨"s", scope⟩], ⟨"./s.css", some "'./s.css'"⟩, false⟩

namespace Source

def importOf? : Except ParseError Module → Option Import
  | .ok ⟨none, [.importDecl declaration .absent]⟩ => some declaration
  | _ => none

theorem importOf?_parse : ∀ types elements decorators,
    importOf? (Module.parse ⟨types, elements, decorators⟩ "import s from './s.css'") =
      some (styleImport .unscoped) := by
  decide +kernel

theorem eq_of_importOf? {parsed : Except ParseError Module} {declaration : Import}
    (found : importOf? parsed = some declaration) :
    parsed = .ok ⟨none, [.importDecl declaration .absent]⟩ := by
  unfold importOf? at found
  split at found
  next =>
    cases found
    rfl
  next => cases found

theorem parse_import (file : Option Path) :
    parse ⟨"import s from './s.css'", file⟩ =
      .ok ⟨none, [.importDecl (styleImport .unscoped) .absent]⟩ := by
  have read := eq_of_importOf? (importOf?_parse (dialectOf file).types (dialectOf file).elements
    (dialectOf file).decorators)
  exact congrArg (Except.mapError _) read

end Source

/-- The name of the import belongs to the scope of the module. -/
theorem Module.resolve_import :
    (⟨none, [.importDecl (styleImport .unscoped) .absent]⟩ : Module).resolve =
      ⟨none, [.importDecl (styleImport (.declared 0)) .absent]⟩ :=
  rfl

end Script

open Rewrite

namespace Visitor

variable {σ : Type} {fetch : Fetch σ} {visitor : Visitor} {world : σ}

/-- Without a tag, a module that consists of the import of a stylesheet becomes a constant. -/
theorem visit_import {declaration : Import} {binding : Ident} {path : Path} {content : String}
    (ready : visitor.failure = none) (untagged : visitor.plan.config.tag = none)
    (found : visitor.plan.sheet? declaration = some (binding, path))
    (answered : (fetch path visitor.plan.filename world).1.content = .ok content) :
    let visit := visitor.visit fetch ⟨none, [.importDecl declaration .absent]⟩ world
    visit.module = ⟨none, [Emit.constant binding (Emit.string content)]⟩ ∧
      visit.visitor.failure = none := by
  let run := visitor.start ⟨none, [.importDecl declaration .absent]⟩ world
  obtain ⟨events, replaced⟩ := @rewriteImport_inlined σ visitor.plan fetch declaration .absent run
    binding path found content answered
  obtain ⟨later, inlined⟩ := inline_string untagged binding path content
    { run with events, world := (fetch path visitor.plan.filename world).2 }
  have rewritten : rewriteItems visitor.plan fetch [.importDecl declaration .absent] run =
      ([Emit.constant binding (Emit.string content)],
        { run with events := later, world := (fetch path visitor.plan.filename world).2 }) :=
    (rewriteItems_alone run declaration .absent ready).trans (replaced.trans inlined)
  rw [visit_eq]
  dsimp only
  rw [rewritten]
  exact ⟨rfl, ready⟩

end Visitor

namespace Session

/-- Where all patterns expand, a session compiles a module as its visitor does. -/
theorem compileWith_expands {session : Session} {config : Config}
    (expands : ∀ pattern ∈ config.externalDependencies,
      Dependency.Expands session.files pattern)
    (tracker : TrackerChoice) (filename : Path) (module : Module) :
    let compiled := session.compileWith config tracker filename module
    let visit := (Visitor.ofConfig config filename session.files).visit
      (Fetcher.fetch session.systems) module
      (⟨system, config.processing, none⟩, session.workshop)
    compiled.module = visit.module ∧ compiled.failure = visit.visitor.failure := by
  have registered {τ : Type} (tracker : Tracker τ) (state : τ) : ∃ paths,
      (Dependency.register tracker session.files config.externalDependencies state).paths =
        .ok paths :=
    (Dependency.register_expands tracker expands state).imp fun _ => And.left
  cases tracker with
  | recording =>
      have done := compile_registered (registered Registrations.tracker session.registrations)
        filename (Fetcher.fetch session.systems) module
        (⟨system, config.processing, none⟩, session.workshop)
      exact ⟨done.1, done.2.1⟩
  | tracing =>
      have done := compile_registered (registered Tracker.tracing session.registrations)
        filename (Fetcher.fetch session.systems) module
        (⟨system, config.processing, none⟩, session.workshop)
      exact ⟨done.1, done.2.1⟩

/-- Without a tag and without processing, the import of a stylesheet becomes a line with a constant.
Read again, in any variant of the language, the value of that constant is the text of the
stylesheet, unless a brace stays open in it. -/
theorem transform_verbatim (session : Session) (config : Config) (tracker : TrackerChoice)
    (filename path : Path) (content : String) (file : Option Path) (untagged : config.tag = none)
    (plain : config.processing.isEnabled = false)
    (expands : ∀ pattern ∈ config.externalDependencies,
      Dependency.Expands session.files pattern)
    (named : (Visitor.ofConfig config filename session.files).plan.stylesheet? "./s.css" =
      .ok (some path))
    (read : session.files.read path = .ok content) :
    (session.transform config tracker filename ⟨"import s from './s.css'", file⟩).answer =
        .transformed (constantLine content) none ∧
      ∀ again : Option Path,
        (∃ raw, Source.parse ⟨constantLine content, again⟩ =
          .ok ⟨none, [Emit.constant { name := "s" } (.form (.text ⟨content, raw⟩) [])]⟩) ↔
            ¬∃ before after, content.toList = before ++ '\\' :: after ∧
              Quoted.startsOpen (Quoted.quoteFor content.toList) after = true := by
  let visitor := Visitor.ofConfig config filename session.files
  let module : Module := ⟨none, [.importDecl (styleImport (.declared 0)) .absent]⟩
  let world : Fetcher.World := (⟨system, config.processing, none⟩, session.workshop)
  have found : visitor.plan.sheet? (styleImport (.declared 0)) =
      some (⟨"s", .declared 0⟩, path) := by
    simp only [Plan.sheet?, styleImport, Bool.false_eq_true, ↓reduceIte, visitor, named]
    rfl
  have answered : (Fetcher.fetch session.systems path filename world).1.content = .ok content :=
    congrArg (fun fetched : Fetched × Fetcher.World => fetched.1.content)
      (Fetcher.fetch_plain read plain)
  obtain ⟨replaced, complete⟩ := visitor.visit_import rfl untagged found answered
  have compiled : (session.compileWith config tracker filename module).module =
        ⟨none, [Emit.constant ⟨"s", .declared 0⟩ (Emit.string content)]⟩ ∧
      (session.compileWith config tracker filename module).failure = none := by
    have compiled := compileWith_expands expands tracker filename module
    exact ⟨compiled.1.trans replaced, compiled.2.trans complete⟩
  refine ⟨?_, fun again => ?_⟩
  · simp only [transform, Source.parse_import, Module.resolve_import]
    change Answer.transformed (session.compileWith config tracker filename module).module.print
      (session.compileWith config tracker filename module).failure = _
    rw [compiled.1, compiled.2, Module.print_constant]
  · rw [← Quoted.hasOpen_iff, Bool.not_eq_true]
    refine Iff.trans ?_ (Module.parse_constantLine (Source.dialectOf again) content)
    refine exists_congr fun raw => ?_
    rw [Source.parse]
    cases Module.parse (Source.dialectOf again) (constantLine content) with
    | error error => exact iff_of_false (fun same => by cases same) fun same => by cases same
    | ok module => exact (Except.ok.injEq ..).to_iff.trans (Except.ok.injEq ..).to_iff.symm

/-- Quotes, line ends, a NUL in front of a digit and the escape of a surrogate, all in one text. -/
theorem transform_verbatim_escapes :
    let content := "a::after \x7b content: '\\u\x7bD83D\x7d\"\x001\u2028\\e000' \x7d\n"
    let session := Session.start (some ⟨"/project"⟩) [(⟨"s.css"⟩, content)]
    (session.transform {} .recording ⟨"index.js"⟩ ⟨"import s from './s.css'", none⟩).answer =
        .transformed (constantLine content) none ∧
      ∃ raw, Source.parse ⟨constantLine content, some ⟨"index.ts"⟩⟩ =
        .ok ⟨none, [Emit.constant { name := "s" } (.form (.text ⟨content, raw⟩) [])]⟩ := by
  intro content session
  have read : session.files.read ⟨"/project/s.css"⟩ = .ok content := by decide +kernel
  have named : (Visitor.ofConfig {} ⟨"index.js"⟩ session.files).plan.stylesheet? "./s.css" =
      .ok (some ⟨"/project/s.css"⟩) := by
    decide +kernel
  obtain ⟨printed, again⟩ := transform_verbatim session {} .recording ⟨"index.js"⟩
    ⟨"/project/s.css"⟩ content none rfl rfl (List.forall_mem_nil _) named read
  refine ⟨printed, (again (some ⟨"index.ts"⟩)).mpr ?_⟩
  rw [← Quoted.hasOpen_iff]
  decide +kernel

end Session

end StyleInline
