import StyleInline.Proofs.Styles

/-!
# Raw texts of stylesheets through printing

With a tag and without processing, the text of a stylesheet is put into a template as it is.  The
module that comes out is printed line by line, and read again it has a template with that text in
each place, unless the last escape in the text goes on behind it.
-/

namespace StyleInline

open Script Script.Grammar Rewrite

namespace Scan

/-- An underscore in front of the letters of a word makes a word that means nothing. -/
theorem isFree_underscore {letters : List Char}
    (parts : ∀ c ∈ letters, Text.isIdentifierPart c = true) :
    isFree (String.ofList ('_' :: letters)) = true := by
  have unmarked : ∀ word ∈ unboundWords ++ (["async", "type"] ++ typeNames),
      word.toList.head? ≠ some '_' := by
    decide
  have other : String.ofList ('_' :: letters) ∉
      unboundWords ++ (["async", "type"] ++ typeNames) := by
    intro inside
    refine unmarked _ inside ?_
    rw [String.toList_ofList]
    rfl
  rw [List.mem_append, not_or] at other
  have word : Lexer.isWord ('_' :: letters) = true := by
    simp only [Lexer.isWord, Bool.and_eq_true, List.all_eq_true, List.forall_mem_cons]
    exact ⟨by decide, by decide, parts⟩
  rw [isFree, isBindable, String.toList_ofList, word, Bool.and_eq_true]
  simp only [List.contains_eq_mem, other, decide_false, Bool.not_false, Bool.and_self, and_self]

/-- A fresh name is free, if the name that it is made of consists of letters. -/
theorem isFree_freshName (scan : Scan) {preferred : String}
    (parts : ∀ c ∈ preferred.toList, Text.isIdentifierPart c = true) :
    isFree (scan.freshName preferred) = true := by
  have letters : ∀ c ∈ preferred.toList.dropWhile (· == '_'), Text.isIdentifierPart c = true :=
    fun c member => parts c (List.dropWhile_suffix _ |>.subset member)
  have base : isFree (baseName preferred) = true := by
    have spelled : baseName preferred =
        String.ofList ('_' :: preferred.toList.dropWhile (· == '_')) := by
      rw [baseName, ← String.toList_inj]
      simp
    rw [spelled]
    exact isFree_underscore letters
  have all (index : Nat) : isFree (candidate preferred index) = true := by
    cases index with
    | zero => exact base
    | succ index =>
        have spelled : candidate preferred (index + 1) = String.ofList ('_' ::
            (preferred.toList.dropWhile (· == '_') ++ Nat.toDigits 10 (index + 2))) := by
          rw [candidate, baseName, Nat.toString_eq_repr, Nat.repr, ← String.toList_inj]
          simp
        rw [spelled]
        refine isFree_underscore fun c member => ?_
        rcases List.mem_append.mp member with front | digit
        · exact letters c front
        · have isDigit := Nat.isDigit_of_mem_toDigits (by decide) (by decide) digit
          have low : c.toNat < 128 := by
            simp only [Char.isDigit, Bool.and_eq_true, decide_eq_true_eq] at isDigit
            exact Nat.lt_of_le_of_lt (show c.toNat ≤ 57 from isDigit.2) (by decide)
          simp [Text.isIdentifierPart, low, Char.isAlphanum, isDigit]
  rw [freshName]
  cases found : ((List.range (scan.usedNames.length + 1)).map (candidate preferred)).find?
      fun name => !scan.usedNames.contains name with
  | none => exact base
  | some name =>
      obtain ⟨index, _, rfl⟩ := List.mem_map.mp (List.mem_of_find?_eq_some found)
      exact all index

end Scan

/-- The line of the import of the tag, if it has not been imported before. -/
def leadLines (progress : Progress) (tag : Tag) : List (List Char × Node) :=
  if progress.tag.isSome then []
  else
    let name := progress.tagIdent tag
    [(importText name.name (importedAs name tag) tag.moduleName,
      importOf name.name (importedAs name tag) tag.moduleName)]

/-- The lines of the constant with a stylesheet, unless the stylesheet is read in styles alone. -/
def sheetLines (progress : Progress) (tag : Tag) (binding : Ident) (content : String) :
    List (List Char × Node) :=
  if progress.scan.isStylesOnly binding then []
  else
    let name := progress.tagIdent tag
    [(constantText binding.name (taggedText name.name content.toList),
      Emit.constant { name := binding.name } (readTemplate name content))]

/-- A class as it is read again, with what its member lines tell. -/
def readClass (isDeclaration : Bool) (name : Option Ident) (base : Ident)
    (lines : List (List Char × Node)) : Node :=
  extendingClass isDeclaration ((name.map Ident.name).map fun word => { name := word })
    { name := base.name } (lines.map Prod.snd)

/-- A class that extends the base class, with the lines of its members: its styles are filled in,
and it can be read again. -/
structure StyledClass (plan : Plan) (dialect : Dialect) (progress : Progress) (name : Option Ident)
    (base : Ident) (members : List Node) (lines : List (List Char × Node)) : Prop where
  extending : base.name = plan.config.baseClass
  parent : isFree base.name = true
  named : IsClassName (name.map Ident.name)
  filled : List.Forall₂ (MemberLine plan dialect progress) members lines
  ordinary : areOrdinary (lines.map Prod.snd) = true

/-- The lines that items become, and what is read there: an import of a stylesheet makes room for
its constant, a class that extends the base class has its styles filled in, as an item or as the
value of a constant, and an item that gives a rewriting nothing to do stays as it is. -/
inductive ItemLines (plan : Plan) (tag : Tag) (answer : Path → Except InlineError String)
    (dialect : Dialect) : Progress → List Node → List (List Char × Node) → Prop
  | nil {progress : Progress} : ItemLines plan tag answer dialect progress [] []
  | sheet {progress : Progress} {declaration : Import} {attributes : Node} {binding : Ident}
      {path : Path} {content : String} {rest : List Node} {lines : List (List Char × Node)}
      (quiet : Quiet plan (fun _ => False) (sights plan.config.baseClass {} false attributes))
      (found : plan.sheet? declaration = some (binding, path))
      (answered : answer path = .ok content) (named : isBindable binding.name = true)
      (bare : IsBare content.toList) (closed : ¬ EndsOpen content.toList)
      (others : ItemLines plan tag answer dialect
        ((progress.named tag).knowing binding path content) rest lines) :
      ItemLines plan tag answer dialect progress (.importDecl declaration attributes :: rest)
        (leadLines progress tag ++ sheetLines progress tag binding content ++ lines)
  | styled {progress : Progress} (place : ClassPlace) {name : Option Ident} {base : Ident}
      {members rest : List Node} {inside lines : List (List Char × Node)}
      (styled : StyledClass plan dialect progress name base members inside)
      (placed : place.Allows (name.map Ident.name))
      (others : ItemLines plan tag answer dialect progress rest lines) :
      ItemLines plan tag answer dialect progress
        (place.item (extendingClass true name base members) :: rest)
        ((place.front (classLines (name.map Ident.name) base.name inside),
          place.item (readClass true name base inside)) :: lines)
  | assigned {progress : Progress} {binding : Ident} {name : Option Ident} {base : Ident}
      {members rest : List Node} {inside lines : List (List Char × Node)}
      (styled : StyledClass plan dialect progress name base members inside)
      (bound : isBindable binding.name = true)
      (others : ItemLines plan tag answer dialect progress rest lines) :
      ItemLines plan tag answer dialect progress
        (Emit.constant binding (extendingClass false name base members) :: rest)
        ((constantText binding.name (classLines (name.map Ident.name) base.name inside),
          Emit.constant { name := binding.name } (readClass false name base inside)) :: lines)
  | other {progress : Progress} {item read : Node} {text : List Char} {rest : List Node}
      {lines : List (List Char × Node)}
      (quiet : Quiet plan (fun _ => False) (sightsOfItems plan.config.baseClass {} [item]))
      (prints : item.PrintsOn text) (stands : Stands dialect text read)
      (others : ItemLines plan tag answer dialect progress rest lines) :
      ItemLines plan tag answer dialect progress (item :: rest) ((text, read) :: lines)

/-- The interpreter of a module that was read stands on one line. -/
theorem Script.Source.isLine_of_parse {source : Source} {module : Module}
    (parsed : source.parse = .ok module) : IsLine module.interpreter := by
  rw [Source.parse] at parsed
  cases read : Module.parse (Source.dialectOf source.file) source.code with
  | error error =>
      rw [read] at parsed
      cases parsed
  | ok found =>
      rw [read] at parsed
      cases parsed
      exact Module.isLine_of_parse read

section Items

variable {plan : Plan} {tag : Tag} {answer : Path → Except InlineError String} {dialect : Dialect}
  {progress : Progress} {items : List Node} {lines : List (List Char × Node)}

/-- The tag has a name that means nothing, or it is going to get one. -/
theorem isFree_tagIdent (free : ∀ name ∈ progress.tag, isFree name.name = true)
    (known : isFree tag.localName = true) : isFree (progress.tagIdent tag).name = true := by
  rw [Progress.tagIdent]
  cases named : progress.tag with
  | some name => exact free name named
  | none => exact Scan.isFree_freshName _ (parts_of_isBindable (isBindable_of_isFree known))

/-- The import of the tag, if it is put in here, is printed and read on a line of its own. -/
theorem lead_lines (free : isFree (progress.tagIdent tag).name = true)
    (known : isFree tag.localName = true) (kept : Quoted.IsKept tag.moduleName)
    (dialect : Dialect) :
    List.Forall₂ (fun item line => item.PrintsOn line.1) (progress.lead tag)
        (leadLines progress tag) ∧
      ∀ line ∈ leadLines progress tag, Stands dialect line.1 line.2 := by
  rw [Progress.lead, leadLines]
  split
  next => exact ⟨.nil, List.forall_mem_nil _⟩
  next =>
    have imported : ∀ other ∈ importedAs (progress.tagIdent tag) tag, isFree other = true := by
      intro other member
      rw [importedAs] at member
      split at member
      next => cases member
      next =>
        cases member
        exact known
    refine ⟨.cons (prints_import (progress.tagIdent tag) tag) .nil, ?_⟩
    exact List.forall_mem_singleton.mpr (stands_import free imported kept dialect)

/-- The constant with a stylesheet, unless it is left out, is printed and read on a line of its
own. -/
theorem sheet_lines (free : isFree (progress.tagIdent tag).name = true) {binding : Ident}
    {content : String} (named : isBindable binding.name = true) (bare : IsBare content.toList)
    (closed : ¬ EndsOpen content.toList) (dialect : Dialect) :
    List.Forall₂ (fun item line => item.PrintsOn line.1)
        (if progress.scan.isStylesOnly binding then []
          else [Emit.constant binding (Emit.template (progress.tagIdent tag) content)])
        (sheetLines progress tag binding content) ∧
      ∀ line ∈ sheetLines progress tag binding content, Stands dialect line.1 line.2 := by
  rw [sheetLines]
  split
  next => exact ⟨.nil, List.forall_mem_nil _⟩
  next =>
    have adds := adds_template 0 (isEmpty_of_isFree free) content
    refine ⟨.cons (prints_constant binding adds) .nil, ?_⟩
    exact List.forall_mem_singleton.mpr
      (stands_constant named (isValue_template free bare closed dialect { dialect } rfl rfl))

/-- The import of a stylesheet makes room for its constant, which is printed and read on a line of
its own, and the items behind it go on with its text known. -/
theorem rewriteItems_sheet {σ : Type} {fetch : Fetch σ} (tagged : plan.config.tag = some tag)
    (known : isFree tag.localName = true) (kept : Quoted.IsKept tag.moduleName)
    (dialect : Dialect) {declaration : Import} {attributes : Node} {binding : Ident} {path : Path}
    {content : String}
    (quiet : Quiet plan (fun _ => False) (sights plan.config.baseClass {} false attributes))
    (found : plan.sheet? declaration = some (binding, path)) (answered : answer path = .ok content)
    (named : isBindable binding.name = true) (bare : IsBare content.toList)
    (closed : ¬ EndsOpen content.toList) {run : Run σ}
    (free : isFree (run.progress.tagIdent tag).name = true) (active : run.failure = none)
    (gives : fetch.Gives plan.filename answer run.world) (rest : List Node) :
    ∃ events replacement,
      let next : Run σ :=
        { run with
          progress := (run.progress.named tag).knowing binding path content
          events
          world := (fetch path plan.filename run.world).2 }
      rewriteItems plan fetch (.importDecl declaration attributes :: rest) run =
          (replacement ++ (rewriteItems plan fetch rest next).1,
            (rewriteItems plan fetch rest next).2) ∧
        List.Forall₂ (fun item line => item.PrintsOn line.1) replacement
          (leadLines run.progress tag ++ sheetLines run.progress tag binding content) ∧
        ∀ line ∈ leadLines run.progress tag ++ sheetLines run.progress tag binding content,
          Stands dialect line.1 line.2 := by
  obtain ⟨events, same⟩ := @still_node σ plan fetch (fun _ => False) {} false attributes run
    ⟨active, fun _ _ _ none => none.elim⟩ quiet
  have content_eq : (fetch path plan.filename run.world).1.content = .ok content :=
    (congrFun gives.answers path).trans answered
  obtain ⟨later, replaced⟩ := @rewriteImport_inlined σ plan fetch declaration attributes
    { run with events } binding path found content content_eq
  obtain ⟨last, inlined⟩ := inline_template tagged binding path content
    { run with events := later, world := (fetch path plan.filename run.world).2 }
  obtain ⟨lead, leads⟩ := lead_lines free known kept dialect
  obtain ⟨constant, constants⟩ := sheet_lines free named bare closed dialect
  refine ⟨last, _, ?_, List.rel_append lead constant, ?_⟩
  · rw [rewriteItems_importDecl run declaration attributes rest active, same]
    dsimp only
    rw [replaced, inlined]
    dsimp only
    rw [Progress.named_isStylesOnly]
  · intro line member
    rcases List.mem_append.mp member with member | member
    · exact leads line member
    · exact constants line member

/-- Items are rewritten into others that are printed on their lines, and each line is read as it
tells. -/
theorem rewriteItems_lines {σ : Type} {fetch : Fetch σ} (tagged : plan.config.tag = some tag)
    (known : isFree tag.localName = true) (kept : Quoted.IsKept tag.moduleName)
    (placed : ItemLines plan tag answer dialect progress items lines)
    (free : ∀ name ∈ progress.tag, isFree name.name = true) {run : Run σ}
    (active : run.failure = none) (reached : run.progress = progress)
    (gives : fetch.Gives plan.filename answer run.world) :
    (rewriteItems plan fetch items run).2.failure = none ∧
      List.Forall₂ (fun item line => item.PrintsOn line.1) (rewriteItems plan fetch items run).1
        lines ∧
      ∀ line ∈ lines, Stands dialect line.1 line.2 := by
  induction placed generalizing run with
  | nil => exact ⟨active, .nil, List.forall_mem_nil _⟩
  | @sheet progress declaration attributes binding path content rest lines quiet found answered
      named bare closed others ih =>
      subst reached
      have freely := isFree_tagIdent free known
      obtain ⟨events, replacement, same, printed, standing⟩ := rewriteItems_sheet tagged known kept
        dialect quiet found answered named bare closed freely active gives rest
      have named_free : ∀ name ∈ ((run.progress.named tag).knowing binding path content).tag,
          isFree name.name = true := by
        intro name member
        rw [Progress.knowing_tag, Progress.named_tag] at member
        cases member
        exact freely
      obtain ⟨complete, prints, stands⟩ := @ih named_free
        { run with
          progress := (run.progress.named tag).knowing binding path content
          events
          world := (fetch path plan.filename run.world).2 } active rfl (gives.after [path])
      rw [same]
      exact ⟨complete, List.rel_append printed prints,
        List.forall_mem_append.mpr ⟨standing, stands⟩⟩
  | @styled progress place name base members rest inside lines styled placed others ih =>
      subst reached
      obtain ⟨filling, events, same, inner⟩ :=
        @rewriteNode_styled σ plan fetch tag dialect tagged true name base members inside
          styled.extending run free styled.filled active
      obtain ⟨complete, prints, stands⟩ := @ih free { run with events } active rfl gives
      have item : ∀ declaration attributes,
          place.item (extendingClass true name base members) ≠
            .importDecl declaration attributes := by
        cases place <;> nofun
      rw [rewriteItems_cons run rest active item, rewriteNode_item same]
      exact ⟨complete, .cons (prints_class inner place name base) prints,
        List.forall_mem_cons.mpr ⟨stands_class styled.named styled.parent
          (belongs_members styled.filled free) styled.ordinary place placed, stands⟩⟩
  | @assigned progress binding name base members rest inside lines styled bound others ih =>
      subst reached
      obtain ⟨filling, events, same, inner⟩ :=
        @rewriteNode_styled σ plan fetch tag dialect tagged false name base members inside
          styled.extending run free styled.filled active
      obtain ⟨complete, prints, stands⟩ := @ih free { run with events } active rfl gives
      have item : ∀ declaration attributes,
          Emit.constant binding (extendingClass false name base members) ≠
            .importDecl declaration attributes := nofun
      rw [rewriteItems_cons run rest active item, rewriteNode_constant same]
      exact ⟨complete, .cons (prints_constant binding (adds_class inner false name base)) prints,
        List.forall_mem_cons.mpr ⟨stands_constant bound (reads_class styled.named styled.parent
          (belongs_members styled.filled free) styled.ordinary), stands⟩⟩
  | @other progress item read text rest lines quiet prints stands others ih =>
      subst reached
      obtain ⟨events, same⟩ := @still_items σ plan fetch (fun _ => False) {} [item] run
        ⟨active, fun _ _ _ none => none.elim⟩ quiet
      obtain ⟨complete, prints', stands'⟩ := @ih free { run with events } active rfl gives
      rw [← List.singleton_append, rewriteItems_append, same]
      exact ⟨complete, .cons prints prints', List.forall_mem_cons.mpr ⟨stands, stands'⟩⟩

end Items

namespace Script.Source

def sheetImport (scope : Scope) (name source raw : String) : Import :=
  ⟨.evaluation, false, [.default ⟨name, scope⟩], ⟨source, some raw⟩, false⟩

/-- Two imports of stylesheets, and two exported classes with styles that read the first of them. -/
def styling : String :=
  "import a from './a.css';\nimport b from './b.css';\n" ++
    "export class X extends LitElement \x7b static styles = [a, reset] \x7d\n" ++
    "export default class extends LitElement \x7b\n" ++
    "  static get styles() \x7b return [[a], ...reset] \x7d\n\x7d"

/-- The module of that text; `own` is the scope of what it declares, `other` that of the rest. -/
def stylingModule (own other : Scope) : Module :=
  let sheet : Node := .ident .use ⟨"a", own⟩
  let reset : Node := .ident .use ⟨"reset", other⟩
  let parent : Ident := ⟨"LitElement", other⟩
  ⟨none,
    [.importDecl (sheetImport own "a" "./a.css" "'./a.css'") .absent,
      .importDecl (sheetImport own "b" "./b.css" "'./b.css'") .absent,
      ClassPlace.exported.item (extendingClass true (some ⟨"X", own⟩) parent
        [stylesField (.form (.array false) [sheet, reset])]),
      ClassPlace.byDefault.item (extendingClass true none parent
        [stylesGetter (.form (.array false)
          [.form (.array false) [sheet], .form .spread [reset]])])]⟩

/-- What is told of a class with one member: its head, that of the member, and the names in it. -/
structure Outline where
  head : ClassHead
  member : MemberHead
  key : String
  names : List Ident
  deriving DecidableEq

def import? : Node → Option Import
  | .importDecl declaration .absent => some declaration
  | _ => none

def field? : Node → Option Outline
  | .form .exportDeclaration [.classNode head []
      [.member member (.form (.key key) []) []
        (.form (.array false) [.ident .use sheet, .ident .use reset])
        [.absent, .form .decorators []]]
      (.ident .use base) [.absent, .absent, .form .typing [.form .group []]]] =>
    some ⟨head, member, key, [sheet, reset, base]⟩
  | _ => none

def getter? : Node → Option Outline
  | .form .exportDefaultDeclaration [.classNode head []
      [.member member (.form (.key key) []) [.form .group [], .form .decorators []]
        (.form .body [.form .returnValue [.form (.array false)
          [.form (.array false) [.ident .use sheet], .form .spread [.ident .use reset]]]])
        [.absent, .absent]]
      (.ident .use base) [.absent, .absent, .form .typing [.form .group []]]] =>
    some ⟨head, member, key, [sheet, reset, base]⟩
  | _ => none

def styling? : Except ParseError Module → Option (List (Option Import) × List (Option Outline))
  | .ok ⟨none, [first, second, field, getter]⟩ =>
    some ([import? first, import? second], [field? field, getter? getter])
  | _ => none

theorem import?_eq_some {item : Node} {declaration : Import}
    (found : import? item = some declaration) : item = .importDecl declaration .absent := by
  unfold import? at found
  split at found <;> cases found
  rfl

theorem field?_eq_some {item : Node} {sheet reset base : Ident} {name : Option Ident}
    (found : field? item = some ⟨⟨true, false, false, name⟩, ⟨.field, true, [], [], ""⟩, "styles",
      [sheet, reset, base]⟩) :
    item = ClassPlace.exported.item (extendingClass true name base
      [stylesField (.form (.array false) [.ident .use sheet, .ident .use reset])]) := by
  unfold field? at found
  split at found <;> cases found
  rfl

theorem getter?_eq_some {item : Node} {sheet reset base : Ident} {name : Option Ident}
    (found : getter? item = some ⟨⟨true, false, false, name⟩, ⟨.getter, true, [], [], ""⟩, "styles",
      [sheet, reset, base]⟩) :
    item = ClassPlace.byDefault.item (extendingClass true name base
      [stylesGetter (.form (.array false)
        [.form (.array false) [.ident .use sheet], .form .spread [.ident .use reset]])]) := by
  unfold getter? at found
  split at found <;> cases found
  rfl

theorem styling?_eq_some {parsed : Except ParseError Module} {first second : Import}
    {fields getters : Outline}
    (found : styling? parsed = some ([some first, some second], [some fields, some getters])) :
    ∃ field getter, field? field = some fields ∧ getter? getter = some getters ∧
      parsed = .ok ⟨none,
        [.importDecl first .absent, .importDecl second .absent, field, getter]⟩ := by
  unfold styling? at found
  split at found
  next one two field getter =>
    simp only [Option.some.injEq, Prod.mk.injEq, List.cons.injEq, and_true] at found
    obtain ⟨⟨one_eq, two_eq⟩, field_eq, getter_eq⟩ := found
    rw [import?_eq_some one_eq, import?_eq_some two_eq]
    exact ⟨field, getter, field_eq, getter_eq, rfl⟩
  next => cases found

theorem styling?_parse :
    styling? (Module.parse (dialectOf (some ⟨"index.ts"⟩)) styling) =
      some ([some (sheetImport .unscoped "a" "./a.css" "'./a.css'"),
          some (sheetImport .unscoped "b" "./b.css" "'./b.css'")],
        [some ⟨⟨true, false, false, some { name := "X" }⟩, ⟨.field, true, [], [], ""⟩, "styles",
            [{ name := "a" }, { name := "reset" }, { name := "LitElement" }]⟩,
          some ⟨⟨true, false, false, none⟩, ⟨.getter, true, [], [], ""⟩, "styles",
            [{ name := "a" }, { name := "reset" }, { name := "LitElement" }]⟩]) := by
  decide +kernel

theorem parse_styling : Source.parse ⟨styling, some ⟨"index.ts"⟩⟩ =
    .ok (stylingModule .unscoped .unscoped) := by
  obtain ⟨field, getter, field_eq, getter_eq, parsed⟩ := styling?_eq_some styling?_parse
  rw [parse, parsed, field?_eq_some field_eq, getter?_eq_some getter_eq]
  rfl

/-- A stylesheet with an escape that no string may have, and a dollar at its end. -/
def spoiledSheet : String := "a::after \x7b content: '\\u\x7b$'; \x7d\r\n/* \u2028$"

/-- A stylesheet with two backslashes at its end. -/
def slashedSheet : String := "b \x7b\x7d /* \\\\"

/-- The first stylesheet where a class reads it, with its text. -/
def sheetInPlace : List Char × Node :=
  (taggedText "_css" spoiledSheet.toList, readTemplate { name := "_css" } spoiledSheet)

def resetInPlace : List Char × Node := ("reset".toList, .ident .use { name := "reset" })

def fieldLines : List Char × Node :=
  (fieldText (arrayText 1 [sheetInPlace, resetInPlace]),
    stylesField (.form (.array false) [sheetInPlace.2, resetInPlace.2]))

def getterLines : List Char × Node :=
  (getterText (arrayText 2
      [(arrayText 3 [sheetInPlace], .form (.array false) [sheetInPlace.2]),
        ('.' :: '.' :: '.' :: resetInPlace.1, .form .spread [resetInPlace.2])]),
    stylesGetter (.form (.array false)
      [.form (.array false) [sheetInPlace.2], .form .spread [resetInPlace.2]]))

/-- The lines of that module with the stylesheets in it: only classes read the first of them. -/
def stylingLines : List (List Char × Node) :=
  let parent : Ident := { name := "LitElement" }
  [(importText "_css" (some "css") "lit", importOf "_css" (some "css") "lit"),
    (constantText "b" (taggedText "_css" slashedSheet.toList),
      Emit.constant { name := "b" } (readTemplate { name := "_css" } slashedSheet)),
    (ClassPlace.exported.front (classLines (some "X") "LitElement" [fieldLines]),
      ClassPlace.exported.item (extendingClass true (some { name := "X" }) parent [fieldLines.2])),
    (ClassPlace.byDefault.front (classLines none "LitElement" [getterLines]),
      ClassPlace.byDefault.item (extendingClass true none parent [getterLines.2]))]

/-- The files that the module is compiled with. -/
def stylingSession : Session :=
  Session.start (some ⟨"/project"⟩) [(⟨"a.css"⟩, spoiledSheet), (⟨"b.css"⟩, slashedSheet)]

theorem itemLines_styling :
    let plan :=
      (Visitor.ofConfig { tag := some ⟨"css", "lit"⟩ } ⟨"index.js"⟩ stylingSession.files).plan
    ItemLines plan ⟨"css", "lit"⟩
      (fun path => (stylingSession.files.read path).mapError (.read path ⟨"index.js"⟩))
      (dialectOf none) { scan := Scan.ofModule plan.query (stylingModule (.declared 0) .free) }
      (stylingModule (.declared 0) .free).items stylingLines := by
  intro plan
  let tag : Tag := ⟨"css", "lit"⟩
  let module := stylingModule (.declared 0) .free
  let start : Progress := { scan := Scan.ofModule plan.query module }
  let middle := (start.named tag).knowing ⟨"a", .declared 0⟩ ⟨"/project/a.css"⟩ spoiledSheet
  let last := (middle.named tag).knowing ⟨"b", .declared 0⟩ ⟨"/project/b.css"⟩ slashedSheet
  have lead : leadLines start tag =
      [(importText "_css" (some "css") "lit", importOf "_css" (some "css") "lit")] := by
    have named : (start.tagIdent tag).name = "_css" := by decide +kernel
    have other : importedAs (start.tagIdent tag) tag = some "css" := by
      rw [importedAs, named]
      rfl
    simp only [leadLines, named, other]
    rfl
  have unprinted : sheetLines start tag ⟨"a", .declared 0⟩ spoiledSheet = [] := by
    have only : start.scan.isStylesOnly ⟨"a", .declared 0⟩ = true := by decide +kernel
    rw [sheetLines, if_pos only]
  have once : leadLines middle tag = [] := by
    have known : middle.tag.isSome = true := by decide +kernel
    rw [leadLines, if_pos known]
  have printed : sheetLines middle tag ⟨"b", .declared 0⟩ slashedSheet =
      [(constantText "b" (taggedText "_css" slashedSheet.toList),
        Emit.constant { name := "b" } (readTemplate { name := "_css" } slashedSheet))] := by
    have named : (middle.tagIdent tag).name = "_css" := by decide +kernel
    have more : ¬ middle.scan.isStylesOnly ⟨"b", .declared 0⟩ = true := by decide +kernel
    simp only [sheetLines, if_neg more, named, readTemplate]
  have sheet (level : Nat) : StylesValue plan (dialectOf none) last level
      (.ident .use ⟨"a", .declared 0⟩) sheetInPlace := by
    have tagged : last.tag = some { name := "_css" } := by decide +kernel
    have bound : last.binding? ⟨"a", .declared 0⟩ = some ⟨"a", ⟨"/project/a.css"⟩, spoiledSheet⟩ := by
      decide +kernel
    exact @StylesValue.sheet plan _ last level ⟨"a", .declared 0⟩ { name := "_css" }
      ⟨"a", ⟨"/project/a.css"⟩, spoiledSheet⟩ tagged bound (by decide +kernel) (by decide +kernel)
  have kept (level : Nat) : StylesValue plan (dialectOf none) last level
      (.ident .use ⟨"reset", .free⟩) resetInPlace := by
    have unbound : last.binding? ⟨"reset", .free⟩ = none := by decide +kernel
    have unstyled : ⟨"reset", .free⟩ ∉ last.scan.styleImports := by decide +kernel
    exact stylesValue_name level unbound unstyled (by decide)
  have fields : List.Forall₂ (MemberLine plan (dialectOf none) last)
      [stylesField (.form (.array false)
        [.ident .use ⟨"a", .declared 0⟩, .ident .use ⟨"reset", .free⟩])] [fieldLines] :=
    .cons (.field (.listed false (.single (sheet 2) (.single (kept 2) .nil)))) .nil
  have getters : List.Forall₂ (MemberLine plan (dialectOf none) last)
      [stylesGetter (.form (.array false) [.form (.array false) [.ident .use ⟨"a", .declared 0⟩],
        .form .spread [.ident .use ⟨"reset", .free⟩]])] [getterLines] :=
    .cons (.getter (.listed false (.single (.listed false (.single (sheet 4) .nil))
      (.spread (kept 3) .nil)))) .nil
  have quiet : Quiet plan (fun _ => False) (sights plan.config.baseClass {} false .absent) :=
    ⟨fun _ _ member => absurd member List.not_mem_nil,
      fun _ _ _ _ member => absurd member List.not_mem_nil⟩
  let answer : Path → Except InlineError String :=
    fun path => (stylingSession.files.read path).mapError (.read path ⟨"index.js"⟩)
  have named : IsClassName (some "X") := by
    rintro word ⟨⟩
    decide
  have unnamed : IsClassName none := by
    rintro word ⟨⟩
  have byDefault := @ItemLines.styled plan tag answer (dialectOf none) last .byDefault none
    ⟨"LitElement", .free⟩ _ [] _ [] ⟨rfl, by decide, unnamed, getters, rfl⟩
    (fun other => absurd rfl other) .nil
  have exported := @ItemLines.styled plan tag answer (dialectOf none) last .exported
    (some ⟨"X", .declared 0⟩) ⟨"LitElement", .free⟩ _ _ _ _ ⟨rfl, by decide, named, fields, rfl⟩
    (fun _ => rfl) byDefault
  have constant := @ItemLines.sheet plan tag answer (dialectOf none) middle
    (sheetImport (.declared 0) "b" "./b.css" "'./b.css'") .absent ⟨"b", .declared 0⟩
    ⟨"/project/b.css"⟩ slashedSheet _ _ quiet (by decide +kernel) (by decide +kernel)
    (by decide +kernel) (by decide +kernel) (by decide +kernel) exported
  have deferred := @ItemLines.sheet plan tag answer (dialectOf none) start
    (sheetImport (.declared 0) "a" "./a.css" "'./a.css'") .absent ⟨"a", .declared 0⟩
    ⟨"/project/a.css"⟩ spoiledSheet _ _ quiet (by decide +kernel) (by decide +kernel)
    (by decide +kernel) (by decide +kernel) (by decide +kernel) constant
  rw [lead, unprinted, once, printed] at deferred
  exact deferred

end Script.Source

namespace Session

/-- A session with a tag and without processing prints the items of a module on their lines, and the
module that is read from them again has what these lines tell. -/
theorem transform_lines (session : Session) (config : Config) (tracker : TrackerChoice)
    (filename : Path) (source : Source) (again : Option Path) {tag : Tag} {module : Module}
    {lines : List (List Char × Node)} (tagged : config.tag = some tag)
    (known : isFree tag.localName = true) (kept : Quoted.IsKept tag.moduleName)
    (plain : config.processing.isEnabled = false)
    (expands : ∀ pattern ∈ config.externalDependencies,
      Dependency.Expands session.files pattern)
    (parsed : source.parse = .ok module)
    (placed :
      let plan := (Visitor.ofConfig config filename session.files).plan
      ItemLines plan tag (fun path => (session.files.read path).mapError (.read path filename))
        (Source.dialectOf again) { scan := Scan.ofModule plan.query module.resolve }
        module.resolve.items lines) :
    let text := String.ofList (headedPage module.interpreter lines)
    (session.transform config tracker filename source).answer = .transformed text none ∧
      Source.parse ⟨text, again⟩ = .ok ⟨module.interpreter, lines.map Prod.snd⟩ := by
  let visitor := Visitor.ofConfig config filename session.files
  let world : Fetcher.World := (⟨system, config.processing, none⟩, session.workshop)
  have gives := Fetcher.gives_plain session.systems filename world plain
  obtain ⟨complete, prints, stands⟩ := @rewriteItems_lines visitor.plan tag _ _ _ _ lines _
    (Fetcher.fetch session.systems) tagged known kept placed (by nofun)
    (visitor.start module.resolve world) rfl rfl gives
  obtain ⟨compiled, failure⟩ := compileWith_expands expands tracker filename module.resolve
  rw [Visitor.visit_eq] at compiled failure
  constructor
  · have whole : (session.compileWith config tracker filename module.resolve).module =
        ⟨module.interpreter, (rewriteItems visitor.plan (Fetcher.fetch session.systems)
          module.resolve.items (visitor.start module.resolve world)).1⟩ :=
      compiled
    simp only [transform, parsed]
    rw [whole, Module.print_page prints, failure]
    exact congrArg _ complete
  · rw [Source.parse, Module.parse_page (Source.isLine_of_parse parsed) stands]
    rfl

/-- With a tag and without processing, stylesheets without backticks and substitutions are printed
raw: read again, in any variant of the language, the module that is printed has their texts as they
are in constants and in the styles of classes, and its other items as they were.  At every place in
every module, a text behind a tag is read as it is exactly if no escape in it goes on behind it. -/
theorem transform_raw (session : Session) (config : Config) (tracker : TrackerChoice)
    (filename : Path) (source : Source) (again : Option Path) {tag : Tag} {module : Module}
    {lines : List (List Char × Node)} (tagged : config.tag = some tag)
    (known : isFree tag.localName = true) (kept : Quoted.IsKept tag.moduleName)
    (plain : config.processing.isEnabled = false)
    (expands : ∀ pattern ∈ config.externalDependencies,
      Dependency.Expands session.files pattern)
    (parsed : source.parse = .ok module)
    (placed :
      let plan := (Visitor.ofConfig config filename session.files).plan
      ItemLines plan tag (fun path => (session.files.read path).mapError (.read path filename))
        (Source.dialectOf again) { scan := Scan.ofModule plan.query module.resolve }
        module.resolve.items lines) :
    let text := String.ofList (headedPage module.interpreter lines)
    ((session.transform config tracker filename source).answer = .transformed text none ∧
        Source.parse ⟨text, again⟩ = .ok ⟨module.interpreter, lines.map Prod.snd⟩) ∧
      ∀ (recur : Read) (use types : Node) (context : Context) (cursor : Cursor)
        (chars behind : List Char), cursor.lexed.rest = chars ++ '\x60' :: behind → IsBare chars →
          ((∃ after, outcome (Grammar.tagged recur use types) context cursor =
              (.ok (rawTemplate use types chars), after) ∧
            after.lexed = Lexed.ofChars context.dialect.types behind) ↔ ¬ EndsOpen chars) :=
  ⟨session.transform_lines config tracker filename source again tagged known kept plain expands
    parsed placed, fun _ _ _ _ _ _ _ rest bare => tagged_raw_iff rest bare⟩

/-- Two constants with stylesheets and two classes: the stylesheets stand in them as they are. -/
theorem transform_raw_class :
    (Source.stylingSession.transform { tag := some ⟨"css", "lit"⟩ } .recording ⟨"index.js"⟩
        ⟨Source.styling, some ⟨"index.ts"⟩⟩).answer =
          .transformed (String.ofList (page Source.stylingLines)) none ∧
      Source.parse ⟨String.ofList (page Source.stylingLines), none⟩ =
        .ok ⟨none, Source.stylingLines.map Prod.snd⟩ :=
  (transform_raw Source.stylingSession { tag := some ⟨"css", "lit"⟩ } .recording ⟨"index.js"⟩
    ⟨Source.styling, some ⟨"index.ts"⟩⟩ none rfl (by decide) (by decide) rfl (List.forall_mem_nil _)
    Source.parse_styling Source.itemLines_styling).1

end Session

end StyleInline
