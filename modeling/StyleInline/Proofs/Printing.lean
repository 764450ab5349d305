import Mathlib.Data.List.Forall2
import StyleInline.Proofs.Members
import StyleInline.Proofs.TagImport
import StyleInline.Proofs.Verbatim

/-!
# Items on lines of their own

An item is printed on lines that nothing else stands on.  Printed one behind the other, items give
the page of their lines.
-/

namespace StyleInline

open Script

namespace Text.Layout

/-- Behind the start of a line text is added as it is. -/
theorem write_text (level : Nat) (added content : String) :
    (text added).write level ⟨content, false⟩ = ⟨content ++ added, false⟩ := by
  cases empty : added.isEmpty with
  | true =>
      rw [String.isEmpty_iff] at empty
      subst empty
      rw [String.append_empty]
      rfl
  | false => simp [write, empty]

theorem write_indented (level : Nat) (inner : Layout) (page : Page) :
    (indented inner).write level page = inner.write (level + 1) page :=
  rfl

/-- A text starts its line behind the margin. -/
theorem write_start (level : Nat) {added : String} (some : added.isEmpty = false)
    (content : String) :
    (text added).write level ⟨content, true⟩ = ⟨content ++ margin level ++ added, false⟩ := by
  simp [write, some]

theorem write_line (level : Nat) (content : String) :
    line.write level ⟨content, false⟩ = ⟨content ++ "\n", true⟩ :=
  rfl

theorem write_nothing (level : Nat) (page : Page) : nothing.write level page = page := rfl

/-- Started on a new line, the layout fills the lines of a text and ends them. -/
def Fills (level : Nat) (layout : Layout) (lines : List Char) : Prop :=
  ∀ content, layout.write level ⟨content, true⟩ = ⟨content ++ String.ofList (lines ++ ['\n']), true⟩

/-- Wherever a line stands, the layout adds a text to it that goes on behind it. -/
def Adds (level : Nat) (layout : Layout) (added : List Char) : Prop :=
  ∀ page : Page, layout.write level page =
    ⟨page.content ++ (if page.isFresh then margin level else "") ++ String.ofList added, false⟩

/-- Where a text is added there is something. -/
theorem ne_nothing_of_adds {level : Nat} {layout : Layout} {added : List Char}
    (adds : Adds level layout added) : layout ≠ nothing := by
  rintro rfl
  have ended : true = false := congrArg Page.isFresh (adds ⟨"", true⟩)
  cases ended

theorem adds_text (level : Nat) {added : String} (some : added.isEmpty = false) :
    Adds level (text added) added.toList := by
  intro page
  cases fresh : page.isFresh <;> simp [write, some, fresh]

/-- Layouts behind each other fill lines behind each other. -/
theorem write_concat {level : Nat} {layouts : List Layout} {texts : List (List Char)}
    (fills : List.Forall₂ (Fills level) layouts texts) (content : String) :
    (concat layouts).write level ⟨content, true⟩ =
      ⟨content ++ String.ofList (texts.flatMap (· ++ ['\n'])), true⟩ := by
  induction fills generalizing content with
  | nil => simp [concat, write]
  | cons first _ ih =>
      rw [concat, write_append, first, ih, List.flatMap_cons, String.append_assoc,
        ← String.ofList_append]

end Text.Layout

open Text.Layout (Adds Fills adds_text ne_nothing_of_adds)

namespace Script

open Text.Layout (Page write_append write_indented write_line write_nothing write_start write_text)

theorem Printer.pieces_eq_map (nodes : List Node) : pieces nodes = nodes.map piece := by
  induction nodes with
  | nil => rfl
  | cons node rest ih => rw [pieces, ih, List.map_cons]

theorem Printer.node_piece (node : Node) : (piece node).node = node := by
  cases node <;> rfl

/-- The item is printed on these lines, and on no others. -/
def Node.PrintsOn (item : Node) (lines : List Char) : Prop :=
  Fills 0 (Printer.piece item).statement lines

/-- The class member is printed on these lines, and on no others. -/
def Node.PrintsInside (member : Node) (lines : List Char) : Prop :=
  Fills 1 ((Printer.piece member).layout ++ Text.Layout.line) lines

/-- Items are printed line by line, behind the line of the interpreter. -/
theorem Module.print_page {items : List Node} {lines : List (List Char × Node)}
    (prints : List.Forall₂ (fun item line => item.PrintsOn line.1) items lines)
    (interpreter : Option String) :
    (⟨interpreter, items⟩ : Module).print =
      String.ofList (Grammar.headedPage interpreter lines) := by
  have fills : List.Forall₂ (Fills 0) (items.map fun item => (Printer.piece item).statement)
      (lines.map Prod.fst) := by
    rw [List.forall₂_map_left_iff, List.forall₂_map_right_iff]
    exact prints
  have written (content : String) : (Text.Layout.concat
      (items.map fun item => (Printer.piece item).statement)).write 0 ⟨content, true⟩ =
        ⟨content ++ String.ofList (Grammar.page lines), true⟩ := by
    rw [Text.Layout.write_concat fills, List.flatMap_map]
    rfl
  have pieces : (Printer.pieces items).map Printer.Piece.statement =
      items.map fun item => (Printer.piece item).statement := by
    rw [Printer.pieces_eq_map, List.map_map]
    rfl
  rw [Module.print, Text.Layout.render, Module.layout, write_append, pieces]
  cases interpreter with
  | none =>
      rw [write_nothing, written]
      exact String.empty_append ..
  | some line =>
      have begun : ("#!" ++ line).isEmpty = false := by
        rw [Bool.eq_false_iff]
        intro empty
        have short := congrArg String.length (String.isEmpty_iff.mp empty)
        rw [String.length_append] at short
        exact absurd short (by simp)
      rw [write_append, write_start 0 begun, write_line, written, ← String.toList_inj]
      simp [Grammar.headedPage, Text.Layout.margin]

section Value

theorem adds_name (level : Nat) {name : Ident} (named : name.name.isEmpty = false) :
    Adds level (Printer.piece (.ident .use name)).layout name.name.toList :=
  adds_text level named

theorem adds_template (level : Nat) {tag : Ident} (named : tag.name.isEmpty = false)
    (content : String) :
    Adds level (Printer.piece (Emit.template tag content)).layout
      (Grammar.taggedText tag.name content.toList) := by
  intro page
  have layout : (Printer.piece (Emit.template tag content)).layout =
      .text tag.name ++ .nothing ++ (.text "\x60" ++ .text content ++ .text "\x60") :=
    rfl
  rw [layout]
  simp only [write_append, adds_text level named page, write_text, write_nothing]
  refine congrArg (Page.mk · false) (String.toList_inj.mp ?_)
  simp [Grammar.taggedText]

theorem adds_spread {level : Nat} {value : Node} {text : List Char}
    (adds : Adds level (Printer.piece value).layout text) :
    Adds level (Printer.piece (.form .spread [value])).layout ('.' :: '.' :: '.' :: text) := by
  intro page
  have dots : "...".isEmpty = false := by decide
  have layout : (Printer.piece (.form .spread [value])).layout =
      .text "..." ++ (Printer.piece value).layout :=
    rfl
  rw [layout]
  simp only [write_append, adds_text level dots page, adds _]
  refine congrArg (Page.mk · false) (String.toList_inj.mp ?_)
  simp

/-- The elements of an array are printed on lines of their own. -/
theorem write_elements (level : Nat) {layouts : List Text.Layout}
    {elements : List (List Char × Node)}
    (adds : List.Forall₂ (fun layout element => Adds (level + 1) layout element.1) layouts elements)
    {layout : Text.Layout} {element : List Char} (first : Adds (level + 1) layout element)
    (content : String) :
    (Text.Layout.line ++ .text "]").write level
        ((Text.Layout.joined (.text "," ++ .line) (layout :: layouts)).write (level + 1)
          ⟨content, true⟩) =
      ⟨content ++ Text.Layout.margin (level + 1) ++
        String.ofList (element ++ Grammar.elementsTail level elements []), false⟩ := by
  have closing : "]".isEmpty = false := by decide
  induction adds generalizing layout element content with
  | nil =>
      rw [Text.Layout.joined, first]
      simp only [write_append, write_line, write_start level closing, ↓reduceIte]
      refine congrArg (Page.mk · false) (String.toList_inj.mp ?_)
      simp [Grammar.elementsTail, marginLine, Text.Layout.margin]
  | @cons next other layouts elements second _ ih =>
      have shape : Text.Layout.joined (.text "," ++ .line) (layout :: next :: layouts) =
          layout ++ (.text "," ++ .line) ++
            Text.Layout.joined (.text "," ++ .line) (next :: layouts) := rfl
      have front : (layout ++ (.text "," ++ .line)).write (level + 1) ⟨content, true⟩ =
          ⟨content ++ Text.Layout.margin (level + 1) ++ String.ofList element ++ "," ++ "\n",
            true⟩ := by
        simp only [write_append, first _, write_text, write_line, ↓reduceIte]
      rw [shape, write_append (level + 1), front, ih second]
      refine congrArg (Page.mk · false) (String.toList_inj.mp ?_)
      simp [Grammar.elementsTail, marginLine, Text.Layout.margin]

theorem holeTail_of_adds {level : Nat} {nodes : List Node} {elements : List (List Char × Node)}
    (adds : List.Forall₂ (fun node element => Adds level (Printer.piece node).layout element.1)
      nodes elements) :
    Printer.holeTail (Printer.pieces nodes) = .nothing := by
  unfold Printer.holeTail
  split
  next parts _ _ last =>
    rw [Printer.pieces_eq_map, List.getLast?_map] at last
    obtain ⟨node, member, same⟩ := Option.map_eq_some_iff.mp last
    obtain ⟨i, inside, here⟩ := List.getElem_of_mem (List.mem_of_getLast? member)
    have added := adds.get inside (adds.length_eq ▸ inside)
    have hole := Printer.node_piece node
    rw [same] at hole
    rw [List.get_eq_getElem, here, ← hole] at added
    exact absurd rfl (ne_nothing_of_adds added)
  next => rfl

/-- An array is printed element by element. -/
theorem adds_array (level : Nat) (isTrailed : Bool) {nodes : List Node}
    {elements : List (List Char × Node)}
    (adds : List.Forall₂
      (fun node element => Adds (level + 1) (Printer.piece node).layout element.1) nodes elements) :
    Adds level (Printer.piece (.form (.array isTrailed) nodes)).layout
      (Grammar.arrayText level elements) := by
  have tail := holeTail_of_adds adds
  cases adds with
  | nil => exact adds_text level (by decide)
  | @cons node element nodes elements first others =>
      intro page
      have opening : "[".isEmpty = false := by decide
      have layout : (Printer.piece (.form (.array isTrailed) (node :: nodes))).layout =
          .text "[" ++ .line ++ .indented (Text.Layout.joined (.text "," ++ .line)
            (((node :: nodes).map fun other => (Printer.piece other).layout)) ++ .nothing) ++
              .line ++ .text "]" := by
        have pieces : ((node :: nodes).map fun other => (Printer.piece other).layout) =
            (Printer.pieces (node :: nodes)).map Printer.Piece.layout := by
          rw [Printer.pieces_eq_map, List.map_map]
          rfl
        rw [← tail, pieces]
        rfl
      have others : List.Forall₂ (fun layout element => Adds (level + 1) layout element.1)
          (nodes.map fun other => (Printer.piece other).layout) elements := by
        rw [List.forall₂_map_left_iff]
        exact others
      have inside (content : String) := write_elements level others first content
      rw [layout]
      simp only [write_append, adds_text level opening page, write_line, write_indented,
        write_nothing]
      refine (inside _).trans (congrArg (Page.mk · false) (String.toList_inj.mp ?_))
      simp [Grammar.arrayText, marginLine, Text.Layout.margin]

variable {value : Node} {text : List Char}

theorem behind_of_adds {level : Nat} (adds : Adds level (Printer.piece value).layout text)
    (before : Text.Layout) :
    (Printer.piece value).behind before = before ++ (Printer.piece value).layout := by
  have present : value.isAbsent = false := by
    cases absent : value.isAbsent with
    | false => rfl
    | true =>
        unfold Node.isAbsent at absent
        split at absent
        next => exact absurd rfl (ne_nothing_of_adds adds)
        next => cases absent
  rw [Printer.Piece.behind, Printer.Piece.isAbsent, Printer.node_piece, present]
  rfl

/-- A constant is printed on the lines of its value. -/
theorem prints_constant (binding : Ident) (adds : Adds 0 (Printer.piece value).layout text) :
    (Emit.constant binding value).PrintsOn (Grammar.constantText binding.name text) := by
  intro before
  have layout : (Printer.piece (Emit.constant binding value)).statement =
      .nothing ++ .text "const " ++ (.text binding.name ++
        (Printer.piece value).behind (.text " = ")) ++ .text ";" ++ .line :=
    rfl
  have begun : "const ".isEmpty = false := by decide
  rw [layout, behind_of_adds adds]
  simp only [write_append, write_text, write_line, write_nothing, write_start 0 begun, adds _]
  refine congrArg (Page.mk · true) (String.toList_inj.mp ?_)
  simp [Grammar.constantText, Text.Layout.margin]

/-- A static field with the name of styles is printed on the lines of its value. -/
theorem prints_field (adds : Adds 1 (Printer.piece value).layout text) :
    (Grammar.stylesField value).PrintsInside (Grammar.fieldText text) := by
  intro before
  have layout : (Printer.piece (Grammar.stylesField value)).layout =
      .nothing ++ (.nothing ++ .text "static " ++ .nothing) ++ .text "styles" ++ .text "" ++
        .nothing ++ (Printer.piece value).behind (.text " = ") ++ .text ";" :=
    rfl
  have begun : "static ".isEmpty = false := by decide
  rw [layout, behind_of_adds adds]
  simp only [write_append, write_text, write_line, write_nothing, write_start 1 begun, adds _]
  refine congrArg (Page.mk · true) (String.toList_inj.mp ?_)
  simp [Grammar.fieldText, Grammar.fieldFront, Text.Layout.margin]

/-- A static getter with the name of styles is printed around the value that it returns. -/
theorem prints_getter (adds : Adds 2 (Printer.piece value).layout text) :
    (Grammar.stylesGetter value).PrintsInside (Grammar.getterText text) := by
  intro before
  let returned : Text.Layout :=
    .text "return" ++ (Printer.piece value).behind (.text " ") ++ .text ";"
  have layout : (Printer.piece (Grammar.stylesGetter value)).layout =
      .nothing ++ (.nothing ++ .text "static " ++ .nothing) ++ .text "get " ++ .text "styles" ++
        .text "" ++ (.nothing ++ .text "(" ++ .nothing ++ .text ")" ++ .nothing) ++
          (.text " " ++ (.text "\x7b" ++ .line ++ .indented (returned ++ .line ++ .line ++ .nothing) ++
            .text "\x7d")) :=
    rfl
  have begun : "static ".isEmpty = false := by decide
  have word : "return".isEmpty = false := by decide
  have ended : "\x7d".isEmpty = false := by decide
  have again (level : Nat) (content : String) :
      Text.Layout.line.write level ⟨content, true⟩ = ⟨content, true⟩ := rfl
  rw [layout]
  simp only [returned, behind_of_adds adds, write_append, write_text, write_line, write_nothing,
    write_indented, write_start 1 begun, write_start 2 word, write_start 1 ended, adds _, again]
  refine congrArg (Page.mk · true) (String.toList_inj.mp ?_)
  simp [Grammar.getterText, Grammar.getterRest, Grammar.returnText, marginLine, Text.Layout.margin]

end Value

/-- The name that an import of the tag takes it by, if that is another one. -/
def importedAs (name : Ident) (tag : Tag) : Option String :=
  if name.name = tag.localName then none else some tag.localName

theorem prints_import (name : Ident) (tag : Tag) :
    (Emit.tagImport name tag).PrintsOn
      (Grammar.importText name.name (importedAs name tag) tag.moduleName) := by
  intro before
  have begun : "import ".isEmpty = false := by decide
  let listed (imported : Option ModuleName) : Text.Layout :=
    .text "\x7b " ++ Printer.importSpecifier (.named name imported false) ++ .nothing ++
      .text " \x7d"
  have layout (imported : Option ModuleName) : (Printer.piece (.importDecl
      { typeOnly := false
        specifiers := [.named name imported false]
        source := ⟨tag.moduleName, none⟩ } .absent)).statement =
      .text "import " ++ .nothing ++ .nothing ++ listed imported ++ .text " from " ++
        .text (Quoted.quoted tag.moduleName) ++ .nothing ++ .text ";" ++ .line :=
    rfl
  rw [Emit.tagImport, importedAs, layout]
  split
  next same =>
    have spec : listed none = .text "\x7b " ++ (.nothing ++ .text name.name) ++ .nothing ++
      .text " \x7d" := rfl
    rw [spec]
    simp only [write_append, write_text, write_line, write_nothing, write_start 0 begun]
    refine congrArg (Page.mk · true) (String.toList_inj.mp ?_)
    simp [Grammar.importText, Grammar.specifierText, Text.Layout.margin]
  next other =>
    have spec : listed (some (.ident { name := tag.localName })) = .text "\x7b " ++
      (.nothing ++ .text tag.localName ++ .text " as " ++ .text name.name) ++ .nothing ++
        .text " \x7d" := rfl
    rw [spec]
    simp only [write_append, write_text, write_line, write_nothing, write_start 0 begun]
    refine congrArg (Page.mk · true) (String.toList_inj.mp ?_)
    simp [Grammar.importText, Grammar.specifierText, Text.Layout.margin]

section Class

variable {members : List Node} {lines : List (List Char × Node)}
  (prints : List.Forall₂ (fun member line => member.PrintsInside line.1) members lines)

def classLayout (name : Option Ident) (base : Ident) (members : List Node) : Text.Layout :=
  .nothing ++ .nothing ++ .text "class" ++
    (name.elim .nothing fun name => .text (" " ++ name.name)) ++ .nothing ++
      (.text " extends " ++ .text base.name) ++ .nothing ++ .nothing ++
        (.text " " ++ (.text "\x7b" ++ .line ++ .indented (.concat
          (members.map fun member => (Printer.piece member).layout ++ Text.Layout.line)) ++
            .text "\x7d"))

theorem piece_extendingClass (isDeclaration : Bool) (name : Option Ident) (base : Ident)
    (members : List Node) :
    Printer.piece (Grammar.extendingClass isDeclaration name base members) =
      ⟨Grammar.extendingClass isDeclaration name base members,
        .nothing ++ classLayout name base members, [.nothing, classLayout name base members]⟩ := by
  have inside : (members.map fun member => (Printer.piece member).layout ++ Text.Layout.line) =
      ((Printer.pieces members).map Printer.Piece.layout).map (· ++ .line) := by
    rw [Printer.pieces_eq_map, List.map_map, List.map_map]
    rfl
  rw [classLayout, inside]
  cases name <;> rfl

include prints

/-- A class is printed with its members between its braces. -/
theorem adds_classLayout (name : Option Ident) (base : Ident) :
    Adds 0 (classLayout name base members)
      (Grammar.classLines (name.map Ident.name) base.name lines) := by
  intro page
  have begun : "class".isEmpty = false := by decide
  have ended : "\x7d".isEmpty = false := by decide
  have fills : List.Forall₂ (Fills 1)
      (members.map fun member => (Printer.piece member).layout ++ Text.Layout.line)
      (lines.map Prod.fst) := by
    rw [List.forall₂_map_left_iff, List.forall₂_map_right_iff]
    exact prints
  have written (content : String) := Text.Layout.write_concat fills content
  have tail : lines.flatMap (fun line => line.1 ++ ['\n']) =
    (lines.map Prod.fst).flatMap (· ++ ['\n']) := by rw [List.flatMap_map]
  cases name <;>
    simp only [classLayout, write_append, write_text, write_line, write_nothing,
      adds_text 0 begun page, write_indented, written, write_start 0 ended, Option.elim_none,
      Option.elim_some] <;>
    refine congrArg (Page.mk · false) (String.toList_inj.mp ?_) <;>
    simp [Grammar.classLines_eq, Grammar.classFront, Grammar.parentText, Grammar.page, tail,
      Text.Layout.margin]

theorem adds_class (isDeclaration : Bool) (name : Option Ident) (base : Ident) :
    Adds 0 (Printer.piece (Grammar.extendingClass isDeclaration name base members)).layout
      (Grammar.classLines (name.map Ident.name) base.name lines) := by
  intro page
  rw [piece_extendingClass]
  exact adds_classLayout prints name base page

/-- A class is printed as the item of its place. -/
theorem prints_class (place : Grammar.ClassPlace) (name : Option Ident) (base : Ident) :
    (place.item (Grammar.extendingClass true name base members)).PrintsOn
      (place.front (Grammar.classLines (name.map Ident.name) base.name lines)) := by
  intro before
  have adds := adds_classLayout prints name base
  have piece_eq := piece_extendingClass true name base members
  cases place with
  | plain =>
      have printed : (Printer.piece (Grammar.extendingClass true name base members)).statement =
          .nothing ++ classLayout name base members ++ .line := by
        rw [piece_eq]
        rfl
      rw [Grammar.ClassPlace.item, printed]
      simp only [write_append, write_nothing, adds _, write_line, ↓reduceIte]
      refine congrArg (Page.mk · true) (String.toList_inj.mp ?_)
      simp [Grammar.ClassPlace.front_plain, Text.Layout.margin]
  | exported =>
      have begun : "export ".isEmpty = false := by decide
      have printed : (Printer.piece (.form .exportDeclaration
          [Grammar.extendingClass true name base members])).statement =
            .nothing ++ .text "export " ++ classLayout name base members ++ .line := by
        rw [Printer.piece, Printer.pieces, piece_eq]
        rfl
      rw [Grammar.ClassPlace.item, printed]
      simp only [write_append, write_nothing, write_start 0 begun, adds _, write_line]
      refine congrArg (Page.mk · true) (String.toList_inj.mp ?_)
      simp [Grammar.ClassPlace.front_exported, Text.Layout.margin]
  | byDefault =>
      have begun : "export default ".isEmpty = false := by decide
      have printed : (Printer.piece (.form .exportDefaultDeclaration
          [Grammar.extendingClass true name base members])).statement =
            .text "export default " ++ (.nothing ++ classLayout name base members) ++ .line := by
        rw [Printer.piece, Printer.pieces, piece_eq]
        rfl
      rw [Grammar.ClassPlace.item, printed]
      simp only [write_append, write_nothing, write_start 0 begun, adds _, write_line]
      refine congrArg (Page.mk · true) (String.toList_inj.mp ?_)
      simp [Grammar.ClassPlace.front_byDefault, Text.Layout.margin]

end Class

end Script

end StyleInline
