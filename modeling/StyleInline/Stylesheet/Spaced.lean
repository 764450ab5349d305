import StyleInline.Stylesheet.ColorLevel
import StyleInline.Stylesheet.Prefix

/-!
# Spaced text

Text with places at which a blank is wanted, but not needed.  It is written wide, with those
blanks, or narrow, without them.
-/

namespace StyleInline.Stylesheet

inductive ImageKind where
  | gradient
  | set
  deriving DecidableEq, Repr, Inhabited

namespace ImageKind

def prefixing : ImageKind → Prefixing
  | gradient => Prefixing.gradient
  | set => Prefixing.imageSet

end ImageKind

inductive ImageForm where
  | under (before : Prefix)
  | early
  deriving DecidableEq, Repr, Inhabited

inductive Piece where
  | text (content : String)
  | gap
  /-- A text that is written differently where room counts. -/
  | either (wide narrow : String)
  | color (color : Color)
  | fitted (wide narrow : List Piece)
  /-- What is written for targets that understand a feature, and what for others. -/
  | choice (feature : Feature) (modern plain : List Piece)
  /-- The start of a row, which stands in a column of its own. -/
  | row (column : Nat)
  | only (feature : Feature) (content : List Piece)
  /-- An image in some form, and the same image in others. -/
  | image (kind : ImageKind) (form : ImageForm) (content : List Piece)
      (others : List (ImageForm × List Piece))
  deriving BEq, Repr, Inhabited

abbrev Spaced := List Piece

namespace Piece

mutual

/-- The text of a piece at some depth of nested rules. -/
def render (manner : Manner) (depth : Nat) : Piece → String
  | .text content => content
  | .gap => manner.gap
  | .either wide narrow => if manner.isNarrow then narrow else wide
  | .color shade => shade.text manner
  | .fitted wide narrow =>
    if manner.isNarrow then renderAll manner depth narrow else renderAll manner depth wide
  | .choice feature modern plain =>
    if manner.targets.understand feature then renderAll manner depth modern
    else renderAll manner depth plain
  | .row column => manner.newline depth ++ if manner.isNarrow then "" else "".pushn ' ' column
  | .only _ content => renderAll manner depth content
  | .image _ _ content _ => renderAll manner depth content

def renderAll (manner : Manner) (depth : Nat) : List Piece → String
  | [] => ""
  | first :: rest => first.render manner depth ++ renderAll manner depth rest

end

mutual

def mapColors (f : Color → Color) : Piece → Piece
  | .color shade => .color (f shade)
  | .fitted wide narrow => .fitted (mapAllColors f wide) (mapAllColors f narrow)
  | .choice feature modern plain => .choice feature (mapAllColors f modern) (mapAllColors f plain)
  | .only feature content => .only feature (mapAllColors f content)
  | .image kind form content others =>
    .image kind form (mapAllColors f content) (mapFormColors f others)
  | piece => piece

def mapAllColors (f : Color → Color) : List Piece → List Piece
  | [] => []
  | first :: rest => first.mapColors f :: mapAllColors f rest

def mapFormColors (f : Color → Color) :
    List (ImageForm × List Piece) → List (ImageForm × List Piece)
  | [] => []
  | (form, content) :: rest => (form, mapAllColors f content) :: mapFormColors f rest

end

mutual

def colors : Piece → List Color
  | .color shade => [shade]
  | .fitted wide _ => allColors wide
  | .choice _ modern _ => allColors modern
  | .only _ content => allColors content
  | .image _ _ content _ => allColors content
  | _ => []

def allColors : List Piece → List Color
  | [] => []
  | first :: rest => first.colors ++ allColors rest

end

mutual

def isUnderstood (targets : Targets) : Piece → Bool
  | .color shade => shade.isUnderstood targets
  | .fitted wide _ => areUnderstood targets wide
  | .choice _ modern _ => areUnderstood targets modern
  | .only feature content => targets.understand feature && areUnderstood targets content
  | .image _ _ content _ => areUnderstood targets content
  | _ => true

/-- Targets understand pieces. -/
def areUnderstood (targets : Targets) : List Piece → Bool
  | [] => true
  | first :: rest => first.isUnderstood targets && areUnderstood targets rest

end

def inForm? (form : ImageForm) : Piece → Option Piece
  | .image kind own content others =>
    if own == form then some (.image kind own content others)
    else (others.lookup form).map fun content => .image kind form content []
  | piece => some piece

end Piece

namespace Spaced

def mapColors (f : Color → Color) (spaced : Spaced) : Spaced := Piece.mapAllColors f spaced

def isUnderstood (targets : Targets) (spaced : Spaced) : Bool := Piece.areUnderstood targets spaced

def lowerLevels (targets : Targets) (spaced : Spaced) : List ColorLevel :=
  ColorLevel.inOrder ((Piece.allColors spaced).flatMap (Color.lowerLevels targets))

def levels (targets : Targets) (spaced : Spaced) : List ColorLevel :=
  ColorLevel.inOrder ((Piece.allColors spaced).flatMap (Color.levels targets))

def atLevel (level : ColorLevel) (spaced : Spaced) : Spaced :=
  spaced.mapColors (Color.atLevel level)

/-- A text with its images in another form, if they all have one. -/
def inForm? (form : ImageForm) (spaced : Spaced) : Option Spaced :=
  spaced.mapM (Piece.inForm? form)

/-- The text as it is written in some manner, at some depth of nested rules. -/
def render (manner : Manner) (depth : Nat) (spaced : Spaced) : String :=
  Piece.renderAll manner depth spaced

def ofText (content : String) : Spaced := [.text content]

def ofColor (color : Color) : Spaced := [.color color]

def comma : Spaced := [.text ",", .gap]

def slash : Spaced := [.gap, .text "/", .gap]

def blank : Spaced := [.text " "]

def joined (between : Spaced) : List Spaced → Spaced
  | [] => []
  | [only] => only
  | first :: rest => first ++ between ++ joined between rest

def words (all : List Spaced) : Spaced := joined blank all

def listed (all : List Spaced) : Spaced := joined comma all

def call (name : String) (arguments : Spaced) : Spaced :=
  .text (name ++ "(") :: arguments ++ [.text ")"]

end Spaced

namespace Written

def nameChar (c : Char) : String :=
  if Lexer.isNameChar c then c.toString
  else if c.toNat < 32 || c.toNat == 127 then
    "\\" ++ String.ofList (Nat.toDigits 16 c.toNat) ++ " "
  else "\\" ++ c.toString

/-- A digit that would start a number, written by its code. -/
def codedDigit (c : Char) : String := "\\" ++ String.ofList (Nat.toDigits 16 c.toNat) ++ " "

def name (value : String) : String :=
  match value.toList with
  | '-' :: '-' :: rest => "--" ++ String.join (rest.map nameChar)
  | ['-'] => "\\-"
  | '-' :: c :: rest =>
    "-" ++ (if c.isDigit then codedDigit c else nameChar c) ++ String.join (rest.map nameChar)
  | c :: rest => (if c.isDigit then codedDigit c else nameChar c) ++ String.join (rest.map nameChar)
  | [] => ""

def textChar (c : Char) : String :=
  if c == '"' then "\\\""
  else if c == '\\' then "\\\\"
  else if c.toNat < 32 || c.toNat == 127 then
    "\\" ++ String.ofList (Nat.toDigits 16 c.toNat) ++ " "
  else c.toString

def text (value : String) : String := "\"" ++ String.join (value.toList.map textChar) ++ "\""

def isPlainName (value : String) : Bool :=
  Lexer.startsName value.toList && value.toList.all Lexer.isNameChar

def bareAddress (value : String) : String :=
  let char (c : Char) : String :=
    if ['(', ')', '"', '\'', '\\', ' '].contains c then "\\" ++ c.toString else c.toString
  "url(" ++ String.join (value.toList.map char) ++ ")"

/-- An address: in quotes, or without them where that is shorter. -/
def address (value : String) : Piece :=
  let quoted := "url(" ++ text value ++ ")"
  let bare := bareAddress value
  .either quoted (if bare.length < quoted.length then bare else quoted)

end Written

end StyleInline.Stylesheet
