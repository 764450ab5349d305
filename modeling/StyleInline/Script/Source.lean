import StyleInline.Path
import StyleInline.Script.Grammar
import StyleInline.Script.Printer

/-!
# Source files

A source file is a text with or without a name; the extension of the name decides which
variant of the language the text is written in.
-/

namespace StyleInline.Script

structure Source where
  code : String
  file : Option Path
  deriving DecidableEq, Repr, Inhabited

namespace Source

def dialectOf : Option Path → Dialect
  | none => { types := false, elements := false, decorators := false }
  | some file =>
    let extension := file.extension?.getD ""
    { types := ["ts", "mts", "cts", "tsx"].contains extension
      elements := ["tsx", "jsx"].contains extension
      decorators := true }

def label (source : Source) : String :=
  match source.file with
  | none => "<anon>"
  | some file => file.text

/-- Reads the module of a file, or says why it is none. -/
def parse (source : Source) : Except String Module :=
  (Module.parse (dialectOf source.file) source.code).mapError fun error =>
    "Failed to parse " ++ source.label ++ ": " ++ error.message

end Source

end StyleInline.Script
