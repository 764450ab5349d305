import StyleInline.Stylesheet.Browser

/-!
# Manners

How a stylesheet is written: wide or narrow, and for which browsers.
-/

namespace StyleInline.Stylesheet

structure Manner where
  isNarrow : Bool
  targets : Targets
  deriving DecidableEq, Repr, Inhabited

namespace Manner

def gap (manner : Manner) : String := if manner.isNarrow then "" else " "

def newline (manner : Manner) (depth : Nat) : String :=
  if manner.isNarrow then "" else "\n" ++ "".pushn ' ' (2 * depth)

end Manner

end StyleInline.Stylesheet
