import StyleInline.Pattern.Reader
import StyleInline.Pattern.Room

/-!
# Patterns

A pattern is a text in the language of regular expressions.  It matches a text in which
some part fits it.
-/

namespace StyleInline

/-- A pattern: the text it was written as, and what it matches. -/
structure Pattern where
  text : String
  matcher : Pattern.Matcher
  deriving Inhabited

namespace Pattern

/-- The room that a compiled pattern may take, in bytes. -/
def roomLimit : Nat := 10 * Nat.pow 2 20

def ofText (text : String) : Except String Pattern :=
  match (do Matcher.ofTree (← Tree.ofText text) : Except Fault Matcher) with
  | .error fault => .error (fault.message text)
  | .ok matcher =>
    if !matcher.fits roomLimit then
      .error ("Compiled regex exceeds size limit of " ++ toString roomLimit ++ " bytes.")
    else .ok ⟨text, matcher⟩

/-- Some part of a text fits a pattern. -/
def accepts (pattern : Pattern) (text : String) : Bool := pattern.matcher.occursIn text

end Pattern

end StyleInline
