/-!
# Layouts

A layout is a text whose line breaks and indentation are still to be settled.  A break at
the start of a line adds nothing, so that no line stays empty by accident, and a line is
indented when the first text is written on it.
-/

namespace StyleInline.Text

inductive Layout where
  | nothing
  /-- Text that is written as it is, whatever line breaks it holds. -/
  | text (content : String)
  /-- The end of a line, unless nothing stands on the line yet. -/
  | line
  /-- Something that is indented one level more. -/
  | indented (inner : Layout)
  | beside (left right : Layout)
  deriving Repr, Inhabited

namespace Layout

instance : Append Layout := ⟨beside⟩

instance : Coe String Layout := ⟨text⟩

def concat : List Layout → Layout
  | [] => nothing
  | first :: rest => first ++ concat rest

def joined (between : Layout) : List Layout → Layout
  | [] => nothing
  | [only] => only
  | first :: rest => first ++ between ++ joined between rest

/-- What has been written so far. -/
structure Page where
  content : String
  isFresh : Bool

def margin (level : Nat) : String := String.ofList (List.replicate (4 * level) ' ')

def write (level : Nat) : Layout → Page → Page
  | nothing, page => page
  | text content, page =>
    if content.isEmpty then page
    else if page.isFresh then ⟨page.content ++ margin level ++ content, false⟩
    else ⟨page.content ++ content, false⟩
  | line, page => if page.isFresh then page else ⟨page.content ++ "\n", true⟩
  | indented inner, page => write (level + 1) inner page
  | beside left right, page => write level right (write level left page)

/-- The text of a layout. -/
def render (layout : Layout) : String := (layout.write 0 ⟨"", true⟩).content

end Layout

end StyleInline.Text
