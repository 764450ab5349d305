import StyleInline.Text.Property

/-!
# Letters

The characters that may start an identifier and those that may continue one, as defined
by the Unicode properties `ID_Start` and `ID_Continue`.
-/

namespace StyleInline.Text

def isIdentifierStart (c : Char) : Bool :=
  if c.toNat < 128 then c.isAlpha || c == '$' || c == '_' else CharTable.idStart.contains c

def isIdentifierPart (c : Char) : Bool :=
  if c.toNat < 128 then c.isAlphanum || c == '$' || c == '_'
  else CharTable.idContinue.contains c || CharTable.joinControl.contains c

end StyleInline.Text
