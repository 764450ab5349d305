import StyleInline.Failure

/-!
# Import specifiers

A specifier names a path relative to the directory of the module that imports it.  The
answer is lexically normal; nothing is read and no link is followed.
-/

namespace StyleInline

/-- An empty specifier, or one with a NUL, names nothing. -/
def namesNothing (specifier : String) : Bool :=
  specifier.isEmpty || specifier.toList.contains '\x00'

def directoryOf (filename cwd : Path) : Path :=
  let filename := if filename.isAbsolute then filename else cwd.join filename
  filename.parent?.getD filename

/-- The path an import specifier stands for. -/
def resolveImport (specifier : String) (filename cwd : Path) : Except InlineError Path :=
  if namesNothing specifier then .error (.resolve specifier filename)
  else .ok ((directoryOf filename cwd).join ⟨specifier⟩).normalize

end StyleInline
