import StyleInline.Path

/-!
# Failures

What can go wrong while a module is compiled, as causes; the wording of each is in one
function beside its type.
-/

namespace StyleInline

inductive FileErrorKind where
  | notFound
  | permissionDenied
  | invalidInput
  | invalidData
  | isDirectory
  | notDirectory
  | other
  deriving DecidableEq, Repr, Inhabited

structure FileError where
  kind : FileErrorKind
  message : String
  deriving DecidableEq, Repr, Inhabited

/-- A failure with the causes below it, outermost first. -/
structure Failure where
  message : String
  causes : List String
  deriving DecidableEq, Repr, Inhabited

namespace Failure

def plain (message : String) : Failure := ⟨message, []⟩

def within (context : String) (failure : Failure) : Failure :=
  ⟨context, failure.message :: failure.causes⟩

/-- The whole chain on one line, outermost first. -/
def chain (failure : Failure) : String :=
  ": ".intercalate (failure.message :: failure.causes)

end Failure

inductive InlineError where
  | resolve (specifier : String) (origin : Path)
  | read (path origin : Path) (source : FileError)
  | process (path origin : Path) (source : Failure)
  | glob (pattern : String) (source : FileError)
  /-- A class refers to a stylesheet, but nothing has named the tag yet. -/
  | missingTagImport (className : String)
  /-- A class refers to a stylesheet that is imported only after it. -/
  | stylesBeforeImport (className localName : String)
  deriving DecidableEq, Repr, Inhabited

namespace InlineError

def message : InlineError → String
  | .resolve specifier origin => "Failed to resolve '" ++ specifier ++ "' from " ++ origin.text
  | .read path origin source =>
    "Failed to read " ++ path.text ++ " imported from " ++ origin.text ++ ": " ++ source.message
  | .process path origin source =>
    "Failed to process " ++ path.text ++ " imported from " ++ origin.text ++ ": " ++ source.message
  | .glob pattern source =>
    "Invalid external dependency pattern '" ++ pattern ++ "': " ++ source.message
  | .missingTagImport className =>
    "Cannot inline styles into class " ++ className ++ ": no tag import has been created"
  | .stylesBeforeImport className localName =>
    "Class " ++ className ++ " references '" ++ localName ++
      "' in its styles before the stylesheet import"

/-- The stylesheet itself does not exist. -/
def isNotFound : InlineError → Bool
  | .read _ _ source => source.kind == .notFound
  | _ => false

/-- The module mentions a stylesheet where the order of its items does not allow it. -/
def isContractViolation : InlineError → Bool
  | .missingTagImport _ => true
  | .stylesBeforeImport _ _ => true
  | _ => false

end InlineError

end StyleInline
