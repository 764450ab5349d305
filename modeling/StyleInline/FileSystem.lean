import StyleInline.Failure

/-!
# File systems

What the program asks of a file system, as the answers at one moment.
-/

namespace StyleInline

/-- A moment, in whole seconds from the epoch. -/
abbrev Time := Int

/-- The answers of a file system at one moment. -/
structure FileSystem where
  cwd : Except FileError Path
  read : Path → Except FileError String
  modified : Path → Except FileError Time
  isFile : Path → Bool
  /-- The files that match a pattern, in the order of listings. -/
  glob : String → Except FileError (List Path)

namespace FileSystem

/-- Up to the first element that passes a test, that one included. -/
def upTo {α : Type} (stop : α → Bool) : List α → List α
  | [] => []
  | first :: rest => if stop first then [first] else first :: upTo stop rest

/--
The closest file with one of some names: directories are tried from a path upwards, up to the
root if the walk meets it, and in each directory the names in their order.
-/
def findAncestor (files : FileSystem) (names : List String) (start root : Path) : Option Path :=
  let directories := upTo (fun directory => directory.same root) start.ancestors
  let candidates := directories.flatMap fun directory => names.map fun name => directory.join ⟨name⟩
  candidates.find? files.isFile

/-- A pattern as an absolute one in lexical normal form; its segments count as those of a path. -/
def anchor (cwd : Path) (pattern : String) : String := (cwd.join ⟨pattern⟩).normalize.text

end FileSystem

inductive Inquiry where
  | cwd
  | read (path : Path)
  | modified (path : Path)
  | isFile (path : Path)
  | glob (pattern : String)
  | findAncestor (names : List String) (start root : Path)
  deriving DecidableEq, Repr, Inhabited

inductive Reply where
  | cwd (path : Path)
  | content (text : String)
  | time (time : Time)
  | isFile (value : Bool)
  | paths (paths : List Path)
  | found (path : Option Path)
  | failed (error : FileError)
  deriving DecidableEq, Repr, Inhabited

def Reply.ofAnswer {α : Type} (reply : α → Reply) : Except FileError α → Reply
  | .ok value => reply value
  | .error error => .failed error

def FileSystem.reply (files : FileSystem) : Inquiry → Reply
  | .cwd => .ofAnswer .cwd files.cwd
  | .read path => .ofAnswer .content (files.read path)
  | .modified path => .ofAnswer .time (files.modified path)
  | .isFile path => .isFile (files.isFile path)
  | .glob pattern => .ofAnswer .paths (files.glob pattern)
  | .findAncestor names start root => .found (files.findAncestor names start root)

/-- A question to a file system that can be made to fail. -/
inductive Question where
  | cwd
  | read (path : String)
  | modified (path : String)
  | glob (pattern : String)
  deriving DecidableEq, Repr, Inhabited

abbrev Faults := List (Question × FileError)

namespace Faults

def insert (faults : Faults) (question : Question) (error : FileError) : Faults :=
  (question, error) :: faults.filter (·.1 != question)

def remove (faults : Faults) (question : Question) : Faults := faults.filter (·.1 != question)

/-- The failure of a question, if it has one, and its answer otherwise. -/
def answer {α : Type} (faults : Faults) (question : Question) (value : Except FileError α) :
    Except FileError α :=
  match faults.lookup question with
  | some error => .error error
  | none => value

/-- A file system some of whose answers are failures. -/
def within (faults : Faults) (files : FileSystem) : FileSystem where
  cwd := faults.answer .cwd files.cwd
  read path := faults.answer (.read path.text) (files.read path)
  modified path := faults.answer (.modified path.text) (files.modified path)
  isFile := files.isFile
  glob pattern := faults.answer (.glob pattern) (files.glob pattern)

end Faults

end StyleInline
