import StyleInline.FileSystem
import StyleInline.Glob.Braces

/-!
# File systems in memory

Entries under plain paths, and a working directory.  Every path is made plain before it is
looked up, so that all spellings of a place reach the same entry; a `..` at the top takes the
root away.
-/

namespace StyleInline

inductive Entry where
  | file (content : String) (modified : Time)
  | directory
  deriving DecidableEq, Repr, Inhabited

/-- A file system in memory; no path has two entries. -/
structure Memory where
  entries : List (Path × Entry) := []
  cwd : Path := ⟨"/"⟩
  deriving Repr, Inhabited

namespace Memory

/-- A step towards a plain path, on the reversed components met so far. -/
def plainStep (reversed : List Component) : Component → List Component
  | .here => reversed
  | .up => reversed.drop 1
  | other => other :: reversed

def plain (memory : Memory) (path : Path) : Path :=
  let start := if path.isAbsolute then [] else memory.cwd.components
  Path.ofComponents (path.components.foldl plainStep start.reverse).reverse

def entry? (memory : Memory) (path : Path) : Option Entry := memory.entries.lookup path

def put (path : Path) (entry : Entry) : List (Path × Entry) → List (Path × Entry)
  | [] => [(path, entry)]
  | (other, old) :: rest =>
    if other = path then (path, entry) :: rest else (other, old) :: put path entry rest

def setCwd (memory : Memory) (path : Path) : Memory := { memory with cwd := memory.plain path }

/-- Writes a file; everything above it becomes a directory. -/
def write (memory : Memory) (path : Path) (content : String) (time : Time) : Memory :=
  let path := memory.plain path
  let above := path.ancestors.drop 1
  { memory with
    entries := above.foldl (fun entries directory => put directory .directory entries)
      (put path (.file content time) memory.entries) }

def missing : FileError := ⟨.notFound, "File not found"⟩

def setModified (memory : Memory) (path : Path) (time : Time) : Except FileError Memory :=
  let path := memory.plain path
  match memory.entry? path with
  | some (.file content _) =>
    .ok { memory with entries := put path (.file content time) memory.entries }
  | _ => .error missing

def read (memory : Memory) (path : Path) : Except FileError String :=
  match memory.entry? (memory.plain path) with
  | none => .error missing
  | some (.file content _) => .ok content
  | some .directory => .error ⟨.invalidInput, "Path is a directory"⟩

/-- The modification time of an entry; that of a directory is the epoch. -/
def modified (memory : Memory) (path : Path) : Except FileError Time :=
  match memory.entry? (memory.plain path) with
  | none => .error missing
  | some (.file _ time) => .ok time
  | some .directory => .ok 0

def isFile (memory : Memory) (path : Path) : Bool :=
  match memory.entry? (memory.plain path) with
  | some (.file _ _) => true
  | _ => false

def filePaths (memory : Memory) : List Path :=
  memory.entries.filterMap fun
    | (path, .file _ _) => some path
    | (_, .directory) => none

/-- The files that match a pattern, which starts from the working directory if it is relative. -/
def glob (memory : Memory) (pattern : String) : List Path :=
  let pattern := FileSystem.anchor memory.cwd pattern
  let matching := memory.filePaths.filter fun path => Glob.Braces.accepts pattern path.text
  matching.mergeSort fun left right => !right.less left

def fileSystem (memory : Memory) : FileSystem where
  cwd := .ok memory.cwd
  read := memory.read
  modified := memory.modified
  isFile := memory.isFile
  glob pattern := .ok (memory.glob pattern)

end Memory

end StyleInline
