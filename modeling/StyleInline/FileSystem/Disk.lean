import StyleInline.FileSystem
import StyleInline.Glob.Wildcards

/-!
# Trees of files on a disk

A tree of files and directories under absolute paths.  A path is followed component by
component: every step but the last has to lead to a directory, and `..` goes back to the
directory above.
-/

namespace StyleInline

inductive DiskEntry where
  | file (content : ByteArray) (modified : Time)
  | directory
  deriving Inhabited

structure Disk where
  /-- Entries under their components from the root, without the root itself. -/
  entries : List (List String × DiskEntry)
  cwd : Path
  deriving Inhabited

namespace Disk

def missing : FileError := ⟨.notFound, "No such file or directory (os error 2)"⟩

def throughFile : FileError := ⟨.notDirectory, "Not a directory (os error 20)"⟩

def readDirectory : FileError := ⟨.isDirectory, "Is a directory (os error 21)"⟩

def invalidName : FileError :=
  ⟨.invalidInput, "file name contained an unexpected NUL byte"⟩

def invalidText : FileError := ⟨.invalidData, "stream did not contain valid UTF-8"⟩

def entry? (disk : Disk) (names : List String) : Option DiskEntry :=
  if names.isEmpty then some .directory else disk.entries.lookup names

/-- Something that a path leads to, and the components it stands under. -/
structure Found where
  names : List String
  entry : DiskEntry
  deriving Inhabited

/-- Follows the segments of a path, from a place that has been reached. -/
def follow (disk : Disk) (place : Found) : List String → Except FileError Found
  | [] => .ok place
  | segment :: rest =>
    match place.entry with
    | .file _ _ => .error throughFile
    | .directory =>
      if segment = "." then follow disk place rest
      else
        let names := if segment = ".." then place.names.dropLast else place.names ++ [segment]
        match disk.entry? names with
        | none => .error missing
        | some entry => follow disk ⟨names, entry⟩ rest

/-- The segments of a path to be followed; a separator at the end asks for a directory. -/
def segmentsOf (path : Path) : List String :=
  let segments := Path.segmentsOf path.text.toList
  let steps := (segments.filter (!·.isEmpty)).map String.ofList
  if segments.getLast? == some [] then steps ++ ["."] else steps

def find (disk : Disk) (path : Path) : Except FileError Found :=
  if path.text.isEmpty then .error missing
  else if path.text.toList.contains '\x00' then .error invalidName
  else
    let root : Found := ⟨[], .directory⟩
    if path.isAbsolute then disk.follow root (segmentsOf path)
    else do
      let start ← disk.follow root (segmentsOf disk.cwd)
      disk.follow start (segmentsOf path)

/-- The text of a file. -/
def read (disk : Disk) (path : Path) : Except FileError String := do
  match (← disk.find path).entry with
  | .directory => .error readDirectory
  | .file content _ =>
    match String.fromUTF8? content with
    | none => .error invalidText
    | some text => .ok text

def modified (disk : Disk) (path : Path) : Except FileError Time := do
  match (← disk.find path).entry with
  | .directory => .ok 0
  | .file _ time => .ok time

def isFile (disk : Disk) (path : Path) : Bool :=
  match disk.find path with
  | .ok ⟨_, .file _ _⟩ => true
  | _ => false

def leadsSomewhere (disk : Disk) (path : Path) : Bool := (disk.find path).toOption.isSome

def directory? (disk : Disk) (path : Path) : Option (List String) :=
  match disk.find path with
  | .ok ⟨names, .directory⟩ => some names
  | _ => none

def namesIn (disk : Disk) (directory : List String) : List String :=
  disk.entries.filterMap fun (names, _) =>
    if names.dropLast = directory then names.getLast? else none

def directoriesBelow (disk : Disk) (directory : List String) : List (List String) :=
  disk.entries.filterMap fun
    | (names, .directory) =>
      if directory.isPrefixOf names && directory != names then some (names.drop directory.length)
      else none
    | _ => none

open Glob.Wildcards (Segment)

def fitting (disk : Disk) (segment : Segment) (path : Path) : List Path :=
  match disk.directory? path with
  | none => []
  | some directory =>
    ((disk.namesIn directory).filter (segment.fits ·)).map fun name => path.join ⟨name⟩

/-- The paths by which a written-out or a special name is reached from a directory. -/
def reached (disk : Disk) (segment : Segment) (path : Path) : List Path :=
  match segment with
  | .name text =>
    let next := path.join ⟨text⟩
    if text = "." || text = ".." then if (disk.directory? path).isSome then [next] else []
    else if disk.leadsSomewhere next then [next] else []
  | _ =>
    let special := if segment.startsWithDot then [".", ".."].filter (segment.fits ·) else []
    disk.fitting segment path ++
      (if (disk.directory? path).isSome then special.map fun name => path.join ⟨name⟩ else [])

def withDirectories (disk : Disk) (path : Path) : List Path :=
  match disk.directory? path with
  | none => []
  | some directory =>
    path :: (disk.directoriesBelow directory).map fun names =>
      names.foldl (fun path name => path.join ⟨name⟩) path

def matching (disk : Disk) : List Segment → Path → List Path
  | [], path => [path]
  | [.directories], path => (disk.withDirectories path).drop 1
  | .directories :: segment :: rest, path =>
    (disk.withDirectories path).flatMap fun directory =>
      (disk.fitting segment directory).flatMap (matching disk rest)
  | segment :: rest, path => (disk.reached segment path).flatMap (matching disk rest)

/-- The files that match a pattern, which starts from the working directory if it is relative. -/
def glob (disk : Disk) (pattern : String) : Except FileError (List Path) :=
  match Glob.Wildcards.segments (FileSystem.anchor disk.cwd pattern) with
  | .error fault => .error ⟨.invalidInput, fault.message⟩
  | .ok segments =>
    let found := (disk.matching segments ⟨"/"⟩).filter disk.isFile
    .ok (found.mergeSort fun left right => !right.less left)

def fileSystem (disk : Disk) : FileSystem where
  cwd := .ok disk.cwd
  read := disk.read
  modified := disk.modified
  isFile := disk.isFile
  glob := disk.glob

/-- Puts an entry under some components; what was there before is replaced. -/
def put (names : List String) (entry : DiskEntry) (disk : Disk) : Disk :=
  { disk with entries := disk.entries.filter (·.1 != names) ++ [(names, entry)] }

/-- Makes directories of all places above some components and of the place itself. -/
def makeDirectories (names : List String) (disk : Disk) : Disk :=
  (List.range names.length).foldl (fun disk index => disk.put (names.take (index + 1)) .directory)
    disk

def namesOf (path : Path) : List String :=
  path.normalize.components.filterMap fun
    | .name text => some text
    | _ => none

def add (disk : Disk) (path : Path) (entry : DiskEntry) : Disk :=
  let names := namesOf path
  (disk.makeDirectories names.dropLast).put names entry

def ofEntries (base cwd : Path) (entries : List (Path × DiskEntry)) : Disk :=
  let start : Disk := makeDirectories (namesOf base) { entries := [], cwd }
  makeDirectories (namesOf cwd)
    (entries.foldl (fun disk (path, entry) => disk.add path entry) start)

end Disk

end StyleInline
