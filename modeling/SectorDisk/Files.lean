import SectorDisk.Value

/-!
# Files

The directory tree that backups are written to.  `Files.locate` walks a path and says which file it
opens for writing, or why it opens none; `Files.put` changes one file and no other.  Names are byte
strings, because that is what directories hold.
-/

namespace SectorDisk

/-! ## §1 Trees -/

/-- The name of a file or directory. -/
abbrev FileName := Bytes

/-- A place in the tree: the names on the way down from the root. -/
abbrev Location := List FileName

/-- Directories and files. -/
structure Files where
  /-- The directories. -/
  directories : List Location
  /-- The files and what they hold. -/
  contents : List (Location × Bytes)
  /-- Where relative paths begin. -/
  home : Location
  deriving DecidableEq

/-- Why a path cannot be used. -/
inductive FileProblem where
  /-- The path is empty, or a directory on the way does not exist. -/
  | missing
  /-- There is something at the place already. -/
  | occupied
  /-- A file stands where a directory should. -/
  | notDirectory
  /-- A directory stands where a file should. -/
  | isDirectory
  /-- The path or one of its names is too long. -/
  | tooLong
  deriving DecidableEq, Repr

namespace FileProblem

/-- The number that systems know the problem by. -/
def code : FileProblem → Nat
  | missing => 2
  | occupied => 17
  | notDirectory => 20
  | isDirectory => 21
  | tooLong => 36

/-- The text that systems know the problem by. -/
def text : FileProblem → String
  | missing => "No such file or directory"
  | occupied => "File exists"
  | notDirectory => "Not a directory"
  | isDirectory => "Is a directory"
  | tooLong => "File name too long"

/-- The problem as an error object about a path. -/
def toValue (problem : FileProblem) (path : Value) : Value :=
  .error "OSError" [.int problem.code, .string problem.text, path]

end FileProblem

/-! ## §2 Paths -/

/-- The slash between names. -/
def slashByte : UInt8 := 47

/-- The name of a directory within itself. -/
def hereName : FileName := [46]

/-- The name of the directory above. -/
def aboveName : FileName := [46, 46]

/-- The most bytes in a path. -/
def pathLimit : Nat := 4095

/-- The most bytes in a name. -/
def nameLimit : Nat := 255

/-- A path taken apart. -/
structure PathParts where
  /-- Whether it begins at the root. -/
  isAbsolute : Bool
  /-- The names but the last. -/
  parents : List FileName
  /-- The last name; a path of slashes has none. -/
  last : Option FileName
  /-- Whether a slash follows the last name. -/
  asDirectory : Bool

/-- The pieces between slashes. -/
def slashPieces : Bytes → List FileName
  | [] => [[]]
  | b :: rest =>
    if b = slashByte then [] :: slashPieces rest
    else
      match slashPieces rest with
      | [] => [[b]]
      | piece :: pieces => (b :: piece) :: pieces

/-- Takes a path apart; several slashes in a row count as one. -/
def PathParts.ofBytes (path : Bytes) : PathParts :=
  let names := (slashPieces path).filter (!·.isEmpty)
  { isAbsolute := path.head? == some slashByte
    parents := names.dropLast
    last := names.getLast?
    asDirectory := path.getLast? == some slashByte }

namespace Files

/-- Whether there is a directory at the place. -/
def hasDirectory (files : Files) (place : Location) : Bool :=
  files.directories.contains place

/-- What the file at the place holds. -/
def content? (files : Files) (place : Location) : Option Bytes :=
  files.contents.lookup place

/-- Goes down from a directory through the given names, each of which must be a directory. -/
def walk (files : Files) (place : Location) : List FileName → Except FileProblem Location
  | [] => .ok place
  | name :: rest =>
    if name = hereName then files.walk place rest
    else if name = aboveName then files.walk place.dropLast rest
    else if nameLimit < name.length then .error .tooLong
    else if files.hasDirectory (place ++ [name]) then files.walk (place ++ [name]) rest
    else if (files.content? (place ++ [name])).isSome then .error .notDirectory
    else .error .missing

/-- Where the walk along a path begins. -/
def origin (files : Files) (parts : PathParts) : Location :=
  if parts.isAbsolute then [] else files.home

/-- The directory in which the last name of a path stands, and the path taken apart. -/
def approach (files : Files) (path : Bytes) : Except FileProblem (Location × PathParts) := do
  if path.isEmpty then throw .missing
  if pathLimit < path.length then throw .tooLong
  let parts := PathParts.ofBytes path
  return (← files.walk (files.origin parts) parts.parents, parts)

/-- The file that a path opens for writing, whether it exists or not. -/
def locate (files : Files) (path : Bytes) : Except FileProblem Location := do
  let (place, parts) ← files.approach path
  match parts.last with
  | none => throw .isDirectory
  | some name =>
    if name = hereName ∨ name = aboveName ∨ parts.asDirectory = true then throw .isDirectory
    if nameLimit < name.length then throw .tooLong
    if files.hasDirectory (place ++ [name]) then throw .isDirectory
    return place ++ [name]

/-- The place at which a path makes a new directory. -/
def vacancy (files : Files) (path : Bytes) : Except FileProblem Location := do
  let (place, parts) ← files.approach path
  match parts.last with
  | none => throw .occupied
  | some name =>
    if name = hereName ∨ name = aboveName then throw .occupied
    if nameLimit < name.length then throw .tooLong
    let place := place ++ [name]
    if files.hasDirectory place || (files.content? place).isSome then throw .occupied
    return place

/-! ## §3 Changes -/

/-- The tree with the given content in one file, which is made if it does not exist. -/
def put (files : Files) (place : Location) (content : Bytes) : Files :=
  { files with
    contents :=
      if (files.content? place).isSome then
        files.contents.map fun entry => if entry.1 = place then (place, content) else entry
      else files.contents ++ [(place, content)] }

/-- The tree with a new directory. -/
def addDirectory (files : Files) (place : Location) : Files :=
  { files with directories := files.directories ++ [place] }

/-- Writes a whole file. -/
def save (files : Files) (path content : Bytes) : Except FileProblem Files := do
  return files.put (← files.locate path) content

/-- Makes a directory. -/
def makeDirectory (files : Files) (path : Bytes) : Except FileProblem Files := do
  return files.addDirectory (← files.vacancy path)

/-! ## §4 Views -/

/-- The directory for temporary files. -/
def temporary : FileName := Text.Utf8.encode "tmp"

/-- The directories that every system has below its root, besides that for temporary files. -/
def systemDirectories : List FileName :=
  ["bin", "boot", "dev", "etc", "home", "lib", "media", "mnt", "opt", "proc", "root", "run",
    "sbin", "srv", "sys", "usr", "var"].map Text.Utf8.encode

/-- A tree that holds nothing but directories: those of the system and an empty one to work in. -/
def empty : Files :=
  let home := [temporary, Text.Utf8.encode "work"]
  ⟨[] :: (temporary :: systemDirectories).map ([·]) ++ [home], [], home⟩

/-- A relative path from names. -/
def joined : List FileName → Bytes
  | [] => []
  | [name] => name
  | name :: rest => name ++ slashByte :: joined rest

/-- The files below the working directory by relative path. -/
def entries (files : Files) : List (Bytes × Bytes) :=
  files.contents.filterMap fun entry =>
    if files.home.isPrefixOf entry.1 then
      some (joined (entry.1.drop files.home.length), entry.2)
    else none

/-- Whether one path comes before another: byte by byte. -/
def precedes : Bytes → Bytes → Bool
  | [], _ => true
  | _ :: _, [] => false
  | a :: as, b :: bs => a < b || (a == b && precedes as bs)

/-- The files below the working directory, sorted by path. -/
def listing (files : Files) : List (Bytes × Bytes) :=
  files.entries.mergeSort fun x y => precedes x.1 y.1

end Files

end SectorDisk
