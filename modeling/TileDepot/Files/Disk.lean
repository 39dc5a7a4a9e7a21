import TileDepot.Files.Path
import TileDepot.Text.Bytes

/-!
# Disks

The files that a program reads and writes: a tree of directories, with one of them to start from. A
path is followed step by step, and every step but the last has to lead to a directory, even one that
is left again at once.
-/

namespace TileDepot.Files

/-- Why a file cannot be used. -/
inductive Fault where
  | notFound
  | alreadyExists
  | notADirectory
  | isADirectory
  /-- A step or the whole path is longer than the disk allows. -/
  | nameTooLong
  /-- The path holds a character that no name can hold. -/
  | badName
  deriving Repr, DecidableEq

def Fault.message : Fault → String
  | .notFound => "No such file or directory (os error 2)"
  | .alreadyExists => "File exists (os error 17)"
  | .notADirectory => "Not a directory (os error 20)"
  | .isADirectory => "Is a directory (os error 21)"
  | .nameTooLong => "File name too long (os error 36)"
  | .badName => "file name contained an unexpected NUL byte"

/-- A place in the tree, as the names from the root. -/
abbrev Location := List String

/-- What stands at a place. -/
inductive Entry where
  | file (bytes : Bytes)
  | directory
  deriving Repr, DecidableEq

/-- The files of a machine. -/
structure Disk where
  files : List (Location × Bytes)
  /-- All directories but the root. -/
  directories : List Location
  /-- Where relative paths begin. -/
  home : Location

/-- The most bytes of a name. -/
def nameLimit : Nat := 255

/-- No path has as many bytes as this. -/
def pathLimit : Nat := 4096

/-- Where a path leads. -/
inductive Target where
  /-- The path ends in dots, and so at a directory. -/
  | directory (l : Location)
  /-- The path ends in a name, which may be new to the directory that it stands in. -/
  | name (l : Location)
  deriving Repr, DecidableEq

namespace Disk

/-- A disk with nothing but the directory to start from. -/
def empty (home : Location) : Disk :=
  ⟨[], (List.range home.length).map fun n => home.take (n + 1), home⟩

/-- What stands at a place, if anything does. -/
def entry? (d : Disk) (l : Location) : Option Entry :=
  if l.isEmpty || d.directories.contains l then some .directory
  else (d.files.lookup l).map .file

/-- The last name of a place is longer than names may be. -/
def isOverlong (l : Location) : Bool :=
  l.getLast?.any (nameLimit < ·.utf8ByteSize)

/-- One step from a directory to a directory. -/
def enter (d : Disk) (l : Location) (step : String) : Except Fault Location := do
  if step == "." then return l
  else if step == ".." then return l.dropLast
  else if isOverlong (l ++ [step]) then .error .nameTooLong
  else
    match d.entry? (l ++ [step]) with
    | some .directory => return l ++ [step]
    | some (.file _) => .error .notADirectory
    | none => .error .notFound

/-- Follows a path up to its last step. -/
def target (d : Disk) (path : String) : Except Fault Target := do
  if path.toList.contains '\x00' then .error .badName
  if pathLimit ≤ path.utf8ByteSize then .error .nameTooLong
  let inner ← (steps path).dropLast.foldlM d.enter (if isAbsolute path then [] else d.home)
  match (steps path).getLast? with
  | none => return .directory inner
  | some "." => return .directory inner
  | some ".." => return .directory inner.dropLast
  | some name => return .name (inner ++ [name])

/-- What stands at the place that a path leads to. A slash at its end asks for a directory. -/
def find (d : Disk) (path : String) : Except Fault Entry := do
  match ← d.target path with
  | .directory _ => return .directory
  | .name l =>
    if isOverlong l then .error .nameTooLong
    else
      match d.entry? l with
      | none => .error .notFound
      | some .directory => return .directory
      | some (.file bytes) =>
        if endsInSlash path then .error .notADirectory else return .file bytes

/-- There is a file or a directory at a path. -/
def holds (d : Disk) (path : String) : Bool :=
  (d.find path).isOk

/-- There is a directory at a path. -/
def holdsDirectory (d : Disk) (path : String) : Bool :=
  match d.find path with
  | .ok .directory => true
  | _ => false

/-- Reads a file. -/
def read (d : Disk) (path : String) : Except Fault Bytes := do
  match ← d.find path with
  | .file bytes => return bytes
  | .directory => .error .isADirectory

/-- Writes a file; its directory must be there. -/
def write (d : Disk) (path : String) (bytes : Bytes) : Except Fault Disk := do
  match ← d.target path with
  | .directory _ => .error .isADirectory
  | .name l =>
    if endsInSlash path || d.entry? l == some .directory then .error .isADirectory
    else if isOverlong l then .error .nameTooLong
    else return { d with files := (l, bytes) :: d.files.filter fun f => f.1 != l }

/-- Makes a directory in one that is there. -/
def makeDirectory (d : Disk) (path : String) : Except Fault Disk := do
  match ← d.target path with
  | .directory _ => .error .alreadyExists
  | .name l =>
    if isOverlong l then .error .nameTooLong
    else if (d.entry? l).isSome then .error .alreadyExists
    else return { d with directories := l :: d.directories }

/-- Makes a directory unless it is there. -/
def ensureDirectory (d : Disk) (path : String) : Except Fault Disk :=
  match d.makeDirectory path with
  | .error .alreadyExists => if d.holdsDirectory path then .ok d else .error .alreadyExists
  | made => made

/-- Makes a directory with all directories above it, given its components backwards. What is above
is made only if the directory cannot be made without it. -/
def ensureAll (d : Disk) (absolute : Bool) : List String → Except Fault Disk
  | [] => .ok d
  | last :: above =>
    let path := ofComponents absolute (last :: above).reverse
    match d.ensureDirectory path with
    | .error .notFound => do (← d.ensureAll absolute above).ensureDirectory path
    | made => made

/-- Makes a directory with all directories above it. -/
def makeDirectories (d : Disk) (path : String) : Except Fault Disk :=
  d.ensureAll (isAbsolute path) (components path).reverse

end Disk

end TileDepot.Files
