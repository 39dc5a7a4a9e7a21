import TileDepot.Text.Table

/-!
# Paths

A path is a text with slashes between its steps. Empty steps do not count. A single dot stays where
it is, and two dots lead back.
-/

namespace TileDepot.Files

/-- The steps of a path, with the dots among them. -/
def steps (path : String) : List String :=
  ((Text.pieces '/' path.toList).map String.ofList).filter (· != "")

/-- A path that begins at the root. -/
def isAbsolute (path : String) : Bool :=
  path.toList.head? == some '/'

/-- A path that ends in a slash. -/
def endsInSlash (path : String) : Bool :=
  path.toList.getLast? == some '/'

/-- The steps of a path by which it is taken apart: a single dot counts only where a relative path
begins with it. -/
def components (path : String) : List String :=
  let rest := (steps path).filter (· != ".")
  if !isAbsolute path && (steps path).head? == some "." then "." :: rest else rest

/-- The path of components. -/
def ofComponents (absolute : Bool) (parts : List String) : String :=
  (if absolute then "/" else "") ++ "/".intercalate parts

/-- The name of the file that a path leads to. -/
def fileName? (path : String) : Option String :=
  (components path).getLast?.filter fun name => name != "." && name != ".."

/-- The path of the directory that holds the file; it is empty for a bare name. -/
def parent (path : String) : String :=
  ofComponents (isAbsolute path) (components path).dropLast

end TileDepot.Files
