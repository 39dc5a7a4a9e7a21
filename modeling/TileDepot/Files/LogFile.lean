import TileDepot.Files.Disk

/-!
# The log file

A log may be copied to a file, which is emptied when the log begins.
-/

namespace TileDepot.Files.LogFile

/-- Why there is no log file. -/
inductive Fault where
  | noFileName (path : String)
  | disk (cause : Files.Fault)
  deriving Repr, DecidableEq

def Fault.message : Fault → String
  | .noFileName path => "log path '" ++ path ++ "' has no file name"
  | .disk cause => cause.message

/-- Makes an empty log file with its directory, if a file is wanted. -/
def create (file : Option String) (d : Disk) : Except Fault Disk :=
  match file with
  | none => .ok d
  | some path =>
    match fileName? path with
    | none => .error (.noFileName path)
    | some _ => (do (← d.makeDirectories (parent path)).write path []).mapError .disk

end TileDepot.Files.LogFile
