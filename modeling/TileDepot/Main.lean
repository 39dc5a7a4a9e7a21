import TileDepot.Command.Execution
import TileDepot.Server.Offline

/-!
# The program

Reads the configuration file, carries out the command line without a network, writes the files that
the command has made, and prints its report.
-/

namespace TileDepot.Program

/-- The machine: all it has is a memory cache. -/
def machine (home : Option String) : Command.Machine Cache.Entries where
  home
  clock := ⟨1970, 1, 1, 0, 0, 0, 0⟩
  surroundings := Server.offline id
  listen _ _ := return .error "Network is unreachable (os error 101)"

/-- The configuration file that a command line names. -/
def configPath (home : Option String) (line : List String) : String :=
  match Command.Arguments.parse line with
  | .ok arguments => arguments.config.getD (Command.defaultPath home)
  | .error _ => Command.defaultPath home

/-- The bytes of a file of the machine, if there is one. -/
def fileBytes? (path : String) : IO (Option Bytes) :=
  try return some (← IO.FS.readBinFile path).toList catch _ => return none

/-- There is something of the machine at a path. -/
def isThere (path : String) : IO Bool :=
  try let _ ← IO.FS.realPath path; return true catch _ => return false

/-- A disk with what stands along a path of the machine. -/
def readDisk (path : String) : IO Files.Disk := do
  let mut disk := Files.Disk.empty (Files.steps (toString (← IO.currentDir)))
  let mut place := if Files.isAbsolute path then [] else disk.home
  let mut walked := []
  for step in Files.steps path do
    walked := walked ++ [step]
    if step == ".." then place := place.dropLast
    else if step != "." then place := place ++ [step]
    let here := Files.ofComponents (Files.isAbsolute path) walked
    if let some bytes ← fileBytes? here then
      disk := { disk with files := (place, bytes) :: disk.files }
    else if ← isThere here then
      disk := { disk with directories := place :: disk.directories }
  return disk

/-- Makes the directories that are new and writes the files that have changed. -/
def writeDisk (before after : Files.Disk) : IO Unit := do
  for l in after.directories.reverse do
    unless before.directories.contains l do
      IO.FS.createDirAll (Files.ofComponents true l)
  for (l, bytes) in after.files do
    unless before.files.lookup l == some bytes do
      IO.FS.writeBinFile (Files.ofComponents true l) bytes.toByteArray

end TileDepot.Program

open TileDepot in
/-- Carries out the command line. -/
def main (line : List String) : IO UInt32 := do
  let home ← IO.getEnv "HOME"
  let disk ← Program.readDisk (Program.configPath home line)
  let ((report, after), _) :=
    (Command.runLine (Program.machine home) line disk).run Cache.Entries.empty
  Program.writeDisk disk after
  IO.print report.output
  IO.eprint report.errors
  return UInt32.ofNat report.code
