import TileDepot.Server.Startup
import TileDepot.Files.LogFile

/-!
# Reports

What a command prints and how it ends. A command that fails says why, what that was caused by, and
for some causes what can be done about it.
-/

namespace TileDepot.Command

/-- Why a command failed. -/
inductive Failure where
  | logging (cause : Files.LogFile.Fault)
  | setting (reason : String)
  /-- The settings could not be loaded or saved. -/
  | file (reason : String)
  | start (cause : Server.StartError)
  | cache (cause : Cache.Error)
  | path (cause : Tile.KeyError)
  | run (cause : Warming.Error)

namespace Failure

def message : Failure → String
  | .logging cause => "Failed to initialize logging: " ++ cause.message
  | .setting reason => "Configuration error: " ++ reason
  | .file reason => reason
  | .start cause => cause.message
  | .cache cause => "Cache error: " ++ cause.message
  | .path cause => cause.message
  | .run cause => "Invalid bulk run: " ++ cause.message

/-- What the causes of a failure say, the nearest one first. -/
def causes : Failure → List String
  | .start cause => cause.causes
  | .cache cause => [cause.message]
  | _ => []

/-- What can be done. -/
def advice : Failure → List String
  | .start (.cache _) =>
    ["", "Check the [cache] section of your config.ini, or set", "  backend = memory",
      "to run without Redis."]
  | .start (.missing _) => ["", "Run 'tilecache config path' to find the config file."]
  | _ => []

/-- All lines about a failure. -/
def lines (f : Failure) : List String :=
  ["Error: " ++ f.message] ++ (f.causes.map fun c => "  caused by: " ++ c) ++ f.advice

end Failure

/-- How a command ended. -/
structure Report where
  code : Nat
  /-- What it printed. -/
  output : String
  /-- What it printed as errors. -/
  errors : String
  deriving Repr, DecidableEq

namespace Report

def text (lines : List String) : String :=
  String.join (lines.map (· ++ "\n"))

def success (output : String) : Report :=
  ⟨0, output, ""⟩

/-- A failure after some output. -/
def failure (output : String) (f : Failure) : Report :=
  ⟨1, output, text f.lines⟩

/-- The program stops at a fault of its own. -/
def stopped (reason : String) : Report :=
  ⟨101, "", reason ++ "\n"⟩

/-- The report of what has been printed and how it ended. -/
def ofResult (output : String) : Except Failure String → Report
  | .ok more => success (output ++ more)
  | .error f => failure output f

end Report

end TileDepot.Command
