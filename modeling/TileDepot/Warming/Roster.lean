import TileDepot.Warming.Task

/-!
# The roster of tasks

Which run owns a task's name. A later run of the same name takes it over, and only the owner gives
it back. Runs are told apart by their numbers.
-/

namespace TileDepot.Warming

/-- The owners of names, in ascending order of the names. -/
structure Roster where
  entries : List (String × Nat)

namespace Roster

def empty : Roster := ⟨[]⟩

/-- The run that owns a name. -/
def get? (r : Roster) (id : String) : Option Nat :=
  r.entries.lookup id

/-- The entries with one more, in order; one of the same name gives way. -/
def insertEntry (id : String) (run : Nat) : List (String × Nat) → List (String × Nat)
  | [] => [(id, run)]
  | (id', run') :: es =>
    if id == id' then (id, run) :: es
    else if id < id' then (id, run) :: (id', run') :: es
    else (id', run') :: insertEntry id run es

/-- Gives a name to a run. -/
def register (r : Roster) (id : String) (run : Nat) : Roster :=
  ⟨insertEntry id run r.entries⟩

/-- The other run that would lose a name. -/
def displaced? (r : Roster) (id : String) (run : Nat) : Option Nat :=
  (r.get? id).filter (· != run)

/-- A run owns a name. -/
def isCurrent (r : Roster) (id : String) (run : Nat) : Bool :=
  r.get? id == some run

/-- A run gives its name back, if the name is still its own. -/
def removeIfCurrent (r : Roster) (id : String) (run : Nat) : Roster :=
  if r.isCurrent id run then ⟨r.entries.filter fun e => e.1 != id⟩ else r

/-- The registered runs in order of their names. -/
def runs (r : Roster) : List Nat :=
  r.entries.map (·.2)

def size (r : Roster) : Nat :=
  r.entries.length

end Roster

end TileDepot.Warming
