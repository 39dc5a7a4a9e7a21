import TileDepot.Warming.Audience
import TileDepot.Warming.Roster
import TileDepot.Warming.Run

/-!
# The desk

The desk holds all runs with the roster of their tasks, the queue of updates and the audience. An
update that finds no place in the queue is lost; a final update waits for one. Updates leave the
queue one at a time for the channels of those who follow the task.
-/

namespace TileDepot.Warming

/-- All runs and what goes on around them. -/
structure Desk where
  settings : RunSettings
  /-- Runs by number. A task that is only registered is a run that never begins. -/
  runs : Array Run
  roster : Roster
  queue : List Snapshot
  /-- The runs whose final update waits for a place in the queue, the first one first. -/
  waiters : List Nat
  /-- The runs that have been given a place. -/
  granted : List Nat
  audience : Audience

namespace Desk

def ofSettings (settings : RunSettings) : Desk :=
  ⟨settings, #[], .empty, [], [], [], .empty⟩

/-- There is a free place in the queue. -/
def hasRoom (d : Desk) : Bool :=
  d.queue.length + d.granted.length < d.settings.queueCapacity

/-- The final update of this run has a place. -/
def hasRoomFor (d : Desk) (run : Nat) : Bool :=
  d.granted.contains run || d.hasRoom

/-- Puts an update into the queue, or drops it. -/
def offer (d : Desk) (s : Snapshot) : Desk :=
  if d.hasRoom then { d with queue := d.queue ++ [s] } else d

/-- Gives a run a new state. -/
def setRun (d : Desk) (run : Nat) (r : Run) : Desk :=
  { d with runs := d.runs.setIfInBounds run r }

/-- Adds a run and gives it its task's name. -/
def register (d : Desk) (task : Task) : Nat × Desk :=
  let run := d.runs.size
  (run, { d with runs := d.runs.push (.ofTask task), roster := d.roster.register task.id run })

/-- The run that owns a task's name. -/
def find? (d : Desk) (id : String) : Option (Nat × Run) := do
  let run ← d.roster.get? id
  let r ← d.runs[run]?
  return (run, r)

/-- The progress of the run that owns a name. -/
def progress (d : Desk) (id : String) : Snapshot :=
  match d.find? id with
  | some (_, r) => r.task.snapshot
  | none => .notRunning id

/-- The registered tasks in order of their names. -/
def tasks (d : Desk) : List Task :=
  d.roster.runs.filterMap fun run => d.runs[run]?.map (·.task)

/-- Asks a run to stop. -/
def cancelRun (d : Desk) (run : Nat) : Desk :=
  { d with runs := d.runs.modify run Run.cancel }

/-- Asks the run that owns a name to stop, if there is one. -/
def cancel (d : Desk) (id : String) : Bool × Desk :=
  match d.roster.get? id with
  | some run => (true, d.cancelRun run)
  | none => (false, d)

/-- The move that is due for a run. -/
def next? (d : Desk) (run : Nat) (delayPassed : Bool) : Option Move :=
  match d.runs[run]? with
  | some r => r.next? d.settings.maxConcurrent delayPassed (d.hasRoomFor run)
  | none => none

/-- What an effect does at the desk. -/
def carryOut (d : Desk) (run : Nat) (id : String) : Effect → Desk
  | .none => d
  | .submitted _ => d
  | .update s => d.offer s
  | .final s =>
    { d with
      queue := d.queue ++ [s]
      granted := d.granted.filter (· != run) }
  | .left => { d with roster := d.roster.removeIfCurrent id run }

/-- Makes a move of a run. The tile that it handed out is the result. -/
def apply (d : Desk) (run : Nat) (m : Move) : Option Grid.TileId × Desk :=
  match d.runs[run]? with
  | none => (none, d)
  | some r =>
    let (r', effect) := r.apply m
    let d := (d.setRun run r').carryOut run r.task.id effect
    match effect with
    | .submitted tile => (some tile, d)
    | _ => (none, d)

/-- A tile of a run comes back. -/
def complete (d : Desk) (run : Nat) (success : Bool) : Desk :=
  match d.runs[run]? with
  | none => d
  | some r =>
    let (r', effect) := r.complete success d.settings.throttle
    (d.setRun run r').carryOut run r.task.id effect

/-- A run that cannot close for want of a place gets in line for one. -/
def lineUp (d : Desk) (run : Nat) : Desk :=
  match d.runs[run]? with
  | none => d
  | some r =>
    match r.phase with
    | .closing _ _ =>
      if d.waiters.contains run || d.hasRoomFor run then d
      else { d with waiters := d.waiters ++ [run] }
    | _ => d

/-- Takes the oldest update out of the queue. Its place goes to the first run in line. -/
def takeUpdate? (d : Desk) : Option (Snapshot × Desk) :=
  match d.queue with
  | [] => none
  | s :: rest =>
    let (waiters, granted) := match d.waiters with
      | [] => ([], d.granted)
      | run :: more => (more, d.granted ++ [run])
    some (s, { d with queue := rest, waiters, granted })

/-- Sends an update to those who follow its task. -/
def publish (d : Desk) (s : Snapshot) : Desk :=
  { d with audience := (d.audience.publish s).2 }

/-- Sends the oldest update on. -/
def dispatch? (d : Desk) : Option Desk :=
  d.takeUpdate?.map fun (s, d) => d.publish s

end Desk

end TileDepot.Warming
