import TileDepot.Text.Quoted
import TileDepot.Text.Timestamp
import TileDepot.Warming.Plan
import TileDepot.Warming.Snapshot

/-!
# Tasks

A task is one run: its tiles, how many of them are done, and where the run stands. A throttle says
which completions are worth an update.
-/

namespace TileDepot.Warming

/-- When an update is due: after so many tiles, or after so much of the whole. -/
structure Throttle where
  tileStep : Nat
  percentStep : Float

namespace Throttle

/-- Ten tiles, or five percent. -/
def default : Throttle := ⟨10, 5.0⟩

/-- An update is due after `completed` tiles when the last one was sent after `last`. The last tile
always has one. -/
def isDue (t : Throttle) (completed last total : Nat) : Bool :=
  if total ≤ completed then true
  else
    let advanced := completed - last
    if t.tileStep ≤ advanced then true
    else toFloat advanced / toFloat total * 100.0 ≥ t.percentStep

end Throttle

/-- Where a run stands. -/
inductive State where
  | pending
  | running
  | completed
  | cancelled
  deriving Repr, DecidableEq, Inhabited

namespace State

def name : State → String
  | .pending => "pending"
  | .running => "running"
  | .completed => "completed"
  | .cancelled => "cancelled"

/-- The name as a log shows it. -/
def label : State → String
  | .pending => "Pending"
  | .running => "Running"
  | .completed => "Completed"
  | .cancelled => "Cancelled"

def isFinished (s : State) : Bool :=
  s == .completed || s == .cancelled

end State

/-- A run with its progress. -/
structure Task where
  id : String
  /-- The box, if the task was made for one. -/
  bounds : Option Grid.Bounds
  zooms : List UInt32
  ranges : List Grid.Range
  total : Nat
  startedAt : Timestamp
  /-- Every tile that was tried counts, also one that failed. -/
  completed : Nat
  failed : Nat
  /-- How many were completed at the last update. -/
  lastSent : Nat
  state : State
  /-- The run has been asked to stop. -/
  isCancelled : Bool
  deriving Inhabited

namespace Task

/-- The items without those that equal the one before. -/
def dedup : List UInt32 → List UInt32
  | a :: b :: r => if a == b then dedup (b :: r) else a :: dedup (b :: r)
  | l => l

/-- A task for ranges of tiles that have been counted. -/
def counted (id : String) (ranges : List Grid.Range) (total : UInt64) (startedAt : Timestamp) :
    Task where
  id
  bounds := none
  zooms := dedup (ranges.map (·.zoom))
  ranges
  total := total.toNat
  startedAt
  completed := 0
  failed := 0
  lastSent := 0
  state := .pending
  isCancelled := false

/-- A task for ranges of tiles, if they can be counted. -/
def ofRanges? (id : String) (ranges : List Grid.Range) (startedAt : Timestamp) : Option Task :=
  (Grid.totalCount? ranges).map fun total => counted id ranges total startedAt

/-- A task for a plan, if there is a grid at each of its levels and its tiles can be counted. -/
def ofPlan? (p : Plan) (startedAt : Timestamp) : Option Task :=
  if p.zooms.all Grid.hasGrid then
    (ofRanges? p.task p.ranges startedAt).map fun t => { t with bounds := some p.bounds }
  else none

/-- The progress at this moment. -/
def snapshot (t : Task) : Snapshot :=
  .of t.id t.completed t.total (!t.state.isFinished && t.completed < t.total)

/-- The run begins, unless it has done so before. -/
def markRunning (t : Task) : Task :=
  if t.state == .pending then { t with state := .running } else t

/-- Asks the run to stop. -/
def cancel (t : Task) : Task :=
  { t with isCancelled := true }

/-- Counts one tile. The snapshot is there if an update is due. -/
def record (t : Task) (success : Bool) (throttle : Throttle) : Task × Option Snapshot :=
  let counted := { t with
    completed := t.completed + 1
    failed := if success then t.failed else t.failed + 1 }
  if throttle.isDue counted.completed counted.lastSent counted.total then
    let sent := { counted with lastSent := counted.completed }
    (sent, some sent.snapshot)
  else (counted, none)

/-- The run ends. -/
def finish (t : Task) (state : State) : Task × Snapshot :=
  let ended := { t with state, lastSent := t.completed }
  (ended, ended.snapshot)

/-- The task as logs show it. -/
def summary (t : Task) : String :=
  "TileTask \x7b id: " ++ Text.quoted t.id ++ ", zoom_levels: [" ++
    ", ".intercalate (t.zooms.map fun z => toString z.toNat) ++ "], total: " ++
    toString t.total ++ ", state: " ++ t.state.label ++ " \x7d"

end Task

end TileDepot.Warming
