import TileDepot.Grid.Range
import TileDepot.Text.Duration
import TileDepot.Warming.Task

/-!
# Runs

A run hands out the tiles of its task one by one, so many at a time, waits for all of them, and ends
with a final update. Each thing a run can do by itself is a `Move`; `Run.next?` says which move is
due, and `Run.apply` makes it. What happens to a run from outside is a tile that comes back and a
request to stop.
-/

namespace TileDepot.Warming

/-- How runs are carried out. -/
structure RunSettings where
  /-- How many tiles of one run may be out at once. -/
  maxConcurrent : Nat := 15
  tileTimeout : Duration := .ofSeconds 30
  throttle : Throttle := .default
  /-- How many updates may wait to be sent on. -/
  queueCapacity : Nat := 256
  /-- The first update is held back for this long, so that clients have time to subscribe. An update
  that the throttle asks for is not. -/
  initialDelay : Duration := .ofMillis 100
  /-- The map whose tiles are asked for. -/
  map : String := "inference_database"

/-- The same settings with room for at least one tile and one update. -/
def RunSettings.clamped (s : RunSettings) : RunSettings :=
  { s with maxConcurrent := max s.maxConcurrent 1, queueCapacity := max s.queueCapacity 1 }

/-- What became of a run. -/
structure Summary where
  task : String
  total : Nat
  completed : Nat
  failed : Nat
  isCancelled : Bool
  deriving Repr, DecidableEq

def Summary.succeeded (s : Summary) : Nat :=
  s.completed - s.failed

/-- How far a run has come. -/
inductive Phase where
  /-- Not begun. -/
  | waiting
  /-- Tiles are handed out. -/
  | submitting
  /-- All tiles are out, or no more will be; those that are out are waited for. -/
  | draining
  /-- All is done before the initial delay has passed. -/
  | holding (summary : Summary)
  /-- The final update waits for its place in the queue. -/
  | closing (final : Snapshot) (summary : Summary)
  /-- The final update is in the queue, and the run still holds its task's name. -/
  | leaving (summary : Summary)
  | ended (summary : Summary)

/-- A task that is being carried out. -/
structure Run where
  task : Task
  phase : Phase
  /-- The tiles that are not handed out yet. -/
  walk : Grid.Walk
  /-- How many tiles are out. -/
  inFlight : Nat
  /-- How many tiles have come back and are not put away yet. -/
  returned : Nat
  /-- The update after the initial delay has been seen to. -/
  firstSent : Bool

/-- What a run does by itself. -/
inductive Move where
  | begin
  | sendFirst
  | submit
  | stop
  | exhaust
  /-- Puts one tile away that has come back. -/
  | collect
  | settle
  | release
  | close
  | leave
  deriving Repr, DecidableEq

/-- What a move costs; a turn has only so much to spend. -/
def Move.cost : Move → Nat
  | .sendFirst | .submit | .collect | .release | .close => 1
  | .begin | .stop | .exhaust | .settle | .leave => 0

/-- What comes of a move outside the run. -/
inductive Effect where
  | none
  | submitted (tile : Grid.TileId)
  /-- An update that may get lost. -/
  | update (s : Snapshot)
  /-- The last update of the run, which is not lost. -/
  | final (s : Snapshot)
  /-- The task's name is given back. -/
  | left

namespace Run

def ofTask (task : Task) : Run :=
  ⟨task, .waiting, .start task.ranges, 0, 0, false⟩

/-- The progress, if it is not the final one. -/
def runningUpdate (r : Run) : Effect :=
  if r.task.snapshot.isRunning then .update r.task.snapshot else .none

/-- The move that is due when at most `limit` tiles may be out. Stopping comes before the first
update, and that before handing out tiles. -/
def next? (limit : Nat) (delayPassed hasRoom : Bool) (r : Run) : Option Move :=
  match r.phase with
  | .waiting => some .begin
  | .submitting =>
    if r.walk.next?.isNone then some .exhaust
    else if r.task.isCancelled then some .stop
    else if delayPassed && !r.firstSent then some .sendFirst
    else if r.inFlight < limit then some .submit
    else none
  | .draining =>
    if delayPassed && !r.firstSent then some .sendFirst
    else if 0 < r.returned then some .collect
    else if r.inFlight == 0 then some .settle
    else none
  | .holding _ => if delayPassed then some .release else none
  | .closing _ _ => if hasRoom then some .close else none
  | .leaving _ => some .leave
  | .ended _ => none

/-- What the run comes to when nothing is out any more. -/
def summary (r : Run) : Summary where
  task := r.task.id
  total := r.task.total
  completed := r.task.completed
  failed := r.task.failed
  isCancelled := r.task.isCancelled && r.task.completed < r.task.total

/-- Ends the task; the final update has to be sent yet. -/
def conclude (r : Run) (s : Summary) : Run :=
  let (task, final) := r.task.finish (if s.isCancelled then .cancelled else .completed)
  { r with task, phase := .closing final s }

/-- Makes a move. -/
def apply (r : Run) : Move → Run × Effect
  | .begin => ({ r with task := r.task.markRunning, phase := .submitting }, .none)
  | .sendFirst => ({ r with firstSent := true }, r.runningUpdate)
  | .submit =>
    match r.walk.next? with
    | some (tile, walk) => ({ r with walk, inFlight := r.inFlight + 1 }, .submitted tile)
    | none => (r, .none)
  | .stop => ({ r with phase := .draining }, .none)
  | .exhaust => ({ r with phase := .draining }, .none)
  | .collect => ({ r with returned := r.returned - 1 }, .none)
  | .settle =>
    let s := r.summary
    if !r.firstSent && !s.isCancelled then ({ r with phase := .holding s }, .none)
    else (r.conclude s, .none)
  | .release =>
    match r.phase with
    | .holding s => (r.conclude s, .none)
    | _ => (r, .none)
  | .close =>
    match r.phase with
    | .closing final s => ({ r with phase := .leaving s }, .final final)
    | _ => (r, .none)
  | .leave =>
    match r.phase with
    | .leaving s => ({ r with phase := .ended s }, .left)
    | _ => (r, .none)

/-- Counts a tile. The update for the last one is left to the end of the run. -/
def count (r : Run) (success : Bool) (throttle : Throttle) : Run × Effect :=
  let (task, due) := r.task.record success throttle
  ({ r with task }, match due with
    | some s => if s.isRunning then .update s else .none
    | none => .none)

/-- The place of a tile that has come back is free for another. -/
def freePlace (r : Run) : Run :=
  { r with inFlight := r.inFlight - 1, returned := r.returned + 1 }

/-- A tile comes back. It does not count once the run has been asked to stop. -/
def complete (r : Run) (success : Bool) (throttle : Throttle) : Run × Effect :=
  let (r, effect) := if r.task.isCancelled then (r, .none) else r.count success throttle
  (r.freePlace, effect)

/-- The run is asked to stop. -/
def cancel (r : Run) : Run :=
  { r with task := r.task.cancel }

def summary? (r : Run) : Option Summary :=
  match r.phase with
  | .ended s => some s
  | _ => none

/-- Nothing is left to do. -/
def hasEnded (r : Run) : Bool :=
  r.summary?.isSome

/-- Tiles are handed out. -/
def isSubmitting (r : Run) : Bool :=
  match r.phase with
  | .submitting => true
  | _ => false

end Run

end TileDepot.Warming
