import TileDepot.Warming.Desk
import TileDepot.Warming.Supply

/-!
# Timelines

A timeline carries out runs in the order in which their parts get ready, on a clock that moves on
only when nothing is left to do. The parts are the runs themselves, the tiles that are out, and the
dispatcher of updates; each takes its turn until it has to wait or has spent what a turn is given.
Everything a turn does is a move at the desk.
-/

namespace TileDepot.Warming

/-- What takes turns. -/
inductive Job where
  | dispatcher
  | run (run : Nat)
  | errand (errand : Nat)
  deriving Repr, DecidableEq

/-- How far the fetching of a tile has come. -/
inductive Stage where
  | fresh
  /-- The supply answers at `answerAt`. -/
  | waiting (lookup : Cache.Lookup) (answerAt : Nat)
  | over

/-- A tile that is out. -/
structure Errand where
  run : Nat
  fetch : Fetch
  stage : Stage
  /-- When it is given up. -/
  deadline : Nat

/-- What the one who watches the timeline waits for. -/
inductive Awaited where
  | time (time : Nat)
  | finish (run : Nat)

/-- Something that happens at a time. -/
structure Timer where
  time : Nat
  job : Job

/-- Runs on a clock of milliseconds. -/
structure Timeline (σ : Type) where
  now : Nat
  desk : Desk
  errands : Array Errand
  /-- Who has a turn next. -/
  ready : List Job
  /-- Who could go on but has spent a turn, the last one first. They get another turn after the
  round. -/
  deferred : List Job
  timers : List Timer
  /-- When the initial delay of each begun run has passed. -/
  delays : List (Nat × Nat)
  /-- The cache and the supply. -/
  world : σ
  route : Route σ

namespace Timeline

/-- How many turns are taken before the watcher is asked again. -/
def turnsPerRound : Nat := 61

/-- What a turn may spend. -/
def turnBudget : Nat := 128

def start {σ : Type} (settings : RunSettings) (route : Route σ) (world : σ) : Timeline σ where
  now := 0
  desk := .ofSettings settings
  errands := #[]
  ready := [.dispatcher]
  deferred := []
  timers := []
  delays := []
  world
  route

variable {σ : Type}

/-- Gives a job a turn, unless it has one coming. -/
def wake (t : Timeline σ) (job : Job) : Timeline σ :=
  if t.ready.contains job then t else { t with ready := t.ready ++ [job] }

/-- A job that has spent its turn waits for the end of the round. -/
def defer (t : Timeline σ) (job : Job) : Timeline σ :=
  { t with deferred := job :: t.deferred }

/-- Gives a turn to those who have spent one. -/
def resume (t : Timeline σ) : Timeline σ :=
  t.deferred.foldl wake { t with deferred := [] }

/-- Wakes a job that waits for something; one that has spent its turn does not. -/
def notify (t : Timeline σ) (job : Job) : Timeline σ :=
  if t.deferred.contains job then t else t.wake job

/-- Carries out something in the world. -/
def perform (t : Timeline σ) (act : StateM σ α) : α × Timeline σ :=
  let (a, world) := act.run t.world
  (a, { t with world })

/-- The desk changes; new updates wake the dispatcher. -/
def setDesk (t : Timeline σ) (desk : Desk) : Timeline σ :=
  let more := t.desk.queue.length < desk.queue.length
  let t := { t with desk }
  if more then t.notify .dispatcher else t

/-! ## Turns -/

/-- The dispatcher's turn: updates are sent on, at most so many. Runs that get a place wake up. -/
def dispatchAll : Nat → Timeline σ → Timeline σ
  | 0, t => t.defer .dispatcher
  | n + 1, t =>
    match t.desk.dispatch? with
    | none => t
    | some desk =>
      let served := desk.granted.drop t.desk.granted.length
      let t := { t with desk }
      dispatchAll n (served.foldl (fun t run => t.wake (.run run)) t)

/-- The initial delay of a run has passed. -/
def delayPassed (t : Timeline σ) (run : Nat) : Bool :=
  match t.delays.lookup run with
  | some time => time ≤ t.now
  | none => false

/-- What a move changes besides the desk: a begun run has its delay ahead, and a tile that was
handed out is an errand. -/
def follow (t : Timeline σ) (run : Nat) (m : Move) (tile : Option Grid.TileId) : Timeline σ :=
  match m, tile with
  | .begin, _ =>
    let time := t.now + t.desk.settings.initialDelay.millis
    let timers := if t.now < time then t.timers ++ [⟨time, .run run⟩] else t.timers
    { t with delays := (run, time) :: t.delays, timers }
  | .submit, some tile =>
    let id := ((t.desk.runs[run]?).map (·.task.id)).getD ""
    let errand : Errand := ⟨run, ⟨id, t.desk.settings.map, tile⟩, .fresh, 0⟩
    { t with
      errands := t.errands.push errand
      ready := t.ready ++ [.errand t.errands.size] }
  | _, _ => t

/-- A run puts away the tiles that have come back. -/
def collect (run : Nat) (t : Timeline σ) : Timeline σ :=
  let returned := (t.desk.runs[run]?.map (·.returned)).getD 0
  { t with desk := returned.repeat (fun desk => (desk.apply run .collect).2) t.desk }

/-- A run has come to its end. -/
def hasEnded (t : Timeline σ) (run : Nat) : Bool :=
  t.desk.runs[run]?.all (·.hasEnded)

/-- A run's turn: it moves until it has to wait or has spent its budget. A turn has at most `n`
moves. The tiles that have come back are put away with each one that is handed out, and that costs
nothing more. -/
def moveRun : (n budget run : Nat) → Timeline σ → Timeline σ
  | 0, _, _, t => t
  | n + 1, budget, run, t =>
    match t.desk.next? run (t.delayPassed run) with
    | none =>
      if t.hasEnded run then t
      else if budget == 0 then t.defer (.run run)
      else { t with desk := t.desk.lineUp run }
    | some m =>
      if budget == 0 && m != .leave then t.defer (.run run)
      else
        let (tile, desk) := t.desk.apply run m
        let t := (t.setDesk desk).follow run m tile
        let t := if m == .submit then t.collect run else t
        moveRun n (budget - m.cost) run t

/-- More moves than a run makes in one turn. -/
def turnLength : Nat :=
  turnBudget + 9

/-- A tile that has come back wakes its run, unless that could go on handing out tiles without
it. -/
def wakeForTile (t : Timeline σ) (run : Nat) : Timeline σ :=
  if t.desk.runs[run]?.any (·.isSubmitting) then t.notify (.run run) else t.wake (.run run)

/-- A tile comes back: its run takes note of it and wakes up. -/
def finishErrand (t : Timeline σ) (i : Nat) (e : Errand) (success : Bool) : Timeline σ :=
  let t := { t with errands := t.errands.setIfInBounds i { e with stage := .over } }
  (t.setDesk (t.desk.complete e.run success)).wakeForTile e.run

/-- What has been fetched counts as a success if it could be read to its end. -/
def readThrough (t : Timeline σ) (path : String)
    (answer : Except Tile.Error Tile.Response) : Bool × Timeline σ :=
  match t.route with
  | .direct _ =>
    (match answer with
      | .ok r => r.body.items.all fun i => i.isOk
      | .error _ => false, t)
  | .cached cache _ =>
    let (result, t) := t.perform (Fetch.complete cache path answer)
    (result.isOk, t)

/-- The supply answers a request. -/
def answer (t : Timeline σ) (request : Tile.Request) (lookup : Cache.Lookup) :
    Bool × Timeline σ :=
  let (response, t) := t.perform (t.route.supply.finish request)
  t.readThrough request.path (lookup.complete response)

/-- Looks a request up, if there is a cache on the way. -/
def lookup (t : Timeline σ) (request : Tile.Request) : Cache.Lookup × Timeline σ :=
  match t.route with
  | .cached cache _ => t.perform (cache.lookup request)
  | .direct _ => (.bypass, t)

/-- Calls the supply; the result is when it answers. -/
def callSupply (t : Timeline σ) (request : Tile.Request) : Nat × Timeline σ :=
  let (delay, t) := t.perform (t.route.supply.begin request)
  (t.now + delay, t)

/-- An errand's turn. -/
def moveErrand (i : Nat) (t : Timeline σ) : Timeline σ :=
  match t.errands[i]? with
  | none => t
  | some e =>
    let request := e.fetch.request
    match e.stage with
    | .over => t
    | .fresh =>
      let (found, t) := t.lookup request
      match found with
      | .hit _ => t.finishErrand i e true
      | found =>
        let (answerAt, t) := t.callSupply request
        if answerAt ≤ t.now then
          let (success, t) := t.answer request found
          t.finishErrand i e success
        else
          let deadline := t.now + t.desk.settings.tileTimeout.millis
          if deadline ≤ t.now then t.finishErrand i e false
          else
            { t with
              errands := t.errands.setIfInBounds i
                { e with stage := .waiting found answerAt, deadline }
              timers := t.timers ++ [⟨answerAt, .errand i⟩, ⟨deadline, .errand i⟩] }
    | .waiting found answerAt =>
      if answerAt ≤ t.now then
        let (success, t) := t.answer request found
        t.finishErrand i e success
      else if e.deadline ≤ t.now then t.finishErrand i e false
      else t

/-- A job's turn. -/
def turn (t : Timeline σ) : Job → Timeline σ
  | .dispatcher => t.dispatchAll turnBudget
  | .run run => t.moveRun turnLength turnBudget run
  | .errand i => t.moveErrand i

/-! ## The clock -/

/-- A timer still means something to its job. -/
def isLive (t : Timeline σ) (timer : Timer) : Bool :=
  match timer.job with
  | .errand i =>
    match t.errands[i]? with
    | some e => match e.stage with
      | .over => false
      | _ => true
    | none => false
  | .run run =>
    match t.desk.runs[run]? with
    | some r => match r.phase with
      | .closing _ _ => false
      | .leaving _ => false
      | .ended _ => false
      | _ => true
    | none => false
  | .dispatcher => false

/-- Moves the clock to `time` and wakes the jobs whose time has come. -/
def jump (t : Timeline σ) (time : Nat) : Timeline σ :=
  let (due, later) := t.timers.partition fun timer => timer.time ≤ time
  due.foldl (fun t timer => t.wake timer.job) { t with now := time, timers := later }

/-- The next time at which something happens. -/
def nextTime? (timers : List Timer) : Option Nat :=
  timers.foldl (fun best timer => some (match best with
    | some b => min b timer.time
    | none => timer.time)) none

/-- What is awaited has come about. -/
def isThere (t : Timeline σ) : Awaited → Bool
  | .time time => time ≤ t.now
  | .finish run =>
    match t.desk.runs[run]? with
    | some r => r.hasEnded
    | none => true

/-- Takes turns until what is awaited is there. The watcher is asked after each round of turns, when
there is nothing left to do, and when the clock has moved. `left` is the number of turns left in
this round. A round ends for want of turns too, and whoever has spent a turn is there in the next
one. -/
def run : Nat → Nat → Awaited → Timeline σ → Timeline σ
  | 0, _, _, t => t
  | fuel + 1, left, awaited, t =>
    match left, t.ready with
    | left + 1, job :: ready => run fuel left awaited (({ t with ready } : Timeline σ).turn job)
    | 0, _ :: _ =>
      let t := t.resume
      if t.isThere awaited then t else run fuel turnsPerRound awaited t
    | _, [] =>
      if t.isThere awaited then t.resume
      else if !t.deferred.isEmpty then run fuel turnsPerRound awaited t.resume
      else
        let t := { t with timers := t.timers.filter t.isLive }
        let stop? := match awaited with
          | .time time => some time
          | .finish _ => none
        match nextTime? t.timers, stop? with
        | some next, some stop =>
          let t := t.jump (min next stop)
          if t.isThere awaited then t else run fuel turnsPerRound awaited t
        | some next, none => run fuel turnsPerRound awaited (t.jump next)
        | none, some stop => t.jump stop
        | none, none => t

/-- More turns than there can be: every tile has a few, and so has every run. -/
def turnLimit (t : Timeline σ) : Nat :=
  let tiles := Grid.tileCount (t.desk.runs.toList.flatMap (·.task.ranges))
  32 * (tiles + t.desk.runs.size + t.timers.length + t.ready.length) + 1024

/-- Waits until something has come about. What is there already is not waited for. -/
def await (t : Timeline σ) (awaited : Awaited) : Timeline σ :=
  if t.isThere awaited then t else run t.turnLimit turnsPerRound awaited t

/-! ## What a client can do -/

/-- Lets time pass. -/
def advance (t : Timeline σ) (millis : Nat) : Timeline σ :=
  t.await (.time (t.now + millis))

/-- Registers a task and has it carried out. -/
def launch (t : Timeline σ) (task : Task) : Nat × Timeline σ :=
  let (run, desk) := t.desk.register task
  (run, ({ t with desk } : Timeline σ).wake (.run run))

/-- A run that has been asked to stop while it handed out tiles wakes up. -/
def wakeStopped (t : Timeline σ) (run : Nat) : Timeline σ :=
  if t.desk.runs[run]?.any (·.isSubmitting) then t.notify (.run run) else t

/-- Asks a run to stop. -/
def cancelRun (t : Timeline σ) (run : Nat) : Timeline σ :=
  ({ t with desk := t.desk.cancelRun run } : Timeline σ).wakeStopped run

/-- Asks the run that owns a name to stop, if there is one. -/
def cancel (t : Timeline σ) (id : String) : Bool × Timeline σ :=
  let (found, desk) := t.desk.cancel id
  let t := { t with desk }
  (found, match desk.roster.get? id with
    | some run => t.wakeStopped run
    | none => t)

end Timeline

end TileDepot.Warming
