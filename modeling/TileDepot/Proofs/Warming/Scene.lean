import TileDepot.Warming.Run

/-!
# A run among its tiles

`Run` says what a run does by itself. Here it is put among the things that happen to it at any time
and in any order: tiles that come back, one after the other or many at once, the initial delay that
passes, and requests to stop. A `Scene` is a run with the tiles that are out and a log of all
effects; `Step` is one thing that happens.

A step is as small as what can be told apart from outside. A tile that comes back looks whether the
run has been asked to stop, is counted, and gives its place back, in three steps, between which
anything else may happen. Neither is a run's look at a request to stop, or at the delay, one step
with the move that follows: a move may rest on an older look (`Step.move`).
-/

namespace TileDepot.Warming

/-! ## Effects -/

/-- The tile that was handed out. -/
def Effect.tile? : Effect → Option Grid.TileId
  | .submitted tile => Option.some tile
  | _ => Option.none

/-- The last update. -/
def Effect.final? : Effect → Option Snapshot
  | .final s => Option.some s
  | _ => Option.none

/-! ## Scenes -/

/-- How far a tile that is out has come. -/
inductive Leg where
  | out
  /-- It has been fetched, or could not be, and is going to be counted. -/
  | back (success : Bool)
  /-- It has been counted, or does not count. It still has its place. -/
  | told

/-- A tile that is out. -/
structure Trip where
  tile : Grid.TileId
  leg : Leg

/-- One run, what is out for it, and what has come of it. -/
structure Scene where
  run : Run
  trips : List Trip
  /-- The initial delay has passed. -/
  delayPassed : Bool
  /-- How often the run has been asked to stop. -/
  stops : Nat
  /-- Every effect so far, the first one first. -/
  log : List Effect

namespace Scene

def start (task : Task) : Scene :=
  ⟨.ofTask task, [], false, 0, []⟩

/-- The tiles handed out so far, in order. -/
def submitted (sc : Scene) : List Grid.TileId :=
  sc.log.filterMap Effect.tile?

/-- The last updates sent so far. -/
def finals (sc : Scene) : List Snapshot :=
  sc.log.filterMap Effect.final?

/-- The run makes a move. A tile that it hands out is under way. -/
def act (sc : Scene) (m : Move) : Scene :=
  let effect := (sc.run.apply m).2
  { sc with
    run := (sc.run.apply m).1
    trips := sc.trips ++ effect.tile?.toList.map fun tile => ⟨tile, .out⟩
    log := sc.log ++ [effect] }

/-- A tile is counted. -/
def count (sc : Scene) (success : Bool) (throttle : Throttle) : Scene :=
  { sc with
    run := (sc.run.count success throttle).1
    log := sc.log ++ [(sc.run.count success throttle).2] }

end Scene

/-- The run as it looks to one who saw last whether it has been asked to stop. -/
def Run.seeing (r : Run) (asked : Bool) : Run :=
  { r with task := { r.task with isCancelled := asked } }

/-- One thing that happens. -/
inductive Step (settings : RunSettings) : Scene → Scene → Prop where
  /-- The run makes the move that is due by what it saw: a request to stop or the end of the delay
  may have come since, but neither is seen before it is there. -/
  | move {sc : Scene} {m : Move} (asked late room : Bool) :
      (asked = true → sc.run.task.isCancelled = true) → (late = true → sc.delayPassed = true) →
      (sc.run.seeing asked).next? settings.maxConcurrent late room = some m →
      Step settings sc (sc.act m)
  /-- While tiles are handed out, one that has come back is put away. -/
  | putAway {sc : Scene} : sc.run.isSubmitting = true → Step settings sc (sc.act .collect)
  | delay {sc : Scene} : Step settings sc { sc with delayPassed := true }
  | stop {sc : Scene} : Step settings sc { sc with run := sc.run.cancel, stops := sc.stops + 1 }
  /-- A tile comes back, in time or not. It will not count if the run has been asked to stop. -/
  | comeBack {sc : Scene} {before after : List Trip} {tile : Grid.TileId} (success : Bool) :
      sc.trips = before ++ ⟨tile, .out⟩ :: after →
      Step settings sc { sc with
        trips := before ++
          ⟨tile, if sc.run.task.isCancelled then .told else .back success⟩ :: after }
  | tell {sc : Scene} {before after : List Trip} {tile : Grid.TileId} {success : Bool} :
      sc.trips = before ++ ⟨tile, .back success⟩ :: after →
      Step settings sc { sc.count success settings.throttle with
        trips := before ++ ⟨tile, .told⟩ :: after }
  | free {sc : Scene} {before after : List Trip} {tile : Grid.TileId} :
      sc.trips = before ++ ⟨tile, .told⟩ :: after →
      Step settings sc { sc with run := sc.run.freePlace, trips := before ++ after }

/-- What can come of a run of this task. -/
inductive Reachable (settings : RunSettings) (task : Task) : Scene → Prop where
  | init : Reachable settings task (.start task)
  | tail {sc sc' : Scene} : Reachable settings task sc → Step settings sc sc' →
      Reachable settings task sc'

/-! ## Which move is due -/

/-- All that a move which is due says of the run. -/
inductive Due (limit : Nat) (asked late room : Bool) (r : Run) : Move → Prop where
  | begin : r.phase = .waiting → Due limit asked late room r .begin
  | exhaust : r.phase = .submitting → r.walk.next? = none → Due limit asked late room r .exhaust
  | stop : r.phase = .submitting → asked = true → Due limit asked late room r .stop
  | sendFirst : r.phase = .submitting ∨ r.phase = .draining → late = true → r.firstSent = false →
      Due limit asked late room r .sendFirst
  | submit {tile : Grid.TileId} {walk : Grid.Walk} : r.phase = .submitting →
      r.walk.next? = some (tile, walk) → asked = false → r.inFlight < limit →
      Due limit asked late room r .submit
  | collect : r.phase = .draining → Due limit asked late room r .collect
  | settle : r.phase = .draining → r.inFlight = 0 → (late = true → r.firstSent = true) →
      Due limit asked late room r .settle
  | release {s : Summary} : r.phase = .holding s → late = true →
      Due limit asked late room r .release
  | close {final : Snapshot} {s : Summary} : r.phase = .closing final s → room = true →
      Due limit asked late room r .close
  | leave {s : Summary} : r.phase = .leaving s → Due limit asked late room r .leave

theorem next_due {limit : Nat} {asked late room : Bool} {r : Run} {m : Move}
    (h : (r.seeing asked).next? limit late room = some m) : Due limit asked late room r m := by
  unfold Run.next? at h
  have hphase : (r.seeing asked).phase = r.phase := rfl
  have hwalk : (r.seeing asked).walk = r.walk := rfl
  have hasked : (r.seeing asked).task.isCancelled = asked := rfl
  have hfirst : (r.seeing asked).firstSent = r.firstSent := rfl
  have hout : (r.seeing asked).inFlight = r.inFlight := rfl
  rw [hphase, hwalk, hasked, hfirst, hout] at h
  cases hp : r.phase with
  | waiting =>
      rw [hp] at h
      cases h
      exact .begin hp
  | submitting =>
      rw [hp] at h
      dsimp only at h
      split at h
      · rename_i hnone
        cases h
        exact .exhaust hp (Option.isNone_iff_eq_none.mp hnone)
      · rename_i hsome
        split at h
        · rename_i hask
          cases h
          exact .stop hp hask
        · rename_i hask
          split at h
          · rename_i hlate
            cases h
            rw [Bool.and_eq_true, Bool.not_eq_true'] at hlate
            exact .sendFirst (Or.inl hp) hlate.1 hlate.2
          · split at h
            · rename_i hlt
              cases h
              cases hw : r.walk.next? with
              | none => rw [hw] at hsome; exact absurd rfl hsome
              | some next => exact .submit hp hw (Bool.not_eq_true _ ▸ hask) hlt
            · exact absurd h (by simp)
  | draining =>
      rw [hp] at h
      dsimp only at h
      split at h
      · rename_i hlate
        cases h
        rw [Bool.and_eq_true, Bool.not_eq_true'] at hlate
        exact .sendFirst (Or.inr hp) hlate.1 hlate.2
      · rename_i hlate
        split at h
        · cases h
          exact .collect hp
        · split at h
          · rename_i hzero
            cases h
            refine .settle hp (by simpa using hzero) (fun hl => ?_)
            rw [hl, Bool.true_and] at hlate
            simpa using hlate
          · exact absurd h (by simp)
  | holding s =>
      rw [hp] at h
      dsimp only at h
      split at h
      · rename_i hlate
        cases h
        exact .release hp hlate
      · exact absurd h (by simp)
  | closing final s =>
      rw [hp] at h
      dsimp only at h
      split at h
      · rename_i hroom
        cases h
        exact .close hp hroom
      · exact absurd h (by simp)
  | leaving s =>
      rw [hp] at h
      cases h
      exact .leave hp
  | ended s =>
      rw [hp] at h
      exact absurd h (by simp)

theorem isSubmitting_phase {r : Run} (h : r.isSubmitting = true) : r.phase = .submitting := by
  unfold Run.isSubmitting at h
  split at h
  · rename_i hp
    exact hp
  · exact absurd h (by simp)

/-! ## What moves leave alone -/

/-- Two states of a run with the same tiles ahead and out and the same counts. -/
structure SameTally (r r' : Run) : Prop where
  walk : r'.walk = r.walk
  inFlight : r'.inFlight = r.inFlight
  total : r'.task.total = r.task.total
  completed : r'.task.completed = r.task.completed
  failed : r'.task.failed = r.task.failed
  isCancelled : r'.task.isCancelled = r.task.isCancelled

theorem markRunning_tally (r : Run) (phase : Phase) :
    SameTally r { r with task := r.task.markRunning, phase } := by
  unfold Task.markRunning
  split <;> exact ⟨rfl, rfl, rfl, rfl, rfl, rfl⟩

/-- **Only handing out a tile changes the tally.** -/
theorem apply_tally {r : Run} {m : Move} (hm : m ≠ .submit) :
    SameTally r (r.apply m).1 ∧ (r.apply m).2.tile? = none := by
  have hsame : SameTally r r := ⟨rfl, rfl, rfl, rfl, rfl, rfl⟩
  cases m with
  | submit => exact absurd rfl hm
  | begin => exact ⟨markRunning_tally r _, rfl⟩
  | sendFirst =>
      refine ⟨⟨rfl, rfl, rfl, rfl, rfl, rfl⟩, ?_⟩
      show r.runningUpdate.tile? = none
      unfold Run.runningUpdate
      split <;> rfl
  | stop => exact ⟨⟨rfl, rfl, rfl, rfl, rfl, rfl⟩, rfl⟩
  | exhaust => exact ⟨⟨rfl, rfl, rfl, rfl, rfl, rfl⟩, rfl⟩
  | collect => exact ⟨⟨rfl, rfl, rfl, rfl, rfl, rfl⟩, rfl⟩
  | settle =>
      unfold Run.apply
      dsimp only
      split <;> exact ⟨⟨rfl, rfl, rfl, rfl, rfl, rfl⟩, rfl⟩
  | release =>
      unfold Run.apply
      dsimp only
      split
      · exact ⟨⟨rfl, rfl, rfl, rfl, rfl, rfl⟩, rfl⟩
      · exact ⟨hsame, rfl⟩
  | close =>
      unfold Run.apply
      dsimp only
      split
      · exact ⟨⟨rfl, rfl, rfl, rfl, rfl, rfl⟩, rfl⟩
      · exact ⟨hsame, rfl⟩
  | leave =>
      unfold Run.apply
      dsimp only
      split
      · exact ⟨⟨rfl, rfl, rfl, rfl, rfl, rfl⟩, rfl⟩
      · exact ⟨hsame, rfl⟩

/-- What handing out a tile does. -/
theorem apply_submit {r : Run} {tile : Grid.TileId} {walk : Grid.Walk}
    (h : r.walk.next? = some (tile, walk)) :
    r.apply .submit = ({ r with walk, inFlight := r.inFlight + 1 }, .submitted tile) := by
  unfold Run.apply
  dsimp only
  rw [h]

theorem apply_settle (r : Run) : r.apply .settle =
    (if !r.firstSent && !r.summary.isCancelled then { r with phase := .holding r.summary }
      else r.conclude r.summary, .none) := by
  unfold Run.apply
  dsimp only
  split <;> rfl

theorem apply_release {r : Run} {s : Summary} (h : r.phase = .holding s) :
    r.apply .release = (r.conclude s, .none) := by
  unfold Run.apply
  dsimp only
  rw [h]

theorem apply_close {r : Run} {final : Snapshot} {s : Summary} (h : r.phase = .closing final s) :
    r.apply .close = ({ r with phase := .leaving s }, .final final) := by
  unfold Run.apply
  dsimp only
  rw [h]

theorem apply_leave {r : Run} {s : Summary} (h : r.phase = .leaving s) :
    r.apply .leave = ({ r with phase := .ended s }, .left) := by
  unfold Run.apply
  dsimp only
  rw [h]

/-- Only closing sends a last update. -/
theorem apply_final {r : Run} {m : Move} (hm : m ≠ .close) : (r.apply m).2.final? = none := by
  cases m with
  | close => exact absurd rfl hm
  | sendFirst =>
      show r.runningUpdate.final? = none
      unfold Run.runningUpdate
      split <;> rfl
  | submit | settle | release | leave =>
      unfold Run.apply
      dsimp only
      split <;> rfl
  | begin | stop | exhaust | collect => rfl

/-- What counting a tile does to the counts. -/
theorem count_task (r : Run) (success : Bool) (throttle : Throttle) :
    (r.count success throttle).1.task.completed = r.task.completed + 1 ∧
      (r.count success throttle).1.task.failed
        = (if success then r.task.failed else r.task.failed + 1) ∧
      (r.count success throttle).1.task.total = r.task.total ∧
      (r.count success throttle).1.task.isCancelled = r.task.isCancelled ∧
      (r.count success throttle).1.task.state = r.task.state := by
  unfold Run.count Task.record
  dsimp only
  split <;> exact ⟨rfl, rfl, rfl, rfl, rfl⟩

/-- Counting a tile is all that it does, but for an update on the way. -/
theorem count_run (r : Run) (success : Bool) (throttle : Throttle) :
    (r.count success throttle).1.walk = r.walk ∧
      (r.count success throttle).1.inFlight = r.inFlight ∧
      (r.count success throttle).1.phase = r.phase ∧
      (r.count success throttle).2.tile? = none ∧
      (r.count success throttle).2.final? = none := by
  refine ⟨rfl, rfl, rfl, ?_, ?_⟩
  all_goals
    unfold Run.count
    dsimp only
    split
    · split <;> rfl
    · rfl

/-! ## What steps leave alone -/

/-- One effect more, seen through `f`. -/
theorem filterMap_effect {α : Type} (f : Effect → Option α) (log : List Effect)
    (effect : Effect) :
    (log ++ [effect]).filterMap f = log.filterMap f ++ (f effect).toList := by
  rw [List.filterMap_append]
  cases heffect : f effect with
  | none => rw [List.filterMap_cons_none heffect]; rfl
  | some a => rw [List.filterMap_cons_some heffect]; rfl

/-- An effect that is nothing to `f` is not seen through it. -/
theorem filterMap_quiet {α : Type} {f : Effect → Option α} {effect : Effect}
    (h : f effect = none) (log : List Effect) :
    (log ++ [effect]).filterMap f = log.filterMap f := by
  rw [filterMap_effect, h]
  exact List.append_nil _

/-- A move that hands out nothing leaves the tiles that are out alone. -/
theorem act_quiet (sc : Scene) {m : Move} {r : Run} {effect : Effect}
    (h : sc.run.apply m = (r, effect)) (htile : effect.tile? = none) :
    (sc.act m).run = r ∧ (sc.act m).trips = sc.trips ∧ (sc.act m).submitted = sc.submitted ∧
      (sc.act m).finals = sc.finals ++ effect.final?.toList := by
  have hlog : (sc.act m).log = sc.log ++ [effect] := by
    show sc.log ++ [(sc.run.apply m).2] = _
    rw [h]
  refine ⟨congrArg Prod.fst h, ?_, ?_, ?_⟩
  · show sc.trips ++ (sc.run.apply m).2.tile?.toList.map _ = sc.trips
    rw [h, htile]
    exact List.append_nil _
  · unfold Scene.submitted
    rw [hlog, filterMap_quiet htile]
  · unfold Scene.finals
    rw [hlog, filterMap_effect]

/-- A tile that is handed out is out. -/
theorem act_submit (sc : Scene) {tile : Grid.TileId} {walk : Grid.Walk}
    (h : sc.run.walk.next? = some (tile, walk)) :
    (sc.act .submit).run = { sc.run with walk, inFlight := sc.run.inFlight + 1 } ∧
      (sc.act .submit).trips = sc.trips ++ [⟨tile, .out⟩] ∧
      (sc.act .submit).submitted = sc.submitted ++ [tile] ∧
      (sc.act .submit).finals = sc.finals := by
  have happly := apply_submit h
  refine ⟨congrArg Prod.fst happly, ?_, ?_, ?_⟩
  · show sc.trips ++ (sc.run.apply .submit).2.tile?.toList.map _ = _
    rw [happly]
    rfl
  · show (sc.log ++ [(sc.run.apply .submit).2]).filterMap Effect.tile? = _
    rw [filterMap_effect, happly]
    rfl
  · show (sc.log ++ [(sc.run.apply .submit).2]).filterMap Effect.final? = _
    exact filterMap_quiet (by rw [happly]; rfl) sc.log

/-- So does counting a tile. -/
theorem count_quiet (sc : Scene) (success : Bool) (throttle : Throttle) :
    (sc.count success throttle).submitted = sc.submitted ∧
      (sc.count success throttle).finals = sc.finals := by
  obtain ⟨_, _, _, htile, hfinal⟩ := count_run sc.run success throttle
  exact ⟨filterMap_quiet htile sc.log, filterMap_quiet hfinal sc.log⟩

/-! ## Steps in a row -/

/-- The run may make the move that is due by what is there now. -/
theorem move_reachable {settings : RunSettings} {task : Task} {sc : Scene} (m : Move) (room : Bool)
    (h : Reachable settings task sc)
    (hnext : sc.run.next? settings.maxConcurrent sc.delayPassed room = some m) :
    Reachable settings task (sc.act m) :=
  h.tail (.move sc.run.task.isCancelled sc.delayPassed room id id hnext)

/-- **A tile that comes back in one go comes back by steps.** -/
theorem complete_reachable {settings : RunSettings} {task : Task} {sc : Scene}
    {before after : List Trip} {tile : Grid.TileId} (success : Bool)
    (h : Reachable settings task sc) (htrips : sc.trips = before ++ ⟨tile, .out⟩ :: after) :
    Reachable settings task { sc with
      run := (sc.run.complete success settings.throttle).1
      trips := before ++ after
      log := if sc.run.task.isCancelled then sc.log
        else sc.log ++ [(sc.run.complete success settings.throttle).2] } := by
  have hback := h.tail (.comeBack success htrips)
  unfold Run.complete
  cases hasked : sc.run.task.isCancelled with
  | true =>
      rw [hasked] at hback
      exact hback.tail (.free rfl)
  | false =>
      rw [hasked] at hback
      exact (hback.tail (.tell rfl)).tail (.free rfl)

end TileDepot.Warming
