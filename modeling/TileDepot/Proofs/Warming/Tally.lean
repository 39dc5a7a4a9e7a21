import TileDepot.Proofs.Grid.Totals
import TileDepot.Proofs.Warming.Scene

/-!
# The tally of a run

The tiles handed out and those still ahead are the tiles of the task, in order; as many places are
taken as tiles are out, and no more than there are; and what has been counted together with what
may still be counted does not exceed what was handed out. Until the run is asked to stop nothing is
lost, and the last of these is an equation.

This holds at the start (`tally_init`), every step keeps it (`tally_step`), and so it holds whenever
one looks (`tally_reachable`).
-/

namespace TileDepot.Warming

/-- A task that no run has worked on: what is made for its ranges, and perhaps the box. -/
def Task.IsNew (t : Task) : Prop :=
  ∃ made bounds, Task.ofRanges? t.id t.ranges t.startedAt = some made ∧ t = { made with bounds }

/-- The tiles of a task, one range after the other. -/
def Task.tiles (t : Task) : List Grid.TileId :=
  t.ranges.flatMap Grid.Range.toList

/-- A tile that may still be counted. -/
def Trip.isOpen (t : Trip) : Bool :=
  match t.leg with
  | .told => false
  | _ => true

/-- How many tiles may still be counted. -/
def Scene.pending (sc : Scene) : Nat :=
  sc.trips.countP Trip.isOpen

/-! ## What may still be counted -/

theorem pending_congr {sc sc' : Scene} (h : sc'.trips = sc.trips) : sc'.pending = sc.pending := by
  unfold Scene.pending
  rw [h]

/-- A tile that is handed out may be counted. -/
theorem pending_submit {sc sc' : Scene} {tile : Grid.TileId}
    (h : sc'.trips = sc.trips ++ [⟨tile, .out⟩]) : sc'.pending = sc.pending + 1 := by
  unfold Scene.pending
  rw [h, List.countP_append]
  rfl

/-- One trip more or less among the others. -/
theorem pending_middle {sc : Scene} {before after : List Trip} {t : Trip}
    (h : sc.trips = before ++ t :: after) :
    sc.pending = (before ++ after).countP Trip.isOpen + if t.isOpen then 1 else 0 := by
  unfold Scene.pending
  rw [h, List.countP_append, List.countP_append, List.countP_cons]
  omega

theorem pending_le {sc : Scene} {before after : List Trip} {t : Trip}
    (h : sc.trips = before ++ t :: after) :
    sc.pending ≤ (before ++ after).countP Trip.isOpen + 1 := by
  rw [pending_middle h]
  split <;> omega

theorem pending_open {sc : Scene} {before after : List Trip} {t : Trip}
    (h : sc.trips = before ++ t :: after) (hopen : t.isOpen = true) :
    sc.pending = (before ++ after).countP Trip.isOpen + 1 := by
  rw [pending_middle h, if_pos hopen]

theorem pending_closed {sc : Scene} {before after : List Trip} {t : Trip}
    (h : sc.trips = before ++ t :: after) (hclosed : t.isOpen = false) :
    sc.pending = (before ++ after).countP Trip.isOpen := by
  rw [pending_middle h, hclosed]
  rfl

/-! ## The tally -/

/-- The counts of a run and the tiles they stand for. -/
structure Tally (limit : Nat) (tiles : List Grid.TileId) (sc : Scene) : Prop where
  /-- What was handed out and what is ahead make up the task. -/
  split : sc.submitted ++ sc.run.walk.tiles = tiles
  within : sc.run.walk.Within
  total : sc.run.task.total = tiles.length
  /-- Every tile that is out has a place. -/
  places : sc.run.inFlight = sc.trips.length
  room : sc.run.inFlight ≤ limit
  failed : sc.run.task.failed ≤ sc.run.task.completed
  counted : sc.run.task.completed + sc.pending ≤ sc.submitted.length
  /-- Nothing is lost before the run is asked to stop. -/
  exact : sc.run.task.isCancelled = false →
    sc.run.task.completed + sc.pending = sc.submitted.length
  asked : sc.run.task.isCancelled = true ↔ 0 < sc.stops

theorem tally_init {task : Task} (hnew : task.IsNew) (hends : ∀ r ∈ task.ranges, r.EndsBelow)
    (hfits : Grid.tileCount task.ranges < UInt64.size) (limit : Nat) :
    Tally limit task.tiles (.start task) := by
  obtain ⟨made, bounds, hmade, heq⟩ := hnew
  obtain ⟨total, hcount, rfl⟩ := Option.map_eq_some_iff.mp hmade
  have htotal : task.total = task.tiles.length := by
    obtain ⟨total', hcount', hexact⟩ := Grid.totalCount_eq hfits
    cases hcount.symm.trans hcount'
    rw [Task.tiles, Grid.length_tiles, ← hexact]
    exact congrArg Task.total heq
  have hcompleted : task.completed = 0 := congrArg Task.completed heq
  have hfailed : task.failed = 0 := congrArg Task.failed heq
  have hasked : task.isCancelled = false := congrArg Task.isCancelled heq
  exact {
    split := Grid.walk_start_tiles task.ranges
    within := Grid.walk_start_within hends
    total := htotal
    places := rfl
    room := Nat.zero_le _
    failed := by show task.failed ≤ task.completed; omega
    counted := by show task.completed + 0 ≤ 0; omega
    exact := fun _ => by show task.completed + 0 = 0; omega
    asked := by show task.isCancelled = true ↔ 0 < 0; simp [hasked] }

/-- The tally looks at nothing but these. -/
theorem tally_congr {limit : Nat} {tiles : List Grid.TileId} {sc sc' : Scene}
    (h : Tally limit tiles sc) (hrun : SameTally sc.run sc'.run) (htrips : sc'.trips = sc.trips)
    (hsub : sc'.submitted = sc.submitted) (hstops : sc'.stops = sc.stops) :
    Tally limit tiles sc' := by
  have hpending := pending_congr htrips
  exact {
    split := by rw [hsub, hrun.walk]; exact h.split
    within := by rw [hrun.walk]; exact h.within
    total := by rw [hrun.total]; exact h.total
    places := by rw [hrun.inFlight, htrips]; exact h.places
    room := by rw [hrun.inFlight]; exact h.room
    failed := by rw [hrun.failed, hrun.completed]; exact h.failed
    counted := by rw [hrun.completed, hpending, hsub]; exact h.counted
    exact := by rw [hrun.isCancelled, hrun.completed, hpending, hsub]; exact h.exact
    asked := by rw [hrun.isCancelled, hstops]; exact h.asked }

theorem tally_quiet {limit : Nat} {tiles : List Grid.TileId} {sc : Scene} {m : Move}
    (h : Tally limit tiles sc) (hm : m ≠ .submit) : Tally limit tiles (sc.act m) := by
  obtain ⟨hrun, htile⟩ := apply_tally (r := sc.run) hm
  obtain ⟨_, htrips, hsub, _⟩ := act_quiet sc rfl htile
  exact tally_congr h hrun htrips hsub rfl

/-- Handing out the next tile keeps the tally if there is a place for it. -/
theorem tally_submit {limit : Nat} {tiles : List Grid.TileId} {sc : Scene}
    {tile : Grid.TileId} {walk : Grid.Walk} (h : Tally limit tiles sc)
    (hnext : sc.run.walk.next? = some (tile, walk)) (hroom : sc.run.inFlight < limit) :
    Tally limit tiles (sc.act .submit) := by
  obtain ⟨htiles, hwithin⟩ := Grid.walk_next_some h.within hnext
  obtain ⟨hrun, htrips, hsub, _⟩ := act_submit sc hnext
  have hpending := pending_submit htrips
  exact {
    split := by
      rw [hsub, hrun, List.append_assoc]
      show sc.submitted ++ tile :: walk.tiles = tiles
      rw [← htiles]
      exact h.split
    within := by rw [hrun]; exact hwithin
    total := by rw [hrun]; exact h.total
    places := by
      rw [hrun, htrips, List.length_append]
      exact congrArg (· + 1) h.places
    room := by rw [hrun]; exact hroom
    failed := by rw [hrun]; exact h.failed
    counted := by
      rw [hrun, hpending, hsub, List.length_append]
      exact Nat.succ_le_succ h.counted
    exact := by
      rw [hrun, hpending, hsub, List.length_append]
      exact fun hno => congrArg (· + 1) (h.exact hno)
    asked := by rw [hrun]; exact h.asked }

theorem length_middle (before after : List Trip) (t : Trip) :
    (before ++ t :: after).length = (before ++ after).length + 1 := by
  rw [List.length_append, List.length_append]
  rfl

/-- A tile that comes back may still be counted, unless the run has been asked to stop. -/
theorem tally_comeBack {limit : Nat} {tiles : List Grid.TileId} {sc sc' : Scene}
    {before after : List Trip} {tile : Grid.TileId} {leg : Leg} (h : Tally limit tiles sc)
    (htrips : sc.trips = before ++ ⟨tile, .out⟩ :: after)
    (hleg : sc.run.task.isCancelled = false → (⟨tile, leg⟩ : Trip).isOpen = true)
    (hsc' : sc' = { sc with trips := before ++ ⟨tile, leg⟩ :: after }) :
    Tally limit tiles sc' := by
  subst hsc'
  have hpending := pending_open htrips rfl
  have hpending' := @pending_middle { sc with trips := before ++ ⟨tile, leg⟩ :: after } _ _ _ rfl
  have hplaces := h.places
  have hcounted := h.counted
  rw [htrips, length_middle] at hplaces
  refine ⟨h.split, h.within, h.total, ?_, h.room, h.failed, ?_, ?_, h.asked⟩
  · show sc.run.inFlight = (before ++ ⟨tile, leg⟩ :: after).length
    rw [length_middle]
    exact hplaces
  · -- it is one tile less that may be counted, or as many as before
    show sc.run.task.completed + _ ≤ sc.submitted.length
    rw [hpending']
    split <;> omega
  · intro hno
    have hexact := h.exact hno
    show sc.run.task.completed + _ = sc.submitted.length
    rw [hpending', if_pos (hleg hno)]
    omega

/-- A tile that is counted is not counted again. -/
theorem tally_tell {limit : Nat} {tiles : List Grid.TileId} {sc sc' : Scene}
    {before after : List Trip} {tile : Grid.TileId} {success : Bool} (throttle : Throttle)
    (h : Tally limit tiles sc) (htrips : sc.trips = before ++ ⟨tile, .back success⟩ :: after)
    (hsc' : sc' = { sc.count success throttle with trips := before ++ ⟨tile, .told⟩ :: after }) :
    Tally limit tiles sc' := by
  obtain ⟨hcompleted, hfailed, htotal, hasked, _⟩ := count_task sc.run success throttle
  obtain ⟨hwalk, hout, _, _, _⟩ := count_run sc.run success throttle
  have hpending := pending_open htrips rfl
  have hpending' : sc'.pending = (before ++ after).countP Trip.isOpen :=
    pending_closed (t := ⟨tile, .told⟩) (by rw [hsc']) rfl
  have hsub : sc'.submitted = sc.submitted := by
    rw [hsc']
    exact (count_quiet sc success throttle).1
  have hrun : sc'.run = (sc.run.count success throttle).1 := by rw [hsc']; rfl
  have htrips' : sc'.trips.length = sc.trips.length := by
    rw [hsc', htrips, length_middle, length_middle]
  exact {
    split := by rw [hsub, hrun, hwalk]; exact h.split
    within := by rw [hrun, hwalk]; exact h.within
    total := by rw [hrun, htotal]; exact h.total
    places := by rw [hrun, hout, htrips']; exact h.places
    room := by rw [hrun, hout]; exact h.room
    failed := by
      have hold := h.failed
      rw [hrun, hcompleted, hfailed]
      split <;> omega
    -- one tile more has been counted, and one less may still be
    counted := by
      have hold := h.counted
      rw [hrun, hcompleted, hpending', hsub]
      omega
    exact := by
      rw [hrun, hasked, hcompleted, hpending', hsub]
      intro hno
      have hold := h.exact hno
      omega
    asked := by rw [hrun, hasked, hsc']; exact h.asked }

/-- A tile gives its place back when there is nothing to count of it any more. -/
theorem tally_free {limit : Nat} {tiles : List Grid.TileId} {sc : Scene}
    {before after : List Trip} {tile : Grid.TileId} (h : Tally limit tiles sc)
    (htrips : sc.trips = before ++ ⟨tile, .told⟩ :: after) :
    Tally limit tiles { sc with run := sc.run.freePlace, trips := before ++ after } := by
  have hpending := pending_closed htrips rfl
  have hplaces := h.places
  have hroom := h.room
  have hcounted := h.counted
  have hexact := h.exact
  rw [htrips, length_middle] at hplaces
  rw [hpending] at hcounted hexact
  refine ⟨h.split, h.within, h.total, ?_, ?_, h.failed, hcounted, hexact, h.asked⟩
  · show sc.run.inFlight - 1 = (before ++ after).length
    omega
  · show sc.run.inFlight - 1 ≤ limit
    omega

/-- **Every step keeps the tally.** -/
theorem tally_step {settings : RunSettings} {tiles : List Grid.TileId} {sc sc' : Scene}
    (h : Tally settings.maxConcurrent tiles sc) (hs : Step settings sc sc') :
    Tally settings.maxConcurrent tiles sc' := by
  cases hs with
  | @move m asked late room _ _ hnext =>
      -- handing out a tile is due only while there is a place for it
      by_cases hm : m = .submit
      · subst hm
        cases next_due hnext with
        | submit _ hwalk _ hroom => exact tally_submit h hwalk hroom
      · exact tally_quiet h hm
  | putAway => exact tally_quiet h (by simp)
  | delay => exact tally_congr h ⟨rfl, rfl, rfl, rfl, rfl, rfl⟩ rfl rfl rfl
  | stop =>
      exact {
        split := h.split
        within := h.within
        total := h.total
        places := h.places
        room := h.room
        failed := h.failed
        counted := h.counted
        exact := fun hno => absurd hno (by simp [Run.cancel, Task.cancel])
        asked := ⟨fun _ => Nat.succ_pos _, fun _ => rfl⟩ }
  | comeBack success htrips =>
      refine tally_comeBack h htrips (fun hno => ?_) rfl
      rw [hno]
      rfl
  | tell htrips => exact tally_tell settings.throttle h htrips rfl
  | free htrips => exact tally_free h htrips

theorem tally_reachable {settings : RunSettings} {task : Task} (hnew : task.IsNew)
    (hends : ∀ r ∈ task.ranges, r.EndsBelow) (hfits : Grid.tileCount task.ranges < UInt64.size)
    {sc : Scene} (h : Reachable settings task sc) :
    Tally settings.maxConcurrent task.tiles sc := by
  induction h with
  | init => exact tally_init hnew hends hfits _
  | tail _ hs ih => exact tally_step ih hs

/-- Once nothing is out and nothing ahead, all tiles are counted. -/
theorem tally_all {limit : Nat} {tiles : List Grid.TileId} {sc : Scene}
    (h : Tally limit tiles sc) (hout : sc.trips = []) (hwalk : sc.run.walk.tiles = [])
    (hasked : sc.run.task.isCancelled = false) :
    sc.submitted = tiles ∧ sc.run.task.completed = sc.run.task.total := by
  have hsplit := h.split
  rw [hwalk, List.append_nil] at hsplit
  have hexact := h.exact hasked
  unfold Scene.pending at hexact
  rw [hout] at hexact
  refine ⟨hsplit, ?_⟩
  rw [h.total, ← hsplit]
  exact hexact

end TileDepot.Warming
