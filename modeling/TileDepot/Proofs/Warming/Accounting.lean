import TileDepot.Proofs.Warming.Tally

/-!
# Every tile of a run is counted once

The tally says what the numbers of a run stand for at any time. What they come to at the end is what
the phases promise (`Phase.Keeps`): a run stops handing out before its tiles are all gone only if it
was asked to, and once it has made its summary nothing is out and nothing changes any more.

The promises are kept in any order of what happens, and the order matters in one place: a request to
stop may come after the summary. It finds all tiles counted if it is the first one, so the summary
stays right (`settled_stop`).
-/

namespace TileDepot.Warming

/-! ## What the phases promise -/

/-- Nothing is out, and the summary says what the task says. -/
structure Settled (sc : Scene) (s : Summary) : Prop where
  out : sc.trips = []
  completed : s.completed = sc.run.task.completed
  failed : s.failed = sc.run.task.failed
  isCancelled : s.isCancelled = true ↔
    sc.run.task.isCancelled = true ∧ sc.run.task.completed < sc.run.task.total
  /-- A summary without a request to stop is one of all tiles. -/
  exhausted : sc.run.task.isCancelled = false → sc.run.walk.tiles = []

/-- The task has ended as its summary says, and the final update tells so. -/
structure Concluded (sc : Scene) (final : Snapshot) (s : Summary) : Prop where
  settled : Settled sc s
  state : sc.run.task.state = if s.isCancelled then .cancelled else .completed
  final : final = sc.run.task.snapshot

/-- What a run in this phase has done. -/
def Phase.Keeps (sc : Scene) : Phase → Prop
  | .waiting => sc.finals = []
  | .submitting => sc.finals = []
  | .draining => sc.finals = [] ∧ (sc.run.task.isCancelled = false → sc.run.walk.tiles = [])
  | .holding s => sc.finals = [] ∧ Settled sc s
  | .closing final s => sc.finals = [] ∧ Concluded sc final s
  | .leaving s => ∃ final, sc.finals = [final] ∧ Concluded sc final s
  | .ended s => ∃ final, sc.finals = [final] ∧ Concluded sc final s

/-- The run has done what its phase says. -/
def Standing (sc : Scene) : Prop :=
  sc.run.phase.Keeps sc

theorem standing_init (task : Task) : Standing (.start task) := rfl

/-- What a phase promises outlives a step that keeps each of its parts. -/
theorem keeps_mono {sc sc' : Scene} {p : Phase} (h : p.Keeps sc) (hfinals : sc'.finals = sc.finals)
    (hwalk : (sc.run.task.isCancelled = false → sc.run.walk.tiles = []) →
      sc'.run.task.isCancelled = false → sc'.run.walk.tiles = [])
    (hsettled : ∀ s, Settled sc s → Settled sc' s)
    (hconcluded : ∀ final s, Concluded sc final s → Concluded sc' final s) : p.Keeps sc' := by
  cases p with
  | waiting => exact hfinals.trans h
  | submitting => exact hfinals.trans h
  | draining => exact ⟨hfinals.trans h.1, hwalk h.2⟩
  | holding s => exact ⟨hfinals.trans h.1, hsettled s h.2⟩
  | closing final s => exact ⟨hfinals.trans h.1, hconcluded final s h.2⟩
  | leaving s =>
      obtain ⟨final, hf, hc⟩ := h
      exact ⟨final, hfinals.trans hf, hconcluded final s hc⟩
  | ended s =>
      obtain ⟨final, hf, hc⟩ := h
      exact ⟨final, hfinals.trans hf, hconcluded final s hc⟩

/-- As long as a tile is out, no summary has been made. -/
theorem keeps_out {sc sc' : Scene} {p : Phase} (h : p.Keeps sc) (hout : sc.trips ≠ [])
    (hfinals : sc'.finals = sc.finals) (hwalk : sc'.run.walk = sc.run.walk)
    (hasked : sc'.run.task.isCancelled = sc.run.task.isCancelled) : p.Keeps sc' := by
  refine keeps_mono h hfinals ?_ (fun s hs => absurd hs.out hout)
    (fun final s hc => absurd hc.settled.out hout)
  rw [hwalk, hasked]
  exact id

/-- **A request to stop that comes after the summary does not prove it wrong.** -/
theorem settled_stop {limit : Nat} {tiles : List Grid.TileId} {sc : Scene} {s : Summary}
    (ht : Tally limit tiles sc) (h : Settled sc s) :
    Settled { sc with run := sc.run.cancel, stops := sc.stops + 1 } s := by
  refine ⟨h.out, h.completed, h.failed, ?_,
    fun hno => absurd hno (by simp [Run.cancel, Task.cancel])⟩
  rw [h.isCancelled]
  cases hasked : sc.run.task.isCancelled with
  | true => simp [Run.cancel, Task.cancel]
  | false =>
      -- it is the first request, and it finds all tiles counted
      obtain ⟨_, hall⟩ := tally_all ht h.out (h.exhausted hasked) hasked
      have hnot : ¬ sc.run.task.completed < sc.run.task.total := by omega
      simp [Run.cancel, Task.cancel, hnot]

theorem settled_summary {sc : Scene} (hout : sc.trips = [])
    (hwalk : sc.run.task.isCancelled = false → sc.run.walk.tiles = []) :
    Settled sc sc.run.summary :=
  ⟨hout, rfl, rfl, by simp [Run.summary], hwalk⟩

theorem settled_congr {sc sc' : Scene} {s : Summary} (h : Settled sc s)
    (htask : sc'.run.task = sc.run.task) (hwalk : sc'.run.walk = sc.run.walk)
    (htrips : sc'.trips = sc.trips) : Settled sc' s := by
  refine ⟨htrips.trans h.out, ?_, ?_, ?_, ?_⟩
  · rw [htask]; exact h.completed
  · rw [htask]; exact h.failed
  · rw [htask]; exact h.isCancelled
  · rw [htask, hwalk]; exact h.exhausted

theorem concluded_congr {sc sc' : Scene} {final : Snapshot} {s : Summary}
    (h : Concluded sc final s) (htask : sc'.run.task = sc.run.task)
    (hwalk : sc'.run.walk = sc.run.walk) (htrips : sc'.trips = sc.trips) :
    Concluded sc' final s := by
  refine ⟨settled_congr h.settled htask hwalk htrips, ?_, ?_⟩
  · rw [htask]; exact h.state
  · rw [htask]; exact h.final

/-- Ending the task as the summary says. -/
theorem concluded_conclude {sc sc' : Scene} {s : Summary} (h : Settled sc s)
    (hrun : sc'.run = sc.run.conclude s) (htrips : sc'.trips = sc.trips) :
    ∃ final, sc'.run.phase = .closing final s ∧ Concluded sc' final s := by
  rw [hrun]
  refine ⟨_, rfl, ⟨htrips.trans h.out, ?_, ?_, ?_, ?_⟩, ?_, ?_⟩
  all_goals rw [hrun]
  · exact h.completed
  · exact h.failed
  · exact h.isCancelled
  · exact h.exhausted
  · rfl
  · rfl

/-- Making the summary. Whatever the run does next, nothing is out and all is counted. -/
theorem standing_settle {limit : Nat} {tiles : List Grid.TileId} {sc : Scene}
    (ht : Tally limit tiles sc) (h : Phase.draining.Keeps sc) (hzero : sc.run.inFlight = 0) :
    Standing (sc.act .settle) := by
  obtain ⟨hrun, htrips, _, hfinals⟩ := act_quiet sc (apply_settle sc.run) rfl
  have hnone : (sc.act .settle).finals = [] := by
    rw [hfinals, h.1]
    rfl
  have hout : sc.trips = [] := List.eq_nil_of_length_eq_zero (ht.places ▸ hzero)
  have hsettled := settled_summary hout h.2
  unfold Standing
  split at hrun
  · rw [hrun]
    exact ⟨hnone, settled_congr hsettled (by rw [hrun]) (by rw [hrun]) htrips⟩
  · obtain ⟨final, hphase, hc⟩ := concluded_conclude hsettled hrun htrips
    rw [hphase]
    exact ⟨hnone, hc⟩

/-- Every move keeps the promises. -/
theorem standing_move {limit : Nat} {tiles : List Grid.TileId} {asked late room : Bool}
    {sc : Scene} {m : Move} (ht : Tally limit tiles sc) (h : Standing sc)
    (hasked : asked = true → sc.run.task.isCancelled = true)
    (hdue : Due limit asked late room sc.run m) : Standing (sc.act m) := by
  unfold Standing at h
  cases hdue with
  | begin hp =>
      rw [hp] at h
      obtain ⟨_, _, _, hfinals⟩ := act_quiet sc (m := .begin) rfl rfl
      exact hfinals.trans (by rw [h]; rfl)
  | exhaust hp hnone =>
      rw [hp] at h
      obtain ⟨_, _, _, hfinals⟩ := act_quiet sc (m := .exhaust) rfl rfl
      exact ⟨hfinals.trans (by rw [h]; rfl), fun _ => Grid.walk_next_none hnone⟩
  | stop hp hseen =>
      -- tiles may be left, but then the run has been asked to stop
      rw [hp] at h
      obtain ⟨_, _, _, hfinals⟩ := act_quiet sc (m := .stop) rfl rfl
      exact ⟨hfinals.trans (by rw [h]; rfl),
        fun hno => absurd (hasked hseen) (Bool.eq_false_iff.mp hno)⟩
  | sendFirst hp _ _ =>
      have hfinal : sc.run.runningUpdate.final? = none ∧ sc.run.runningUpdate.tile? = none := by
        unfold Run.runningUpdate
        split <;> exact ⟨rfl, rfl⟩
      obtain ⟨_, _, _, hfinals⟩ := act_quiet sc (m := .sendFirst) rfl hfinal.2
      rw [hfinal.1, Option.toList_none, List.append_nil] at hfinals
      show sc.run.phase.Keeps (sc.act .sendFirst)
      rcases hp with hp | hp
      · rw [hp] at h ⊢
        exact hfinals.trans h
      · rw [hp] at h ⊢
        exact ⟨hfinals.trans h.1, h.2⟩
  | submit hp hwalk _ _ =>
      rw [hp] at h
      obtain ⟨hrun, _, _, hfinals⟩ := act_submit sc hwalk
      have hphase : (sc.act .submit).run.phase = .submitting := by
        rw [hrun]
        exact hp
      unfold Standing
      rw [hphase]
      exact hfinals.trans h
  | collect hp =>
      obtain ⟨_, _, _, hfinals⟩ := act_quiet sc (m := .collect) rfl rfl
      show sc.run.phase.Keeps (sc.act .collect)
      rw [hp] at h ⊢
      exact ⟨hfinals.trans (by rw [h.1]; rfl), h.2⟩
  | settle hp hzero _ =>
      rw [hp] at h
      exact standing_settle ht h hzero
  | release hp _ =>
      rw [hp] at h
      obtain ⟨hrun, htrips, _, hfinals⟩ := act_quiet sc (apply_release hp) rfl
      obtain ⟨final, hphase, hc⟩ := concluded_conclude h.2 hrun htrips
      unfold Standing
      rw [hphase]
      exact ⟨hfinals.trans (by rw [h.1]; rfl), hc⟩
  | @close final s hp _ =>
      -- the only move with a final update
      rw [hp] at h
      obtain ⟨hrun, htrips, _, hfinals⟩ := act_quiet sc (apply_close hp) rfl
      unfold Standing
      rw [hrun]
      exact ⟨final, hfinals.trans (by rw [h.1]; rfl),
        concluded_congr h.2 (by rw [hrun]) (by rw [hrun]) htrips⟩
  | leave hp =>
      rw [hp] at h
      obtain ⟨final, hsent, hc⟩ := h
      obtain ⟨hrun, htrips, _, hfinals⟩ := act_quiet sc (apply_leave hp) rfl
      unfold Standing
      rw [hrun]
      exact ⟨final, hfinals.trans (by rw [hsent]; rfl),
        concluded_congr hc (by rw [hrun]) (by rw [hrun]) htrips⟩

/-- **Every step keeps the promises of the phases.** -/
theorem standing_step {settings : RunSettings} {tiles : List Grid.TileId} {sc sc' : Scene}
    (ht : Tally settings.maxConcurrent tiles sc) (h : Standing sc) (hs : Step settings sc sc') :
    Standing sc' := by
  cases hs with
  | move asked late room hasked _ hnext => exact standing_move ht h hasked (next_due hnext)
  | putAway hsub =>
      have hp : sc.run.phase = .submitting := isSubmitting_phase hsub
      obtain ⟨_, _, _, hfinals⟩ := act_quiet sc (m := .collect) rfl rfl
      unfold Standing at h
      show sc.run.phase.Keeps (sc.act .collect)
      rw [hp] at h ⊢
      exact hfinals.trans (by rw [h]; rfl)
  | delay =>
      exact keeps_mono h rfl id (fun s hs => settled_congr hs rfl rfl rfl)
        (fun final s hc => concluded_congr hc rfl rfl rfl)
  | stop =>
      refine keeps_mono h rfl (fun _ hno => absurd hno (by simp [Run.cancel, Task.cancel]))
        (fun s hs => settled_stop ht hs) (fun final s hc => ?_)
      exact ⟨settled_stop ht hc.settled, hc.state, hc.final⟩
  -- the other steps need a tile that is out, so there is no summary yet
  | comeBack success htrips => exact keeps_out h (by simp [htrips]) rfl rfl rfl
  | @tell before after tile success htrips =>
      obtain ⟨_, _, _, hasked, _⟩ := count_task sc.run success settings.throttle
      obtain ⟨hwalk, _, hphase, _, _⟩ := count_run sc.run success settings.throttle
      obtain ⟨_, hfinals⟩ := count_quiet sc success settings.throttle
      show ((sc.run.count success settings.throttle).1.phase).Keeps _
      rw [hphase]
      exact keeps_out h (by simp [htrips]) hfinals hwalk hasked
  | free htrips => exact keeps_out h (by simp [htrips]) rfl rfl rfl

theorem standing_reachable {settings : RunSettings} {task : Task} (hnew : task.IsNew)
    (hends : ∀ r ∈ task.ranges, r.EndsBelow) (hfits : Grid.tileCount task.ranges < UInt64.size)
    {sc : Scene} (h : Reachable settings task sc) : Standing sc := by
  induction h with
  | init => exact standing_init task
  | tail hreach hs ih => exact standing_step (tally_reachable hnew hends hfits hreach) ih hs

/-! ## The account -/

/--
**Every tile of a run is counted once**, whatever happens in whatever order.

At any time the tiles handed out are the first ones of the task, no more are out than may be, and no
more are counted than were handed out. When the run has ended nothing is out; all tiles are counted
unless the run was asked to stop; and its summary, its state and its only final update agree.
-/
theorem run_counts_each_tile_once {settings : RunSettings} {task : Task} {sc : Scene}
    (hnew : task.IsNew) (hends : ∀ r ∈ task.ranges, r.EndsBelow)
    (hfits : Grid.tileCount task.ranges < UInt64.size) (h : Reachable settings task sc) :
    sc.submitted <+: task.tiles ∧
      sc.run.inFlight = sc.trips.length ∧ sc.trips.length ≤ settings.maxConcurrent ∧
      sc.run.task.failed ≤ sc.run.task.completed ∧
      sc.run.task.completed ≤ sc.submitted.length ∧
      sc.submitted.length ≤ sc.run.task.total ∧ sc.run.task.total = task.tiles.length ∧
      ∀ s, sc.run.phase = .ended s →
        sc.trips = [] ∧
        (sc.stops = 0 → sc.submitted = task.tiles ∧
          sc.run.task.completed = sc.run.task.total ∧ sc.run.task.state = .completed) ∧
        (sc.run.task.state = .cancelled ↔
          0 < sc.stops ∧ sc.run.task.completed < sc.run.task.total) ∧
        (sc.run.task.state = .cancelled ∨ sc.run.task.state = .completed) ∧
        s.completed = sc.run.task.completed ∧ s.failed = sc.run.task.failed ∧
        s.succeeded + s.failed = s.completed ∧
        ∃ final, sc.finals = [final] ∧ final.completed = s.completed := by
  have ht := tally_reachable hnew hends hfits h
  have hcounted : sc.run.task.completed ≤ sc.submitted.length := by
    have := ht.counted
    omega
  have hfirst : sc.submitted <+: task.tiles := ⟨_, ht.split⟩
  have htotal : sc.submitted.length ≤ sc.run.task.total := ht.total ▸ hfirst.length_le
  refine ⟨hfirst, ht.places, ht.places ▸ ht.room, ht.failed, hcounted, htotal, ht.total,
    fun s hp => ?_⟩
  have hst := standing_reachable hnew hends hfits h
  unfold Standing at hst
  rw [hp] at hst
  obtain ⟨final, hfinals, hc⟩ := hst
  have hs := hc.settled
  have hstate := hc.state
  have hcancelled : sc.run.task.state = .cancelled ↔ s.isCancelled = true := by
    rw [hstate]
    split
    · rename_i hyes; simp [hyes]
    · rename_i hno; simp [hno]
  refine ⟨hs.out, fun hstops => ?_, ?_, ?_, hs.completed, hs.failed, ?_, final, hfinals, ?_⟩
  · have hasked : sc.run.task.isCancelled = false := by
      rw [← Bool.not_eq_true, ht.asked]
      omega
    obtain ⟨hall, hdone⟩ := tally_all ht hs.out (hs.exhausted hasked) hasked
    refine ⟨hall, hdone, ?_⟩
    rw [hstate, if_neg]
    rw [hs.isCancelled, hasked]
    simp
  · rw [hcancelled, hs.isCancelled, ht.asked]
  · rw [hstate]
    split
    · exact Or.inl rfl
    · exact Or.inr rfl
  · have hfailed : s.failed ≤ s.completed := by
      rw [hs.failed, hs.completed]
      exact ht.failed
    exact Nat.sub_add_cancel hfailed
  · rw [hc.final, hs.completed]
    rfl

/-- Two tiles, side by side. -/
def pair : Task :=
  .counted "pair" [⟨1, 0, 1, 0, 0⟩] 2 default

def oneByOne : RunSettings :=
  { maxConcurrent := 1, throttle := ⟨1, 5.0⟩ }

/-- The run of two tiles that is asked to stop while the second one is out. -/
theorem pair_stopped : ∃ sc s, Reachable oneByOne pair sc ∧ sc.run.phase = .ended s ∧
    sc.stops = 1 ∧ sc.run.task.completed = 1 := by
  have hbegun := move_reachable .begin false (@Reachable.init oneByOne pair) rfl
  have hfirst := move_reachable .submit false hbegun rfl
  have hsecond := move_reachable .submit false
    (@complete_reachable _ _ _ [] [] _ true hfirst rfl) rfl
  have hback := @complete_reachable _ _ _ [] [] _ true (hsecond.tail .stop) rfl
  have hdrained := move_reachable .collect false
    (move_reachable .collect false (move_reachable .exhaust false hback rfl) rfl) rfl
  have hclosed := move_reachable .close true (move_reachable .settle false hdrained rfl) rfl
  exact ⟨_, _, move_reachable .leave false hclosed rfl, rfl, rfl, rfl⟩

theorem pair_counts_each_tile_once : ∃ sc s, Reachable oneByOne pair sc ∧
    sc.run.phase = .ended s ∧ sc.submitted <+: pair.tiles ∧ sc.trips = [] ∧
    sc.run.task.state = .cancelled ∧ s.completed = 1 := by
  obtain ⟨sc, s, h, hp, hstops, hone⟩ := pair_stopped
  have hends : ∀ r ∈ pair.ranges, r.EndsBelow := by
    intro r hr
    rw [List.mem_singleton.mp hr]
    exact ⟨by decide, by decide⟩
  have hnew : pair.IsNew := ⟨pair, none, rfl, rfl⟩
  obtain ⟨hfirst, _, _, _, _, _, htotal, hend⟩ :=
    run_counts_each_tile_once hnew hends (by decide) h
  obtain ⟨hout, _, hcancelled, _, hs, _⟩ := hend s hp
  refine ⟨sc, s, h, hp, hfirst, hout, hcancelled.mpr ⟨by omega, ?_⟩, hs.trans hone⟩
  have htwo : pair.tiles.length = 2 := by decide
  omega

end TileDepot.Warming
