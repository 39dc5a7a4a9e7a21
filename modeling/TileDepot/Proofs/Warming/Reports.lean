import TileDepot.Proofs.Warming.Scene

/-!
# What a run reports

A run sends updates on its way and a last one at its end, and all of them are in order: none counts
less than one before it, and nothing comes after the last. The first holds because an update is made
and sent in one step with the count; the second because a run ends only when nothing is out any
more, and because an update that would look like the last one is not sent on the way.

Nothing is asked of the task here: not that its tiles can be walked, nor that it is a new one.
-/

namespace TileDepot.Warming

/-- The update that an effect sends, on the way or at the end. -/
def Effect.sent? : Effect → Option Snapshot
  | .update s => some s
  | .final s => some s
  | _ => Option.none

/-- The updates sent so far, in order. -/
def Scene.reports (sc : Scene) : List Snapshot :=
  sc.log.filterMap Effect.sent?

/-! ## The order of updates -/

/-- Updates of one task in order, none of them ahead of `completed`. -/
structure InOrder (id : String) (completed : Nat) (reports : List Snapshot) : Prop where
  own : ∀ s ∈ reports, s.task = id
  behind : ∀ s ∈ reports, s.completed ≤ completed
  /-- Only the last one may say that the run is over. -/
  ascending : reports.Pairwise fun a b => a.completed ≤ b.completed ∧ a.isRunning = true
  unfinished : ∀ s ∈ reports, s.isRunning = true → s.completed < s.total

theorem InOrder.later {id : String} {n n' : Nat} {reports : List Snapshot}
    (h : InOrder id n reports) (hle : n ≤ n') : InOrder id n' reports :=
  ⟨h.own, fun s hs => Nat.le_trans (h.behind s hs) hle, h.ascending, h.unfinished⟩

theorem snapshot_running {t : Task} (h : t.snapshot.isRunning = true) :
    t.snapshot.completed < t.snapshot.total := by
  have hboth : (!t.state.isFinished && decide (t.completed < t.total)) = true := h
  rw [Bool.and_eq_true] at hboth
  exact of_decide_eq_true hboth.2

/-- The progress at this moment comes after all updates that say that the run goes on. -/
theorem InOrder.snapshot {t : Task} {reports : List Snapshot}
    (h : InOrder t.id t.completed reports) (hrunning : ∀ s ∈ reports, s.isRunning = true) :
    InOrder t.id t.completed (reports ++ [t.snapshot]) where
  own s hs := by
    rcases List.mem_append.mp hs with hs | hs
    · exact h.own s hs
    · rw [List.mem_singleton.mp hs]
      rfl
  behind s hs := by
    rcases List.mem_append.mp hs with hs | hs
    · exact h.behind s hs
    · rw [List.mem_singleton.mp hs]
      exact Nat.le_refl _
  ascending := by
    refine List.pairwise_append.mpr ⟨h.ascending, List.pairwise_singleton _ _, ?_⟩
    intro a ha b hb
    rw [List.mem_singleton.mp hb]
    exact ⟨h.behind a ha, hrunning a ha⟩
  unfinished s hs := by
    rcases List.mem_append.mp hs with hs | hs
    · exact h.unfinished s hs
    · rw [List.mem_singleton.mp hs]
      exact snapshot_running

/-! ## What is sent when -/

theorem apply_id (r : Run) (m : Move) : (r.apply m).1.task.id = r.task.id := by
  cases m with
  | begin =>
      show r.task.markRunning.id = r.task.id
      unfold Task.markRunning
      split <;> rfl
  | settle =>
      rw [apply_settle]
      dsimp only
      split <;> rfl
  | submit | release | close | leave =>
      unfold Run.apply
      dsimp only
      split <;> rfl
  | sendFirst | stop | exhaust | collect => rfl

theorem count_id (r : Run) (success : Bool) (throttle : Throttle) :
    (r.count success throttle).1.task.id = r.task.id := by
  unfold Run.count Task.record
  dsimp only
  split <;> rfl

/-- What is sent on the way is the progress at this moment, and the run goes on. -/
def Effect.Tells (e : Effect) (t : Task) : Prop :=
  e.sent? = Option.none ∨ e.sent? = Option.some t.snapshot ∧ t.snapshot.isRunning = true

theorem runningUpdate_tells (r : Run) : r.runningUpdate.Tells r.task := by
  unfold Run.runningUpdate
  split
  · rename_i hrunning
    exact Or.inr ⟨rfl, hrunning⟩
  · exact Or.inl rfl

/-- An update that is due is the progress with the tile that was just counted. -/
theorem record_due (t : Task) (success : Bool) (throttle : Throttle) :
    (t.record success throttle).2 = none ∨
      (t.record success throttle).2 = some (t.record success throttle).1.snapshot := by
  unfold Task.record
  dsimp only
  split
  · exact Or.inr rfl
  · exact Or.inl rfl

/-- A tile is counted and told of at the same time. -/
theorem count_tells (r : Run) (success : Bool) (throttle : Throttle) :
    (r.count success throttle).2.Tells (r.count success throttle).1.task := by
  have hdue := record_due r.task success throttle
  unfold Run.count
  generalize r.task.record success throttle = recorded at hdue ⊢
  obtain ⟨task, due⟩ := recorded
  have hdue' : due = none ∨ due = some task.snapshot := hdue
  rcases hdue' with rfl | rfl
  · exact Or.inl rfl
  · dsimp only
    split
    · rename_i hrunning
      exact Or.inr ⟨rfl, hrunning⟩
    · exact Or.inl rfl

theorem act_reports (sc : Scene) (m : Move) :
    (sc.act m).reports = sc.reports ++ (sc.run.apply m).2.sent?.toList := by
  exact filterMap_effect Effect.sent? sc.log (sc.run.apply m).2

theorem count_reports (sc : Scene) (success : Bool) (throttle : Throttle) :
    (sc.count success throttle).reports
      = sc.reports ++ (sc.run.count success throttle).2.sent?.toList := by
  exact filterMap_effect Effect.sent? sc.log (sc.run.count success throttle).2

/-! ## What the phases promise -/

/-- Every update so far says that the run goes on. -/
def Scene.GoesOn (sc : Scene) : Prop :=
  ∀ s ∈ sc.reports, s.isRunning = true

/-- Nothing is out, and the summary has the count. -/
def Scene.Counted (sc : Scene) (s : Summary) : Prop :=
  sc.trips = [] ∧ s.completed = sc.run.task.completed

/-- What a run in this phase has reported. -/
def Phase.Reported (sc : Scene) : Phase → Prop
  | .waiting => sc.GoesOn
  | .submitting => sc.GoesOn
  | .draining => sc.GoesOn
  | .holding s => sc.GoesOn ∧ sc.Counted s
  | .closing final s => sc.GoesOn ∧ sc.Counted s ∧ final = sc.run.task.snapshot ∧
      final.isRunning = false
  | .leaving s => sc.Counted s ∧ ∀ r ∈ sc.reports, r.isRunning = false → r.completed = s.completed
  | .ended s => sc.Counted s ∧ ∀ r ∈ sc.reports, r.isRunning = false → r.completed = s.completed

/-- The updates of a run are in order, and they are what its phase says. -/
structure Orderly (sc : Scene) : Prop where
  /-- Every tile that is out has a place. -/
  places : sc.run.inFlight = sc.trips.length
  inOrder : InOrder sc.run.task.id sc.run.task.completed sc.reports
  phase : sc.run.phase.Reported sc

theorem orderly_init (task : Task) : Orderly (.start task) where
  places := rfl
  inOrder := ⟨by simp [Scene.reports, Scene.start], by simp [Scene.reports, Scene.start],
    List.Pairwise.nil, by simp [Scene.reports, Scene.start]⟩
  phase := by
    intro s hs
    exact absurd hs (by simp [Scene.reports, Scene.start])

/-- What has been reported stays true while nothing is reported and nothing counted. -/
theorem reported_congr {sc sc' : Scene} {p : Phase} (h : p.Reported sc)
    (hreports : sc'.reports = sc.reports) (htrips : sc'.trips = sc.trips)
    (hcompleted : sc'.run.task.completed = sc.run.task.completed)
    (hsnapshot : sc'.run.task.snapshot = sc.run.task.snapshot) : p.Reported sc' := by
  have hgoes : sc.GoesOn → sc'.GoesOn := by
    unfold Scene.GoesOn
    rw [hreports]
    exact id
  have hcounted : ∀ s, sc.Counted s → sc'.Counted s := by
    intro s hs
    exact ⟨htrips.trans hs.1, hs.2.trans hcompleted.symm⟩
  cases p with
  | waiting | submitting | draining => exact hgoes h
  | holding s => exact ⟨hgoes h.1, hcounted s h.2⟩
  | closing final s => exact ⟨hgoes h.1, hcounted s h.2.1, h.2.2.1.trans hsnapshot.symm, h.2.2.2⟩
  | leaving s | ended s => exact ⟨hcounted s h.1, by rw [hreports]; exact h.2⟩

/-- As long as a tile is out, the run goes on. -/
theorem reported_out {sc : Scene} {p : Phase} (h : p.Reported sc) (hout : sc.trips ≠ []) :
    sc.GoesOn ∧ ∀ sc' : Scene, sc'.GoesOn → p.Reported sc' := by
  cases p with
  | waiting | submitting | draining => exact ⟨h, fun _ hgoes => hgoes⟩
  | holding s => exact absurd h.2.1 hout
  | closing final s => exact absurd h.2.1.1 hout
  | leaving s | ended s => exact absurd h.1.1 hout

/-! ## Steps -/

/-- A run that goes on and tells no more than that. -/
theorem orderly_going {sc sc' : Scene} {e : Effect} (h : Orderly sc) (hgoes : sc.GoesOn)
    (hplaces : sc'.run.inFlight = sc'.trips.length) (hid : sc'.run.task.id = sc.run.task.id)
    (hcompleted : sc.run.task.completed ≤ sc'.run.task.completed)
    (hreports : sc'.reports = sc.reports ++ e.sent?.toList) (htells : e.Tells sc'.run.task)
    (hphase : sc'.GoesOn → sc'.run.phase.Reported sc') : Orderly sc' := by
  have hlater := h.inOrder.later hcompleted
  rw [← hid] at hlater
  rcases htells with hnone | ⟨hsome, hrunning⟩
  · have hsame : sc'.reports = sc.reports := by
      rw [hreports, hnone]
      exact List.append_nil _
    refine ⟨hplaces, hsame ▸ hlater, hphase ?_⟩
    unfold Scene.GoesOn
    rw [hsame]
    exact hgoes
  · have hmore : sc'.reports = sc.reports ++ [sc'.run.task.snapshot] := by
      rw [hreports, hsome]
      rfl
    refine ⟨hplaces, hmore ▸ hlater.snapshot hgoes, hphase fun s hs => ?_⟩
    rw [hmore] at hs
    rcases List.mem_append.mp hs with hs | hs
    · exact hgoes s hs
    · rw [List.mem_singleton.mp hs]
      exact hrunning

/-- A move of a run that goes on. -/
theorem orderly_act {sc : Scene} {m : Move} (h : Orderly sc) (hgoes : sc.GoesOn)
    (hm : m ≠ .submit) (htells : (sc.run.apply m).2.Tells (sc.run.apply m).1.task)
    (hphase : (sc.act m).GoesOn → (sc.run.apply m).1.phase.Reported (sc.act m)) :
    Orderly (sc.act m) := by
  obtain ⟨hrun, htile⟩ := apply_tally (r := sc.run) hm
  obtain ⟨_, htrips, _, _⟩ := act_quiet sc rfl htile
  refine orderly_going h hgoes ?_ (apply_id sc.run m) (Nat.le_of_eq hrun.completed.symm)
    (act_reports sc m) htells hphase
  rw [htrips]
  exact hrun.inFlight.trans h.places

/-- Handing out a tile. -/
theorem orderly_submit {sc : Scene} {tile : Grid.TileId} {walk : Grid.Walk} (h : Orderly sc)
    (hp : sc.run.phase = .submitting) (hnext : sc.run.walk.next? = some (tile, walk)) :
    Orderly (sc.act .submit) := by
  have hgoes : sc.GoesOn := by
    have hphase := h.phase
    rw [hp] at hphase
    exact hphase
  obtain ⟨hrun, htrips, _, _⟩ := act_submit sc hnext
  refine orderly_going h hgoes ?_ (apply_id sc.run .submit) ?_ (act_reports sc .submit) ?_ ?_
  · rw [hrun, htrips, List.length_append]
    exact congrArg (· + 1) h.places
  · exact Nat.le_of_eq (congrArg (·.task.completed) hrun).symm
  · rw [apply_submit hnext]
    exact Or.inl rfl
  · rw [hrun]
    show (sc.act .submit).GoesOn → sc.run.phase.Reported (sc.act .submit)
    rw [hp]
    exact id

/-- The final update says that the run is over. -/
theorem conclude_over (r : Run) (s : Summary) :
    ∃ final, (r.conclude s).phase = .closing final s ∧ final = (r.conclude s).task.snapshot ∧
      final.isRunning = false := by
  refine ⟨_, rfl, rfl, ?_⟩
  show (!(if s.isCancelled then State.cancelled else .completed).isFinished && _) = false
  split <;> rfl

/-- Ending the task once nothing is out and all is counted. -/
theorem orderly_conclude {sc : Scene} {m : Move} {s : Summary} (h : Orderly sc)
    (hgoes : sc.GoesOn) (hm : m ≠ .submit) (happly : sc.run.apply m = (sc.run.conclude s, .none))
    (hcounted : sc.Counted s) : Orderly (sc.act m) := by
  obtain ⟨hrun, htrips, _, _⟩ := act_quiet sc happly rfl
  obtain ⟨final, hphase, hfinal, hover⟩ := conclude_over sc.run s
  refine orderly_act h hgoes hm (by rw [happly]; exact Or.inl rfl) (fun hgoes' => ?_)
  rw [happly, hphase]
  exact ⟨hgoes', ⟨htrips.trans hcounted.1, by rw [hrun]; exact hcounted.2⟩, by rw [hrun]; exact hfinal,
    hover⟩

/-- Making the summary: nothing is out, so nothing will be counted any more. -/
theorem orderly_settle {sc : Scene} (h : Orderly sc) (hp : sc.run.phase = .draining)
    (hzero : sc.run.inFlight = 0) : Orderly (sc.act .settle) := by
  have hgoes : sc.GoesOn := by
    have hphase := h.phase
    rw [hp] at hphase
    exact hphase
  have hcounted : sc.Counted sc.run.summary :=
    ⟨List.eq_nil_of_length_eq_zero (h.places ▸ hzero), rfl⟩
  have happly := apply_settle sc.run
  split at happly
  · obtain ⟨hrun, htrips, _, _⟩ := act_quiet sc happly rfl
    refine orderly_act h hgoes (by simp) (by rw [happly]; exact Or.inl rfl) (fun hgoes' => ?_)
    rw [happly]
    exact ⟨hgoes', htrips.trans hcounted.1, by rw [hrun]; rfl⟩
  · exact orderly_conclude h hgoes (by simp) happly hcounted

/-- The final update is sent after all others. -/
theorem orderly_close {sc : Scene} {final : Snapshot} {s : Summary} (h : Orderly sc)
    (hp : sc.run.phase = .closing final s) : Orderly (sc.act .close) := by
  have hphase := h.phase
  rw [hp] at hphase
  obtain ⟨hgoes, hcounted, hfinal, hover⟩ := hphase
  obtain ⟨hrun, htrips, _, _⟩ := act_quiet sc (apply_close hp) rfl
  have hreports : (sc.act .close).reports = sc.reports ++ [final] := by
    rw [act_reports, apply_close hp]
    rfl
  refine ⟨?_, ?_, ?_⟩
  · rw [hrun, htrips]
    exact h.places
  · rw [hrun, hreports, hfinal]
    exact h.inOrder.snapshot hgoes
  · rw [hrun]
    refine ⟨⟨htrips.trans hcounted.1, by rw [hrun]; exact hcounted.2⟩, fun r hr hno => ?_⟩
    rw [hreports] at hr
    rcases List.mem_append.mp hr with hr | hr
    · exact absurd (hgoes r hr) (by simp [hno])
    · rw [List.mem_singleton.mp hr, hfinal]
      exact hcounted.2.symm

theorem orderly_leave {sc : Scene} {s : Summary} (h : Orderly sc)
    (hp : sc.run.phase = .leaving s) : Orderly (sc.act .leave) := by
  have hphase := h.phase
  rw [hp] at hphase
  obtain ⟨hcounted, hover⟩ := hphase
  obtain ⟨hrun, htrips, _, _⟩ := act_quiet sc (apply_leave hp) rfl
  have hreports : (sc.act .leave).reports = sc.reports := by
    rw [act_reports, apply_leave hp]
    exact List.append_nil _
  refine ⟨?_, ?_, ?_⟩
  · rw [hrun, htrips]
    exact h.places
  · rw [hrun, hreports]
    exact h.inOrder
  · rw [hrun]
    exact ⟨⟨htrips.trans hcounted.1, by rw [hrun]; exact hcounted.2⟩, by rw [hreports]; exact hover⟩

theorem orderly_move {limit : Nat} {asked late room : Bool} {sc : Scene} {m : Move}
    (h : Orderly sc) (hdue : Due limit asked late room sc.run m) : Orderly (sc.act m) := by
  have hphase := h.phase
  cases hdue with
  | begin hp | exhaust hp | stop hp =>
      rw [hp] at hphase
      exact orderly_act h hphase (by simp) (Or.inl rfl) id
  | sendFirst hp =>
      have hgoes : sc.GoesOn ∧ ∀ sc' : Scene, sc'.GoesOn → sc.run.phase.Reported sc' := by
        rcases hp with hp | hp
        · rw [hp] at hphase ⊢
          exact ⟨hphase, fun _ => id⟩
        · rw [hp] at hphase ⊢
          exact ⟨hphase, fun _ => id⟩
      exact orderly_act h hgoes.1 (by simp) (runningUpdate_tells sc.run) (hgoes.2 _)
  | submit hp hwalk => exact orderly_submit h hp hwalk
  | collect hp =>
      rw [hp] at hphase
      refine orderly_act h hphase (by simp) (Or.inl rfl) ?_
      show (sc.act .collect).GoesOn → sc.run.phase.Reported _
      rw [hp]
      exact id
  | settle hp hzero => exact orderly_settle h hp hzero
  | release hp =>
      rw [hp] at hphase
      exact orderly_conclude h hphase.1 (by simp) (apply_release hp) hphase.2
  | close hp => exact orderly_close h hp
  | leave hp => exact orderly_leave h hp

/-- **Every step keeps the updates in order.** -/
theorem orderly_step {settings : RunSettings} {sc sc' : Scene} (h : Orderly sc)
    (hs : Step settings sc sc') : Orderly sc' := by
  cases hs with
  | move asked late room _ _ hnext => exact orderly_move h (next_due hnext)
  | putAway hsub =>
      have hp : sc.run.phase = .submitting := isSubmitting_phase hsub
      have hphase := h.phase
      rw [hp] at hphase
      refine orderly_act h hphase (by simp) (Or.inl rfl) ?_
      show (sc.act .collect).GoesOn → sc.run.phase.Reported _
      rw [hp]
      exact id
  | delay => exact ⟨h.places, h.inOrder, reported_congr h.phase rfl rfl rfl rfl⟩
  | stop => exact ⟨h.places, h.inOrder, reported_congr h.phase rfl rfl rfl rfl⟩
  -- a tile is out, so the run goes on
  | @comeBack before after tile success htrips =>
      obtain ⟨hgoes, hstays⟩ := reported_out h.phase (by simp [htrips])
      have hplaces := h.places
      rw [htrips, List.length_append] at hplaces
      refine ⟨?_, h.inOrder, hstays _ hgoes⟩
      show sc.run.inFlight = (before ++ _ :: after).length
      rw [List.length_append]
      exact hplaces
  | @tell before after tile success htrips =>
      obtain ⟨hgoes, hstays⟩ := reported_out h.phase (by simp [htrips])
      obtain ⟨hcompleted, _⟩ := count_task sc.run success settings.throttle
      obtain ⟨_, hout, hphase, _⟩ := count_run sc.run success settings.throttle
      have hplaces := h.places
      rw [htrips, List.length_append] at hplaces
      refine orderly_going h hgoes ?_ (count_id sc.run success settings.throttle) ?_
        (count_reports sc success settings.throttle) (count_tells sc.run success settings.throttle)
        ?_
      · show (sc.run.count success settings.throttle).1.inFlight = (before ++ _ :: after).length
        rw [hout, List.length_append]
        exact hplaces
      · show sc.run.task.completed ≤ (sc.run.count success settings.throttle).1.task.completed
        omega
      · show _ → (sc.run.count success settings.throttle).1.phase.Reported _
        rw [hphase]
        exact hstays _
  | @free before after tile htrips =>
      obtain ⟨hgoes, hstays⟩ := reported_out h.phase (by simp [htrips])
      have hplaces := h.places
      rw [htrips, List.length_append, List.length_cons] at hplaces
      refine ⟨?_, h.inOrder, hstays _ hgoes⟩
      show sc.run.inFlight - 1 = (before ++ after).length
      rw [List.length_append]
      omega

theorem orderly_reachable {settings : RunSettings} {task : Task} {sc : Scene}
    (h : Reachable settings task sc) : Orderly sc := by
  induction h with
  | init => exact orderly_init task
  | tail _ hs ih => exact orderly_step ih hs

/-- An update that says that the run is over has the count of the summary. -/
theorem Orderly.over {sc : Scene} (h : Orderly sc) {r : Snapshot} (hr : r ∈ sc.reports)
    (hover : r.isRunning = false) :
    ∃ s, (sc.run.phase = .leaving s ∨ sc.run.phase = .ended s) ∧ r.completed = s.completed := by
  have hphase := h.phase
  have hgoes : ¬ sc.GoesOn := fun hgoes => absurd (hgoes r hr) (by simp [hover])
  cases hp : sc.run.phase with
  | waiting | submitting | draining =>
      rw [hp] at hphase
      exact absurd hphase hgoes
  | holding s | closing final s =>
      rw [hp] at hphase
      exact absurd hphase.1 hgoes
  | leaving s =>
      rw [hp] at hphase
      exact ⟨s, Or.inl rfl, hphase.2 r hr hover⟩
  | ended s =>
      rw [hp] at hphase
      exact ⟨s, Or.inr rfl, hphase.2 r hr hover⟩

/-! ## The log of a run -/

/-- A run keeps its task's name, and what is in its log stays there. -/
theorem step_grows {settings : RunSettings} {sc sc' : Scene} (hs : Step settings sc sc') :
    sc'.run.task.id = sc.run.task.id ∧ sc.log <+: sc'.log := by
  cases hs with
  | move => exact ⟨apply_id sc.run _, List.prefix_append _ _⟩
  | putAway => exact ⟨apply_id sc.run _, List.prefix_append _ _⟩
  | tell => exact ⟨count_id sc.run _ _, List.prefix_append _ _⟩
  | delay | stop | comeBack | free => exact ⟨rfl, List.prefix_refl _⟩

end TileDepot.Warming
