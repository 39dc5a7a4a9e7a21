import Mathlib.Data.List.Induction
import TileDepot.Proofs.Warming.Takeover
import TileDepot.Proofs.Warming.Throttling

/-!
# Before the initial delay

A run is given an initial delay, so that who has just asked for it has time to subscribe. Its first
update waits for the end of the delay, and a last update that would be early waits as well. The
updates that the throttle asks for do not: a tile that is counted is told of as soon as it is due, by
whoever brings it back, and nobody looks at the delay there (`early_update_sent`).

So until the delay has passed, a run has told of the tiles that it counted as the throttle says, and
of nothing else, but for a last update if it was stopped before its tiles were all counted. This is
the invariant `Early`: a step that does not end the delay keeps it (`early_step`). It says as well
when nothing at all is told in that time: as long as no number of counted tiles is due.
-/

namespace TileDepot.Warming

/-! ## What tiles give rise to -/

/-- The updates on the way that several tiles give rise to. A snapshot that says that the run is over
is not sent on the way. -/
def Task.announced (throttle : Throttle) (t : Task) (outcomes : List Bool) : List Snapshot :=
  (t.told throttle outcomes).filterMap fun answer => answer.filter Snapshot.isRunning

theorem announced_concat (throttle : Throttle) (t : Task) (outcomes : List Bool) (success : Bool) :
    t.announced throttle (outcomes ++ [success]) = t.announced throttle outcomes ++
      (((t.recordAll throttle outcomes).record success throttle).2.filter
        Snapshot.isRunning).toList := by
  unfold Task.announced
  rw [told_concat, List.filterMap_append, Office.filterMap_front, List.filterMap_nil,
    List.append_nil]

/-- So many tiles of the whole are enough for an update when there was none before. -/
def Throttle.Reached (throttle : Throttle) (k total : Nat) : Prop :=
  throttle.tileStep ≤ k ∨ throttle.shareReached k total = true

/-- A tile is told of on the way if it is due and not the last one. -/
theorem record_running {t : Task} (hgoing : t.state.isFinished = false) (success : Bool)
    (throttle : Throttle) : (t.record success throttle).2.filter Snapshot.isRunning ≠ none ↔
      t.completed + 1 < t.total ∧ throttle.Reached (t.completed + 1 - t.lastSent) t.total := by
  have hdue := isDue_iff throttle (t.completed + 1) t.lastSent t.total
  unfold Throttle.Reached
  unfold Task.record Task.snapshot
  dsimp only
  split
  · rename_i hsent
    have hreached := hdue.mp hsent
    simp only [Option.filter, Snapshot.of, hgoing, Bool.not_false, Bool.true_and,
      decide_eq_true_eq]
    split
    · rename_i hbefore
      simpa [hbefore] using hreached.resolve_left (by omega)
    · rename_i hlast
      simp [hlast]
  · rename_i hsilent
    have hnot := mt hdue.mpr hsilent
    simp only [Option.filter_none, ne_eq, not_true_eq_false, false_iff]
    exact fun hreached => hnot (Or.inr hreached.2)

section

variable {throttle : Throttle} {t : Task}

/-- One tile more, and still nothing told on the way. -/
theorem announced_concat_nil (hfresh : t.Fresh) (outcomes : List Bool) (success : Bool) :
    t.announced throttle (outcomes ++ [success]) = [] ↔ t.announced throttle outcomes = [] ∧
      (outcomes.length + 1 < t.total → ¬ throttle.Reached
        (outcomes.length + 1 - (t.recordAll throttle outcomes).lastSent) t.total) := by
  obtain ⟨hcompleted, htotal, hstate⟩ := recordAll_progress throttle outcomes t
  rw [hfresh.completed, Nat.zero_add] at hcompleted
  have hgoing : (t.recordAll throttle outcomes).state.isFinished = false := hstate ▸ hfresh.goesOn
  have hrunning := record_running hgoing success throttle
  rw [hcompleted, htotal] at hrunning
  rw [announced_concat, List.append_eq_nil_iff, Option.toList_eq_nil_iff, ← not_and, ← hrunning,
    not_not]

/-- Of a new task that nothing has been told of, nothing is on record as sent. -/
theorem announced_unsent (hfresh : t.Fresh) (outcomes : List Bool) :
    t.announced throttle outcomes = [] → outcomes.length < t.total →
      (t.recordAll throttle outcomes).lastSent = 0 := by
  induction outcomes using List.reverseRecOn with
  | nil => exact fun _ _ => hfresh.lastSent
  | append_singleton outcomes success ih =>
      intro hnone hbefore
      obtain ⟨hnone, hsilent⟩ := (announced_concat_nil hfresh outcomes success).mp hnone
      rw [List.length_append, List.length_singleton] at hbefore
      obtain ⟨hcompleted, htotal, _⟩ := recordAll_progress throttle outcomes t
      rw [hfresh.completed, Nat.zero_add] at hcompleted
      -- the tile is not the last one, so it was not due
      have hnot : ¬ throttle.isDue (outcomes.length + 1)
          (t.recordAll throttle outcomes).lastSent t.total = true := by
        intro hdue
        rcases (isDue_iff _ _ _ _).mp hdue with hend | hreached
        · omega
        · exact hsilent hbefore hreached
      rw [recordAll_concat]
      unfold Task.record
      dsimp only
      rw [hcompleted, htotal, if_neg hnot]
      exact ih hnone (by omega)

/-- **When nothing is told on the way**: no number of tiles before the last is enough. -/
theorem announced_nil_iff (hfresh : t.Fresh) (outcomes : List Bool) :
    t.announced throttle outcomes = [] ↔
      ∀ k, 1 ≤ k → k ≤ outcomes.length → k < t.total → ¬ throttle.Reached k t.total := by
  induction outcomes using List.reverseRecOn with
  | nil =>
      refine ⟨fun _ k hpos hle => ?_, fun _ => rfl⟩
      rw [List.length_nil] at hle
      omega
  | append_singleton outcomes success ih =>
      -- as nothing was told before, all tiles count towards the first update
      have hunsent : t.announced throttle outcomes = [] → outcomes.length + 1 < t.total →
          outcomes.length + 1 - (t.recordAll throttle outcomes).lastSent = outcomes.length + 1 := by
        intro hnone hbefore
        rw [announced_unsent hfresh outcomes hnone (by omega), Nat.sub_zero]
      rw [announced_concat_nil hfresh, List.length_append, List.length_singleton]
      constructor
      · rintro ⟨hnone, hsilent⟩ k hpos hle hlt
        by_cases hlast : k = outcomes.length + 1
        · subst hlast
          have hnow := hsilent hlt
          rwa [hunsent hnone hlt] at hnow
        · exact ih.mp hnone k hpos (by omega) hlt
      · intro hnever
        have hnone := ih.mpr fun k hpos hle => hnever k hpos (by omega)
        refine ⟨hnone, fun hlt => ?_⟩
        rw [hunsent hnone hlt]
        exact hnever _ (by omega) (Nat.le_refl _) hlt

end

/-! ## Tasks that are told of alike -/

/-- Two tasks of which the same is told, now and for the tiles to come. -/
structure SameProgress (t t' : Task) : Prop where
  id : t'.id = t.id
  total : t'.total = t.total
  completed : t'.completed = t.completed
  lastSent : t'.lastSent = t.lastSent
  finished : t'.state.isFinished = t.state.isFinished

theorem SameProgress.refl (t : Task) : SameProgress t t := ⟨rfl, rfl, rfl, rfl, rfl⟩

theorem SameProgress.trans {t t' t'' : Task} (h : SameProgress t t') (h' : SameProgress t' t'') :
    SameProgress t t'' :=
  ⟨h'.id.trans h.id, h'.total.trans h.total, h'.completed.trans h.completed,
    h'.lastSent.trans h.lastSent, h'.finished.trans h.finished⟩

theorem sameProgress_markRunning (t : Task) : SameProgress t t.markRunning := by
  unfold Task.markRunning
  split
  · rename_i hpending
    refine ⟨rfl, rfl, rfl, rfl, ?_⟩
    rw [beq_iff_eq.mp hpending]
    rfl
  · exact .refl t

theorem SameProgress.record {t t' : Task} (h : SameProgress t t') (success : Bool)
    (throttle : Throttle) :
    SameProgress (t.record success throttle).1 (t'.record success throttle).1 ∧
      (t'.record success throttle).2 = (t.record success throttle).2 := by
  unfold Task.record Task.snapshot
  dsimp only
  rw [h.id, h.total, h.completed, h.lastSent, h.finished]
  split <;> exact ⟨⟨rfl, rfl, rfl, rfl, h.finished⟩, rfl⟩

/-! ## Runs whose delay has not passed -/

/-- The last update has been made. -/
def Phase.isOver : Phase → Bool
  | .closing _ _ | .leaving _ | .ended _ => true
  | _ => false

/-- The run was asked to stop, and has ended before all of its tiles were counted. -/
structure Scene.CutShort (sc : Scene) : Prop where
  phase : sc.run.phase.isOver = true
  state : sc.run.task.state = .cancelled
  asked : sc.run.task.isCancelled = true
  short : sc.run.task.completed < sc.run.task.total

/-- What a run has told before the delay: of each tile it counted as the throttle says. A last update
is there only if the run was cut short. -/
structure Early (throttle : Throttle) (task : Task) (sc : Scene) : Prop where
  /-- The first update waits. -/
  unsent : sc.run.firstSent = false
  total : sc.run.task.total = task.total
  told : ∃ outcomes : List Bool, outcomes.length = sc.run.task.completed ∧
    sc.reports = task.announced throttle outcomes ++ sc.finals ∧
    (SameProgress (task.recordAll throttle outcomes) sc.run.task ∨ sc.CutShort)

section

variable {throttle : Throttle} {task : Task} {sc sc' : Scene}

theorem early_init (hfresh : task.Fresh) : Early throttle task (.start task) :=
  ⟨rfl, rfl, [], hfresh.completed.symm, rfl, Or.inl (.refl task)⟩

/-- While a tile is out, the last update has not been made. -/
theorem Orderly.going (h : Orderly sc) (hout : sc.trips ≠ []) : sc.run.phase.isOver = false := by
  have hphase := h.phase
  cases hp : sc.run.phase with
  | waiting | submitting | draining | holding => rfl
  | closing =>
      rw [hp] at hphase
      exact absurd hphase.2.1.1 hout
  | leaving | ended =>
      rw [hp] at hphase
      exact absurd hphase.1.1 hout

/-- Before the last update has been made, none has been sent. -/
theorem Ending.unsent (h : Ending sc) (hp : sc.run.phase.isOver = false) : sc.finals = [] := by
  have hphase : sc.run.phase.Ends sc := h
  cases hcase : sc.run.phase with
  | waiting | submitting | draining | holding =>
      rw [hcase] at hphase
      exact hphase
  | closing | leaving | ended =>
      rw [hcase] at hp
      exact absurd hp (by simp [Phase.isOver])

/-- The task has ended when the last update has been made. -/
theorem Ending.finished (h : Ending sc) (hp : sc.run.phase.isOver = true) :
    sc.run.task.state.isFinished = true := by
  have hphase : sc.run.phase.Ends sc := h
  cases hcase : sc.run.phase with
  | waiting | submitting | draining | holding =>
      rw [hcase] at hp
      exact absurd hp (by simp [Phase.isOver])
  | closing =>
      rw [hcase] at hphase
      exact hphase.2.1
  | leaving | ended =>
      rw [hcase] at hphase
      exact hphase.1

/-- Once a run is about to give its name back, its last update has been sent. -/
theorem Ending.last (h : Ending sc) {summary : Summary}
    (hp : sc.run.phase = .leaving summary ∨ sc.run.phase = .ended summary) :
    ∃ final, final ∈ sc.finals := by
  have hphase : sc.run.phase.Ends sc := h
  rcases hp with hp | hp
  all_goals
    rw [hp] at hphase
    obtain ⟨_, final, hfinals, _⟩ := hphase
    exact ⟨final, by rw [hfinals]; exact List.mem_cons_self⟩

/-- The progress is that of the tiles counted, as long as the last update has not been made. -/
theorem Early.going (h : Early throttle task sc) (hp : sc.run.phase.isOver = false) :
    ∃ outcomes : List Bool, outcomes.length = sc.run.task.completed ∧
      sc.reports = task.announced throttle outcomes ++ sc.finals ∧
      SameProgress (task.recordAll throttle outcomes) sc.run.task := by
  obtain ⟨outcomes, hlength, hreports, hprogress | hcut⟩ := h.told
  · exact ⟨outcomes, hlength, hreports, hprogress⟩
  · exact absurd (hp.symm.trans hcut.phase) (by simp)

/-- Nothing is counted, and what is told is a last update. -/
theorem early_quiet (h : Early throttle task sc) (news : List Snapshot)
    (hfirst : sc'.run.firstSent = sc.run.firstSent) (hreports : sc'.reports = sc.reports ++ news)
    (hfinals : sc'.finals = sc.finals ++ news) (hprogress : SameProgress sc.run.task sc'.run.task)
    (hcut : sc.CutShort → sc'.CutShort) : Early throttle task sc' := by
  obtain ⟨outcomes, hlength, htold, hstate⟩ := h.told
  refine ⟨hfirst.trans h.unsent, hprogress.total.trans h.total, outcomes,
    hlength.trans hprogress.completed.symm, ?_, hstate.imp (·.trans hprogress) hcut⟩
  rw [hreports, htold, hfinals, List.append_assoc]

/-- A move that neither counts nor tells anything. -/
theorem early_act {m : Move} {r : Run} {effect : Effect} (h : Early throttle task sc)
    (hp : sc.run.phase.isOver = false) (happly : sc.run.apply m = (r, effect))
    (hsent : effect.sent? = none) (hfirst : r.firstSent = sc.run.firstSent)
    (hprogress : SameProgress sc.run.task r.task) : Early throttle task (sc.act m) := by
  have hrun : (sc.act m).run = r := congrArg Prod.fst happly
  have hfinal : effect.final? = none := by
    cases effect with
    | final => exact absurd hsent (by simp [Effect.sent?])
    | none | submitted | update | left => rfl
  refine early_quiet h [] (by rw [hrun]; exact hfirst) ?_ ?_ (by rw [hrun]; exact hprogress)
    fun hcut => absurd (hp.symm.trans hcut.phase) (by simp)
  · rw [act_reports, happly, hsent]
    rfl
  · refine (filterMap_effect Effect.final? sc.log _).trans ?_
    rw [happly, hfinal]
    rfl

/-- A run whose last update has been made sends it and goes. -/
theorem early_over {m : Move} {phase : Phase} {effect : Effect} (h : Early throttle task sc)
    (happly : sc.run.apply m = ({ sc.run with phase }, effect)) (hover : phase.isOver = true)
    (htile : effect.tile? = none) (hsent : effect.sent? = effect.final?) :
    Early throttle task (sc.act m) := by
  obtain ⟨hrun, _, _, hfinals⟩ := act_quiet sc happly htile
  refine early_quiet h effect.final?.toList (by rw [hrun]) ?_ hfinals (by rw [hrun]; exact .refl _)
    fun hcut => ⟨?_, ?_, ?_, ?_⟩
  · rw [act_reports, happly, hsent]
  all_goals rw [hrun]
  exacts [hover, hcut.state, hcut.asked, hcut.short]

/-- Before the delay has passed only a run that is cut short comes to its last update; any other run
holds it. -/
theorem early_settle (h : Early throttle task sc) (hp : sc.run.phase = .draining) :
    Early throttle task (sc.act .settle) := by
  have hgoing : sc.run.phase.isOver = false := by rw [hp]; rfl
  have happly := apply_settle sc.run
  split at happly
  · exact early_act h hgoing happly rfl rfl (.refl _)
  · -- the first update has not been sent, so only a run that was stopped is not held
    rename_i hcut
    have hasked : sc.run.summary.isCancelled = true := by
      simpa [h.unsent] using hcut
    obtain ⟨hcancelled, hshort⟩ := Bool.and_eq_true _ _ ▸ hasked
    obtain ⟨outcomes, hlength, hreports, _⟩ := h.going hgoing
    obtain ⟨hrun, _, _, hfinals⟩ := act_quiet sc happly rfl
    refine ⟨by rw [hrun]; exact h.unsent, by rw [hrun]; exact h.total, outcomes,
      by rw [hrun]; exact hlength, ?_, Or.inr ?_⟩
    · rw [act_reports, happly, hreports, hfinals]
      simp [Effect.sent?, Effect.final?]
    · refine ⟨by rw [hrun]; rfl, ?_, by rw [hrun]; exact hcancelled,
        by rw [hrun]; exact of_decide_eq_true hshort⟩
      rw [hrun]
      show (if sc.run.summary.isCancelled then State.cancelled else .completed) = .cancelled
      rw [if_pos hasked]

/-- Moves of a run that has not seen the end of the delay. -/
theorem early_move {limit : Nat} {asked room : Bool} {m : Move} (h : Early throttle task sc)
    (hdue : Due limit asked false room sc.run m) : Early throttle task (sc.act m) := by
  cases hdue with
  | sendFirst _ hlate | release _ hlate => exact absurd hlate (by simp)
  | begin hp =>
      exact early_act h (by rw [hp]; rfl) rfl rfl rfl (sameProgress_markRunning _)
  | exhaust hp | stop hp | collect hp =>
      exact early_act h (by rw [hp]; rfl) rfl rfl rfl (.refl _)
  | submit hp hwalk =>
      exact early_act h (by rw [hp]; rfl) (apply_submit hwalk) rfl rfl (.refl _)
  | settle hp => exact early_settle h hp
  | close hp => exact early_over h (apply_close hp) rfl rfl rfl
  | leave hp => exact early_over h (apply_leave hp) rfl rfl rfl

/-- What is sent for a tile that is counted. -/
theorem count_sent (r : Run) (success : Bool) (throttle : Throttle) :
    (r.count success throttle).2.sent?
      = (r.task.record success throttle).2.filter Snapshot.isRunning := by
  unfold Run.count
  dsimp only
  cases (r.task.record success throttle).2 with
  | none => rfl
  | some s =>
      dsimp only [Option.filter]
      split <;> rfl

/-- A tile that is counted is told of as the throttle says, whatever time it is. -/
theorem early_tell (h : Early throttle task sc) (hending : Ending sc)
    (hp : sc.run.phase.isOver = false) (success : Bool)
    (hrun : sc'.run = (sc.run.count success throttle).1)
    (hlog : sc'.log = (sc.count success throttle).log) : Early throttle task sc' := by
  obtain ⟨outcomes, hlength, hreports, hprogress⟩ := h.going hp
  obtain ⟨hcompleted, _, htotal, _, _⟩ := count_task sc.run success throttle
  obtain ⟨hrecorded, hsame⟩ := hprogress.record success throttle
  have hnone : sc.finals = [] := hending.unsent hp
  have hfinals : sc'.finals = [] := by
    unfold Scene.finals
    rw [hlog]
    exact (count_quiet sc success throttle).2.trans hnone
  have hnews : sc'.reports = (sc.count success throttle).reports := by
    unfold Scene.reports
    rw [hlog]
  refine ⟨by rw [hrun]; exact h.unsent, by rw [hrun, htotal]; exact h.total, outcomes ++ [success],
    ?_, ?_, Or.inl ?_⟩
  · rw [hrun, hcompleted, List.length_append, hlength]
    rfl
  · rw [hnews, count_reports, count_sent, hsame, hreports, hfinals, hnone, announced_concat,
      List.append_nil, List.append_nil]
  · rw [hrun, recordAll_concat]
    exact hrecorded

/-- **Every step before the end of the delay keeps it so.** -/
theorem early_step {settings : RunSettings} (h : Early settings.throttle task sc)
    (horderly : Orderly sc) (hending : Ending sc) (hs : Step settings sc sc')
    (hearly : sc'.delayPassed = false) : Early settings.throttle task sc' := by
  cases hs with
  | @move m asked late room _ hlate hnext =>
      -- nobody can have seen the end of a delay that has not passed
      have hnot : late = false := by
        rw [← Bool.not_eq_true]
        exact fun hseen => absurd (hearly.symm.trans (hlate hseen)) (by simp)
      subst hnot
      exact early_move h (next_due hnext)
  | putAway hsub =>
      have hp : sc.run.phase = .submitting := isSubmitting_phase hsub
      exact early_act (m := .collect) h (by rw [hp]; rfl) rfl rfl rfl (.refl _)
  | delay => exact absurd hearly (by simp)
  | stop =>
      refine early_quiet h [] rfl (List.append_nil _).symm (List.append_nil _).symm
        ⟨rfl, rfl, rfl, rfl, rfl⟩ fun hcut => ⟨hcut.phase, hcut.state, rfl, hcut.short⟩
  | comeBack | free =>
      exact early_quiet h [] rfl (List.append_nil _).symm (List.append_nil _).symm
        ⟨rfl, rfl, rfl, rfl, rfl⟩ fun hcut => ⟨hcut.phase, hcut.state, hcut.asked, hcut.short⟩
  -- here the throttle has its say, whatever the time
  | @tell before after tile success htrips =>
      exact early_tell h hending (horderly.going (by simp [htrips])) success rfl rfl

/-- The delay does not come back. -/
theorem delay_stays {settings : RunSettings} (hs : Step settings sc sc')
    (hearly : sc'.delayPassed = false) : sc.delayPassed = false := by
  cases hs with
  | delay => exact absurd hearly (by simp)
  | move | putAway | stop | comeBack | tell | free => exact hearly

theorem early_reachable {settings : RunSettings} (hfresh : task.Fresh)
    (h : Reachable settings task sc) :
    Ending sc ∧ (sc.delayPassed = false → Early settings.throttle task sc) := by
  induction h with
  | init => exact ⟨ending_init task, fun _ => early_init hfresh⟩
  | tail hreach hs ih =>
      obtain ⟨hending, hearly⟩ := ih
      exact ⟨ending_step hending hs, fun hnow =>
        early_step (hearly (delay_stays hs hnow)) (orderly_reachable hreach) hending hs hnow⟩

/-- As long as there is no last update, all that has been told says that the run goes on. -/
theorem Early.goesOn (h : Early throttle task sc) (hnone : sc.finals = []) : sc.GoesOn := by
  obtain ⟨outcomes, _, hreports, _⟩ := h.told
  intro s hs
  rw [hreports, hnone, List.append_nil] at hs
  obtain ⟨answer, _, hkept⟩ := List.mem_filterMap.mp hs
  exact (Option.filter_eq_some_iff.mp hkept).2

/-- Only of a run that was cut short there is a last update before the delay. -/
theorem Early.cutShort (h : Early throttle task sc) (hfresh : task.Fresh) (hending : Ending sc)
    (hlast : sc.finals ≠ []) : sc.CutShort := by
  have hover : sc.run.phase.isOver = true := by
    rw [← Bool.not_eq_false]
    exact fun hp => hlast (hending.unsent hp)
  obtain ⟨outcomes, _, _, hprogress | hcut⟩ := h.told
  · -- a task that has only counted tiles has not ended
    obtain ⟨_, _, hstate⟩ := recordAll_progress throttle outcomes task
    have hgoing := hprogress.finished
    rw [hstate, hfresh.goesOn, hending.finished hover] at hgoing
    exact absurd hgoing (by simp)
  · exact hcut

end

/-! ## Among all runs -/

/-- **What happens to a run among others is what can happen to it alone.** -/
theorem Office.launched_reachable {w₀ w : Office} {task : Task} (h : Later (w₀.launch task) w) :
    ∃ sc, w.scenes[w₀.scenes.length]? = some sc ∧ Reachable w₀.desk.settings task sc := by
  induction h with
  | refl => exact ⟨.start task, List.getElem?_concat_length, .init⟩
  | @tail w w' hlater hs ih =>
      obtain ⟨sc, hscene, hreach⟩ := ih
      have hsettings : w.desk.settings = (w₀.launch task).desk.settings := settings_later hlater
      obtain ⟨sc', hscene', rfl | hstep⟩ := scene_step hs hscene
      · exact ⟨sc', hscene', hreach⟩
      · exact ⟨sc', hscene', hreach.tail (hsettings ▸ hstep)⟩

namespace Watch

/--
**What is told of a run before its initial delay has passed.**

Nothing of the run comes into the queue that it has not told, and it has told of the tiles it counted
what the throttle says, and a last update only if it was stopped before all its tiles were counted.
So a run without a last update has told nothing at all if, and only if, no number of tiles that it
came to, short of all of them, is enough for the throttle. Whatever it has told by then, its last
update comes into the queue later.
-/
theorem early_updates_throttled {settings : RunSettings} {v₀ v : Watch} {task : Task} {sc : Scene}
    (hbefore : Later (.start settings) v₀) (hfresh : task.Fresh)
    (hlater : Later (v₀.launch task) v)
    (hscene : v.office.scenes[v₀.office.scenes.length]? = some sc)
    (hearly : sc.delayPassed = false) :
    let run := v₀.office.scenes.length
    (∀ s, (run, s) ∈ v.queued → s ∈ sc.reports) ∧
    (∃ outcomes : List Bool, outcomes.length = sc.run.task.completed ∧
      sc.reports = task.announced settings.throttle outcomes ++ sc.finals) ∧
    (sc.finals ≠ [] → sc.run.task.state = .cancelled ∧ sc.run.task.isCancelled = true ∧
      sc.run.task.completed < task.total) ∧
    (sc.finals = [] → (sc.reports = [] ↔
      ∀ k, 1 ≤ k → k ≤ sc.run.task.completed → k < task.total →
        k < settings.throttle.tileStep ∧
          settings.throttle.shareReached k task.total = false)) ∧
    (sc.finals = [] → ∀ v' sc', Later v v' → v'.office.scenes[run]? = some sc' → ∀ summary,
      sc'.run.phase = .leaving summary ∨ sc'.run.phase = .ended summary →
      ∃ final, final.task = task.id ∧ final.isRunning = false ∧
        ∃ i, v.queued.length ≤ i ∧ v'.queued[i]? = some (run, final)) := by
  intro run
  have hall := (hbefore.trans (launch_later v₀ task)).trans hlater
  obtain ⟨sc₁, hscene₁, hreach⟩ := Office.launched_reachable (office_later hlater)
  cases hscene₁.symm.trans hscene
  have hsettings : v₀.office.desk.settings = settings :=
    Office.settings_later (office_later hbefore)
  rw [hsettings] at hreach
  obtain ⟨hending, hthrottled⟩ := early_reachable hfresh hreach
  have hthen := hthrottled hearly
  obtain ⟨outcomes, hlength, hreports, _⟩ := hthen.told
  refine ⟨fun s hqueued => ?_, ⟨outcomes, hlength, hreports⟩, fun hlast => ?_, fun hnone => ?_,
    fun hnone v' sc' hafter hscene' summary hp => ?_⟩
  · obtain ⟨sc₂, hscene₂, hreported⟩ :=
      (recorded_later (recorded_start settings) hall).reported run s hqueued
    cases hscene₂.symm.trans hscene
    exact hreported
  · have hcut := hthen.cutShort hfresh hending hlast
    exact ⟨hcut.state, hcut.asked, hthen.total ▸ hcut.short⟩
  · rw [hreports, hnone, List.append_nil, announced_nil_iff hfresh, hlength]
    unfold Throttle.Reached
    simp only [not_or, Nat.not_le, Bool.not_eq_true]
  · have hending' := Office.ending_later (office_later (hall.trans hafter)) run sc' hscene'
    obtain ⟨final, hfinal⟩ := hending'.last hp
    obtain ⟨hown, hover, hqueued⟩ :=
      goesOn_final hall hafter hscene (hthen.goesOn hnone) hscene' hfinal
    obtain ⟨sc₂, hscene₂, hid⟩ := Office.scene_later (office_later (hlater.trans hafter))
      (List.getElem?_concat_length (l := v₀.office.scenes) (a := Scene.start task))
    cases hscene₂.symm.trans hscene'
    exact ⟨final, hown.trans hid, hover, hqueued⟩

/-- What is in the queue is on record, with a run that has told it. -/
theorem queued_of_queue {settings : RunSettings} {v : Watch} (h : Later (.start settings) v)
    {s : Snapshot} (hs : s ∈ v.office.desk.queue) :
    ∃ n sc, (n, s) ∈ v.queued ∧ v.office.scenes[n]? = some sc ∧ s ∈ sc.reports := by
  have hrecorded := recorded_later (recorded_start settings) h
  have hmem : s ∈ (v.queued.drop v.passed).map (·.2) := by
    rw [hrecorded.transit]
    exact List.mem_append_right _ hs
  obtain ⟨⟨n, s'⟩, hdropped, rfl⟩ := List.mem_map.mp hmem
  have hentry := List.mem_of_mem_drop hdropped
  obtain ⟨sc, hscene, hreported⟩ := hrecorded.reported n s' hentry
  exact ⟨n, sc, hentry, hscene, hreported⟩

/-- The run of two tiles when its first tile has been counted, and when the update has been sent on.
The delay has not passed, and nobody has asked the run to stop. -/
theorem soloAgain_counted : ∃ w w' sc, Office.Later (Office.audienceOfOne.launch soloAgain) w ∧
    w.scenes = [sc] ∧ w.desk.queue = [.of "solo" 1 2 true] ∧ sc.delayPassed = false ∧
    sc.stops = 0 ∧ sc.run.task.completed = 1 ∧ Office.Later w w' ∧ w'.scenes = [sc] ∧
    w'.inbox 0 = [.of "solo" 1 2 true] := by
  have hbegun := @Office.move_later _ _ 0 _ .begin
    (@Office.Later.refl (Office.audienceOfOne.launch soloAgain)) rfl rfl rfl
  have hout := @Office.move_later _ _ 0 _ .submit hbegun rfl rfl rfl
  have hback := @Office.complete_later _ _ 0 _ [] [] _ true hout rfl rfl rfl rfl
  exact ⟨_, _, _, hback, rfl, rfl, rfl, rfl, rfl, (Office.Later.refl.tail (.take rfl rfl)).tail
    (.publish rfl), rfl, rfl⟩

/-- **An update is sent before the delay has passed.** Nobody has asked this run to stop, and its
first tile is half of the whole. Its update goes into the queue, and on into the channel that follows
the run. -/
theorem early_update_sent : ∃ v : Watch, Later (.start {}) v ∧
    (∃ sc, v.office.scenes = [sc] ∧ sc.delayPassed = false ∧ sc.stops = 0) ∧
    (0, .of "solo" 1 2 true) ∈ v.queued ∧ v.office.inbox 0 = [.of "solo" 1 2 true] := by
  obtain ⟨w, w', sc, hw, hscenes, hqueue, hearly, hstops, _, hw', hscenes', hinbox⟩ :=
    soloAgain_counted
  obtain ⟨v, hlater, rfl⟩ := record_later (v := .start {})
    ((audienceOfOne_later.tail (.launch soloAgain)).trans hw)
  obtain ⟨v', hlater', rfl⟩ := record_later hw'
  obtain ⟨n, sc', hqueued, hscene, _⟩ :=
    queued_of_queue hlater (by rw [hqueue]; exact List.mem_cons_self)
  -- there is only one run that the update can be of
  obtain ⟨hlt, _⟩ := List.getElem?_eq_some_iff.mp hscene
  have hfirst : n = 0 := by
    rw [hscenes, List.length_singleton] at hlt
    omega
  exact ⟨v', hlater.trans hlater', ⟨sc, hscenes', hearly, hstops⟩,
    (queued_later hlater').1.subset (hfirst ▸ hqueued), hinbox⟩

/-- The same run: it has told of its first tile, and its last update is to come. -/
theorem soloAgain_throttled : ∃ v₀ v sc, Later (.start {}) v₀ ∧ Later (v₀.launch soloAgain) v ∧
    v.office.scenes[v₀.office.scenes.length]? = some sc ∧ sc.delayPassed = false ∧
    ∃ outcomes : List Bool, outcomes.length = 1 ∧
      sc.reports = soloAgain.announced .default outcomes ++ sc.finals := by
  obtain ⟨v₀, hbefore, hoffice⟩ := record_later (v := .start {}) audienceOfOne_later
  obtain ⟨w, _, sc, hw, hscenes, _, hearly, _, hone, _⟩ := soloAgain_counted
  obtain ⟨v, hlater, rfl⟩ := record_later (v := v₀.launch soloAgain) (by
    show Office.Later (v₀.office.launch soloAgain) _
    rw [hoffice]
    exact hw)
  have hscene : v.office.scenes[v₀.office.scenes.length]? = some sc := by
    rw [hscenes, hoffice]
    rfl
  have hmade : Task.ofRanges? "solo" [⟨1, 0, 1, 0, 0⟩] default = some soloAgain := rfl
  obtain ⟨_, ⟨outcomes, hlength, hreports⟩, _⟩ :=
    early_updates_throttled hbefore (ofRanges_fresh hmade) hlater hscene hearly
  exact ⟨v₀, v, sc, hbefore, hlater, hscene, hearly, outcomes, hlength.trans hone, hreports⟩

end Watch

end TileDepot.Warming
