import TileDepot.Proofs.Warming.Ownership
import TileDepot.Server.ProgressLink

/-!
# Joining a run

A client that joins a task first has its channel tied to it, and then is told the progress of the
run that owns the name. A run first ends its task, then puts its last update into the queue, and then
gives its name back. Whatever comes between these steps, a client that is told that the run goes on
does not miss the last update (`joined_hears_end`): while the task has not ended, the last update is
not in the queue, so it is sent on when the client has long been on the list.

`Watch` is the office with a record of everything that was put into the queue, and of which run. The
record tells the last update of one run from those of others with the same name.
-/

namespace TileDepot.Warming

/-! ## What a run says of its end -/

/-- What a run in this phase has sent as its last update. Once there is one to be sent, the task has
ended. -/
def Phase.Ends (sc : Scene) : Phase → Prop
  | .waiting => sc.finals = []
  | .submitting => sc.finals = []
  | .draining => sc.finals = []
  | .holding _ => sc.finals = []
  | .closing final _ => sc.finals = [] ∧ sc.run.task.state.isFinished = true ∧
      final.isRunning = false
  | .leaving _ => sc.run.task.state.isFinished = true ∧
      ∃ final, sc.finals = [final] ∧ final.isRunning = false
  | .ended _ => sc.run.task.state.isFinished = true ∧
      ∃ final, sc.finals = [final] ∧ final.isRunning = false

/-- The run has said what its phase says. -/
def Ending (sc : Scene) : Prop :=
  sc.run.phase.Ends sc

theorem ending_init (task : Task) : Ending (.start task) := rfl

theorem ends_congr {sc sc' : Scene} {p : Phase} (h : p.Ends sc) (hfinals : sc'.finals = sc.finals)
    (hstate : sc'.run.task.state = sc.run.task.state) : p.Ends sc' := by
  cases p with
  | waiting | submitting | draining | holding => exact hfinals.trans h
  | closing => exact ⟨hfinals.trans h.1, hstate ▸ h.2.1, h.2.2⟩
  | leaving | ended => exact ⟨hstate ▸ h.1, hfinals ▸ h.2⟩

/-- Ending the task comes before its last update. -/
theorem ending_conclude {sc : Scene} {m : Move} {s : Summary} (hnone : sc.finals = [])
    (happly : sc.run.apply m = (sc.run.conclude s, .none)) : Ending (sc.act m) := by
  obtain ⟨hrun, _, _, hfinals⟩ := act_quiet sc happly rfl
  obtain ⟨final, hphase, _, hover⟩ := conclude_over sc.run s
  unfold Ending
  rw [hrun, hphase]
  refine ⟨hfinals.trans (by rw [hnone]; rfl), ?_, hover⟩
  rw [hrun]
  show (if s.isCancelled then State.cancelled else .completed).isFinished = true
  split <;> rfl

theorem ending_move {limit : Nat} {asked late room : Bool} {sc : Scene} {m : Move}
    (h : Ending sc) (hdue : Due limit asked late room sc.run m) : Ending (sc.act m) := by
  have hphase : sc.run.phase.Ends sc := h
  have hquiet : ∀ {r : Run} {effect : Effect}, sc.run.apply m = (r, effect) →
      effect.tile? = none → effect.final? = none → (sc.act m).finals = sc.finals := by
    intro r effect happly htile hfinal
    obtain ⟨_, _, _, hfinals⟩ := act_quiet sc happly htile
    rw [hfinals, hfinal]
    exact List.append_nil _
  cases hdue with
  | begin hp | exhaust hp | stop hp =>
      rw [hp] at hphase
      exact (hquiet rfl rfl rfl).trans hphase
  | collect hp =>
      refine ends_congr (p := sc.run.phase) hphase (hquiet rfl rfl rfl) rfl
  | sendFirst hp =>
      have hupdate : sc.run.runningUpdate.tile? = none ∧ sc.run.runningUpdate.final? = none := by
        unfold Run.runningUpdate
        split <;> exact ⟨rfl, rfl⟩
      exact ends_congr (p := sc.run.phase) hphase (hquiet rfl hupdate.1 hupdate.2) rfl
  | submit hp hwalk =>
      obtain ⟨hrun, _, _, hfinals⟩ := act_submit sc hwalk
      unfold Ending
      rw [hrun]
      exact ends_congr (p := sc.run.phase) hphase hfinals (by rw [hrun])
  | settle hp =>
      rw [hp] at hphase
      have happly := apply_settle sc.run
      split at happly
      · obtain ⟨hrun, _, _, _⟩ := act_quiet sc happly rfl
        unfold Ending
        rw [hrun]
        exact (hquiet happly rfl rfl).trans hphase
      · exact ending_conclude hphase happly
  | release hp =>
      rw [hp] at hphase
      exact ending_conclude hphase (apply_release hp)
  | @close final s hp =>
      rw [hp] at hphase
      obtain ⟨hnone, hstate, hover⟩ := hphase
      obtain ⟨hrun, _, _, hfinals⟩ := act_quiet sc (apply_close hp) rfl
      unfold Ending
      rw [hrun]
      exact ⟨by rw [hrun]; exact hstate, final, by rw [hfinals, hnone]; rfl, hover⟩
  | leave hp =>
      rw [hp] at hphase
      obtain ⟨hrun, _, _, _⟩ := act_quiet sc (apply_leave hp) rfl
      unfold Ending
      rw [hrun]
      exact ⟨by rw [hrun]; exact hphase.1, hquiet (apply_leave hp) rfl rfl ▸ hphase.2⟩

/-- **Every step keeps what a run says of its end.** -/
theorem ending_step {settings : RunSettings} {sc sc' : Scene} (h : Ending sc)
    (hs : Step settings sc sc') : Ending sc' := by
  have hphase : sc.run.phase.Ends sc := h
  cases hs with
  | move asked late room _ _ hnext => exact ending_move h (next_due hnext)
  | putAway hsub =>
      obtain ⟨_, _, _, hfinals⟩ := act_quiet sc (m := .collect) rfl rfl
      exact ends_congr (p := sc.run.phase) hphase (hfinals.trans (List.append_nil _)) rfl
  | @tell _ _ _ success _ =>
      obtain ⟨_, _, hsame, _, hfinal⟩ := count_run sc.run success settings.throttle
      obtain ⟨_, _, _, _, hstate⟩ := count_task sc.run success settings.throttle
      unfold Ending
      show (sc.run.count success settings.throttle).1.phase.Ends _
      rw [hsame]
      exact ends_congr hphase (filterMap_quiet hfinal sc.log) hstate
  | delay | stop | comeBack | free => exact ends_congr (p := sc.run.phase) hphase rfl rfl

/-- A last update says that the run is over, and there is no other. -/
theorem Ending.final {sc : Scene} (h : Ending sc) {s : Snapshot} (hs : s ∈ sc.finals) :
    s.isRunning = false := by
  have hphase : sc.run.phase.Ends sc := h
  have hlast : (∃ final, sc.finals = [final] ∧ final.isRunning = false) → s.isRunning = false := by
    rintro ⟨final, hfinals, hover⟩
    rw [hfinals] at hs
    rw [List.mem_singleton.mp hs]
    exact hover
  have hnone : sc.finals ≠ [] := List.ne_nil_of_mem hs
  cases hp : sc.run.phase with
  | waiting | submitting | draining | holding =>
      rw [hp] at hphase
      exact absurd hphase hnone
  | closing =>
      rw [hp] at hphase
      exact absurd hphase.1 hnone
  | leaving | ended =>
      rw [hp] at hphase
      exact hlast hphase.2

/-- As long as a run goes on, none of its updates says that it is over. -/
theorem Ending.unreported {sc : Scene} (h : Ending sc) (horderly : Orderly sc)
    (hrunning : sc.run.task.snapshot.isRunning = true) {s : Snapshot} (hs : s ∈ sc.reports) :
    s.isRunning = true := by
  have hphase : sc.run.phase.Ends sc := h
  have hstate : sc.run.task.state.isFinished = false := by
    have hboth : (!sc.run.task.state.isFinished &&
      decide (sc.run.task.completed < sc.run.task.total)) = true := hrunning
    rw [Bool.and_eq_true, Bool.not_eq_true'] at hboth
    exact hboth.1
  rw [← Bool.not_eq_false]
  intro hover
  obtain ⟨summary, hp | hp, _⟩ := horderly.over hs hover
  all_goals
    rw [hp] at hphase
    exact absurd hphase.1 (by simp [hstate])

/-! ## The record of the queue -/

/-- An office with a record of its queue. -/
structure Watch where
  office : Office
  /-- All updates that were put into the queue, the first one first, each with its run. -/
  queued : List (Nat × Snapshot)
  /-- How many of them have been sent on. -/
  passed : Nat

namespace Watch

def start (settings : RunSettings) : Watch :=
  ⟨.start settings, [], 0⟩

/-- The dispatcher sends on what it has in its hand. -/
def publish (v : Watch) (s : Snapshot) : Watch :=
  { v with office := v.office.publish s, passed := v.passed + 1 }

/-- One thing that happens, put on record if it is about the queue. -/
inductive Step : Watch → Watch → Prop where
  | work {v : Watch} {run : Nat} {sc sc' : Scene} {kept : List Snapshot} :
      v.office.scenes[run]? = some sc → Warming.Step v.office.desk.settings sc sc' →
      (sc'.finals ≠ sc.finals → v.office.desk.hasRoomFor run = true) →
      (v.office.advance run sc sc').desk.queue = v.office.desk.queue ++ kept →
      Step v { v with
        office := v.office.advance run sc sc'
        queued := v.queued ++ kept.map fun s => (run, s) }
  | publish {v : Watch} {s : Snapshot} : v.office.hand = some s → Step v (v.publish s)
  /-- Nothing comes into the queue, and nothing is sent on. -/
  | quiet {v : Watch} {w : Office} : Office.Step v.office w → w.transit = v.office.transit →
      Step v { v with office := w }

/-- What can come of it. -/
inductive Later (v : Watch) : Watch → Prop where
  | refl : Later v v
  | tail {v' v'' : Watch} : Later v v' → Step v' v'' → Later v v''

theorem Later.trans {v v' v'' : Watch} (h : Later v v') (h' : Later v' v'') : Later v v'' := by
  induction h' with
  | refl => exact h
  | tail _ hs ih => exact ih.tail hs

theorem office_step {v v' : Watch} (hs : Step v v') : Office.Step v.office v'.office := by
  cases hs with
  | work hscene hstep hroom _ => exact .work hscene hstep hroom
  | publish hhand => exact .publish hhand
  | quiet hstep _ => exact hstep

theorem office_later {v v' : Watch} (h : Later v v') : Office.Later v.office v'.office := by
  induction h with
  | refl => exact .refl
  | tail _ hs ih => exact ih.tail (office_step hs)

/-- **Whatever happens in an office can be put on record.** -/
theorem record_step {v : Watch} {w : Office} (hs : Office.Step v.office w) :
    ∃ v', Step v v' ∧ v'.office = w := by
  have hquiet : w.transit = v.office.transit → ∃ v', Step v v' ∧ v'.office = w :=
    fun htransit => ⟨_, .quiet hs htransit, rfl⟩
  cases hs with
  | @work run sc sc' hscene hstep hroom =>
      obtain ⟨_, kept, _, _, hqueue⟩ := Office.advance_finals v.office run hstep
      exact ⟨_, .work hscene hstep hroom hqueue, rfl⟩
  | publish hhand => exact ⟨_, .publish hhand, rfl⟩
  | lineUp run =>
      refine hquiet ?_
      show v.office.hand.toList ++ (v.office.desk.lineUp run).queue = _
      rw [(Office.lineUp_same v.office.desk run).1]
      rfl
  | @take s desk hhand htake =>
      refine hquiet ?_
      show s :: desk.queue = v.office.hand.toList ++ v.office.desk.queue
      rw [hhand, (Office.takeUpdate_eq htake).1]
      rfl
  | launch | addChannel | attach | unsubscribe | receive | close => exact hquiet rfl

theorem record_later {v : Watch} {w : Office} (h : Office.Later v.office w) :
    ∃ v', Later v v' ∧ v'.office = w := by
  induction h with
  | refl => exact ⟨v, .refl, rfl⟩
  | tail _ hs ih =>
      obtain ⟨v', hlater, rfl⟩ := ih
      obtain ⟨v'', hstep, hoffice⟩ := record_step hs
      exact ⟨v'', hlater.tail hstep, hoffice⟩

theorem queued_step {v v' : Watch} (hs : Step v v') :
    v.queued <+: v'.queued ∧ v.passed ≤ v'.passed := by
  cases hs with
  | work => exact ⟨List.prefix_append _ _, Nat.le_refl _⟩
  | publish => exact ⟨List.prefix_refl _, Nat.le_succ _⟩
  | quiet => exact ⟨List.prefix_refl _, Nat.le_refl _⟩

theorem queued_later {v v' : Watch} (h : Later v v') :
    v.queued <+: v'.queued ∧ v.passed ≤ v'.passed := by
  induction h with
  | refl => exact ⟨List.prefix_refl _, Nat.le_refl _⟩
  | tail _ hs ih =>
      obtain ⟨hqueued, hpassed⟩ := queued_step hs
      exact ⟨ih.1.trans hqueued, Nat.le_trans ih.2 hpassed⟩

theorem queued_get {v v' : Watch} (h : Later v v') {i : Nat} {e : Nat × Snapshot}
    (hget : v.queued[i]? = some e) : v'.queued[i]? = some e := by
  obtain ⟨hlt, _⟩ := List.getElem?_eq_some_iff.mp hget
  have hsame := List.prefix_iff_getElem?.mp (queued_later h).1 i hlt
  rw [← List.getElem?_eq_getElem hlt] at hsame
  exact hsame.trans hget

/-- The record is right. -/
structure Recorded (v : Watch) : Prop where
  passed : v.passed ≤ v.queued.length
  /-- What is on record and has not been sent on is on the way. -/
  transit : (v.queued.drop v.passed).map (·.2) = v.office.transit
  reported : ∀ (n : Nat) (s : Snapshot), (n, s) ∈ v.queued →
    ∃ sc, v.office.scenes[n]? = some sc ∧ s ∈ sc.reports
  /-- No last update is missing. -/
  finals : ∀ (n : Nat) (sc : Scene), v.office.scenes[n]? = some sc →
    ∀ s ∈ sc.finals, (n, s) ∈ v.queued

theorem recorded_start (settings : RunSettings) : Recorded (.start settings) where
  passed := Nat.le_refl _
  transit := rfl
  reported n s h := absurd h (by simp [start])
  finals n sc h := absurd h (by simp [start, Office.start])

/-- A last update of any run after a step in the scene of one run is an old one, or it was put into
the queue. -/
theorem finals_work {w : Office} {run : Nat} {settings : RunSettings} {sc sc' : Scene}
    {kept : List Snapshot} (hscene : w.scenes[run]? = some sc)
    (hstep : Warming.Step settings sc sc')
    (hqueue : (w.advance run sc sc').desk.queue = w.desk.queue ++ kept)
    {n : Nat} {sc₁ : Scene} {s : Snapshot} (h : (w.advance run sc sc').scenes[n]? = some sc₁)
    (hs : s ∈ sc₁.finals) :
    (∃ sc₀, w.scenes[n]? = some sc₀ ∧ s ∈ sc₀.finals) ∨ n = run ∧ s ∈ kept := by
  rcases Office.advance_scene hscene h with ⟨rfl, rfl⟩ | hold
  · obtain ⟨last, kept', hfinals, hlast, hqueue'⟩ := Office.advance_finals w n hstep
    have hkept : kept' = kept := List.append_cancel_left (hqueue'.symm.trans hqueue)
    subst hkept
    rw [hfinals] at hs
    rcases List.mem_append.mp hs with hs | hs
    · exact Or.inl ⟨sc, hscene, hs⟩
    · exact Or.inr ⟨rfl, hlast.mem hs⟩
  · exact Or.inl ⟨sc₁, hold, hs⟩

/-- A step that brings nothing into the queue sends no last update. -/
theorem finals_quiet {w w' : Office} (hstep : Office.Step w w') (htransit : w'.transit = w.transit)
    {n : Nat} {sc : Scene} {s : Snapshot} (h : w'.scenes[n]? = some sc) (hs : s ∈ sc.finals) :
    ∃ sc₀, w.scenes[n]? = some sc₀ ∧ s ∈ sc₀.finals := by
  cases hstep with
  | launch task =>
      rcases Office.launch_scene h with hold | rfl
      · exact ⟨sc, hold, hs⟩
      · exact absurd hs (by simp [Scene.finals, Scene.start])
  | @work run sc₀ sc' hscene hdone _ =>
      obtain ⟨_, kept, _, _, hqueue⟩ := Office.advance_finals w run hdone
      have hnothing : kept = [] := by
        have hboth : w.hand.toList ++ (w.advance run sc₀ sc').desk.queue
            = w.hand.toList ++ w.desk.queue := htransit
        rw [hqueue, ← List.append_assoc] at hboth
        exact List.append_right_eq_self.mp hboth
      subst hnothing
      rcases finals_work hscene hdone hqueue h hs with hold | ⟨_, hnone⟩
      · exact hold
      · exact absurd hnone List.not_mem_nil
  | lineUp | take | publish | addChannel | attach | unsubscribe | receive | close =>
      exact ⟨sc, h, hs⟩

/-- What the dispatcher has in its hand comes before what is in the queue. -/
theorem Recorded.turn {v : Watch} (h : Recorded v) {s : Snapshot} (hhand : v.office.hand = some s) :
    (v.queued.drop v.passed).map (·.2) = s :: v.office.desk.queue := by
  rw [h.transit]
  show v.office.hand.toList ++ v.office.desk.queue = _
  rw [hhand]
  rfl

/-- **Every step keeps the record right.** -/
theorem recorded_step {v v' : Watch} (h : Recorded v) (hs : Step v v') : Recorded v' := by
  have hold : ∀ (n : Nat) (s : Snapshot), (n, s) ∈ v.queued →
      ∃ sc, v'.office.scenes[n]? = some sc ∧ s ∈ sc.reports := by
    intro n s hmem
    obtain ⟨sc, hscene, hreported⟩ := h.reported n s hmem
    obtain ⟨sc', hscene', _, hreports⟩ := Office.scenes_grow (office_step hs) hscene
    exact ⟨sc', hscene', hreports.subset hreported⟩
  cases hs with
  | @work run sc sc' kept hscene hstep hroom hqueue =>
      refine ⟨?_, ?_, fun n s hmem => ?_, fun n sc₁ hget s hmem => ?_⟩
      · show v.passed ≤ (v.queued ++ _).length
        rw [List.length_append]
        exact Nat.le_add_right_of_le h.passed
      · show ((v.queued ++ kept.map fun s => (run, s)).drop v.passed).map (·.2)
          = v.office.hand.toList ++ (v.office.advance run sc sc').desk.queue
        rw [List.drop_append_of_le_length h.passed, List.map_append, h.transit, List.map_map, hqueue,
          ← List.append_assoc]
        exact congrArg _ (List.map_id kept)
      · rcases List.mem_append.mp hmem with hmem | hmem
        · exact hold n s hmem
        · obtain ⟨s', hs', heq⟩ := List.mem_map.mp hmem
          obtain ⟨rfl, rfl⟩ := Prod.mk.inj heq
          obtain ⟨hlt, _⟩ := List.getElem?_eq_some_iff.mp hscene
          obtain ⟨news, kept', hnews, hkept, hqueue', _⟩ := Office.advance_queue v.office run hstep
          have hsame : kept' = kept := List.append_cancel_left (hqueue'.symm.trans hqueue)
          refine ⟨sc', List.getElem?_set_self hlt, ?_⟩
          rw [hnews]
          exact List.mem_append_right _ (hkept.mem (hsame ▸ hs'))
      · rcases finals_work hscene hstep hqueue hget hmem with ⟨sc₀, hscene₀, hmem₀⟩ | ⟨rfl, hkept⟩
        · exact List.mem_append_left _ (h.finals n sc₀ hscene₀ s hmem₀)
        · exact List.mem_append_right _ (List.mem_map_of_mem hkept)
  | @publish s hhand =>
      have htransit := h.turn hhand
      refine ⟨?_, ?_, hold, h.finals⟩
      · have hlength := congrArg List.length htransit
        rw [List.length_map, List.length_drop, List.length_cons] at hlength
        show v.passed + 1 ≤ v.queued.length
        omega
      · show (v.queued.drop (v.passed + 1)).map (·.2) = v.office.desk.queue
        rw [← List.tail_drop, List.map_tail, htransit]
        rfl
  | @quiet w hstep htransit =>
      refine ⟨h.passed, h.transit.trans htransit.symm, hold, fun n sc hget s hmem => ?_⟩
      obtain ⟨sc₀, hscene₀, hmem₀⟩ := finals_quiet hstep htransit hget hmem
      exact h.finals n sc₀ hscene₀ s hmem₀

theorem recorded_later {v v' : Watch} (h : Recorded v) (hlater : Later v v') : Recorded v' := by
  induction hlater with
  | refl => exact h
  | tail _ hs ih => exact recorded_step ih hs

/-- What is sent on is what has its turn by the record. -/
theorem hand_queued {v : Watch} (h : Recorded v) {s : Snapshot} (hhand : v.office.hand = some s) :
    ∃ n, v.queued[v.passed]? = some (n, s) := by
  have hfirst := congrArg (·[0]?) (h.turn hhand)
  simp only [List.getElem?_map, List.getElem?_drop, Nat.add_zero, List.getElem?_cons_zero] at hfirst
  obtain ⟨⟨n, s'⟩, hget, heq⟩ := Option.map_eq_some_iff.mp hfirst
  exact ⟨n, by rw [hget]; exact congrArg (fun s => some (n, s)) heq⟩

/-- Between a time when an update had not been sent on and a later one when it has been, there is the
moment when it was sent on. -/
theorem passed_between {v v' : Watch} (h : Later v v') {i : Nat} (hbefore : v.passed ≤ i)
    (hafter : i < v'.passed) : ∃ u s, Later v u ∧ u.passed = i ∧ u.office.hand = some s ∧
      Later (u.publish s) v' := by
  induction h with
  | refl => omega
  | @tail u u' hlater hs ih =>
      by_cases hdone : i < u.passed
      · obtain ⟨t, s, ht, hpassed, hhand, hrest⟩ := ih hdone
        exact ⟨t, s, ht, hpassed, hhand, hrest.tail hs⟩
      · cases hs with
        | work | quiet => exact absurd hafter hdone
        | @publish s hhand =>
            have hnow : i < u.passed + 1 := hafter
            exact ⟨u, s, hlater, by omega, hhand, .refl⟩

end Watch

namespace Office

/-! ## Joining -/

/-- A channel is tied to a task. -/
def attach (w : Office) (task : String) (channel : Nat) : Office :=
  { w.setAudience (w.desk.audience.attach task channel).2 with
    tied := w.tied ++ [(task, channel)] }

theorem ending_later {settings : RunSettings} {w : Office} (h : Later (.start settings) w) :
    ∀ (n : Nat) (sc : Scene), w.scenes[n]? = some sc → Ending sc := by
  induction h with
  | refl => exact fun n sc hscene => absurd hscene (by simp [start])
  | tail _ hs ih => exact scenes_keep ending_init ending_step ih hs

theorem listed_later {w w' : Office} {id : String} {sub : Subscriber} {since : Nat}
    (hsound : Sound w) (h : Listed id sub since w) (hlater : Later w w') :
    Listed id sub since w' := by
  have hboth : Sound w' ∧ Listed id sub since w' := by
    induction hlater with
    | refl => exact ⟨hsound, h⟩
    | tail _ hs ih => exact ⟨sound_step ih.1 hs, listed_step ih.1 ih.2 hs⟩
  exact hboth.2

/-- Who is tied to a task is on its list from then on. -/
theorem listed_attach {w : Office} {channel : Nat} (id : String)
    (hchannel : channel < w.desk.audience.channels.size) :
    Listed id ⟨w.desk.audience.nextId, channel⟩ w.dropped.length (w.attach id channel) where
  channel := ⟨_, Array.getElem?_eq_getElem hchannel⟩
  reached := Nat.le_refl _
  kept _ _ := by
    have hsubs := Audience.subscribers_attach w.desk.audience id id channel
    rw [if_pos rfl] at hsubs
    show _ ∈ (w.desk.audience.attach id channel).2.subscribers id
    rw [hsubs]
    exact List.mem_append_right _ (List.mem_singleton.mpr rfl)

/-- A client's event to join a task that it does not follow ties its channel to the task, and is
answered with the progress after that. -/
theorem handle_join (w : Office) (l : Server.ProgressLink) {e : Server.ClientEvent}
    (hname : e.task.isEmpty = false) (hwish : e.wish = .join)
    (hfresh : l.joined.lookup e.task = none) :
    l.handle e w.desk = (some ((w.attach e.task l.channel).desk.progress e.task),
      { l with joined := (e.task, w.desk.audience.nextId) :: l.joined },
      (w.attach e.task l.channel).desk) := by
  unfold Server.ProgressLink.handle Server.ProgressLink.join
  rw [if_neg (by simp [hname]), hwish, hfresh]
  rfl

end Office

namespace Watch

/-- A channel is tied to a task. -/
def attach (v : Watch) (task : String) (channel : Nat) : Watch :=
  { v with office := v.office.attach task channel }

/-- While a run goes on, none of its updates in the queue, nor any that was there, says that it is
over. -/
theorem queued_running {settings : RunSettings} {v : Watch} (h : Later (.start settings) v)
    {n : Nat} {r : Run} (hrun : v.office.desk.runs[n]? = some r)
    (hrunning : r.task.snapshot.isRunning = true) {s : Snapshot} (hs : (n, s) ∈ v.queued) :
    s.isRunning = true := by
  have hoffice := office_later h
  obtain ⟨sc, hscene, hreported⟩ := (recorded_later (recorded_start settings) h).reported n s hs
  have hcurrent := Office.current_get (Office.registered_later hoffice).current n
  rw [hrun, hscene] at hcurrent
  have hsame : r = sc.run := Option.some.inj hcurrent
  exact (Office.ending_later hoffice n sc hscene).unreported
    ((Office.sound_later hoffice).orderly n sc hscene) (hsame ▸ hrunning) hreported

/-- A last update is under the name of its run, and it is on record. -/
theorem final_queued {settings : RunSettings} {v : Watch} (h : Later (.start settings) v)
    {n : Nat} {sc : Scene} (hscene : v.office.scenes[n]? = some sc) {final : Snapshot}
    (hfinal : final ∈ sc.finals) :
    final.task = sc.run.task.id ∧ ∃ i : Nat, v.queued[i]? = some (n, final) := by
  have hrecorded := recorded_later (recorded_start settings) h
  have hqueued := hrecorded.finals n sc hscene final hfinal
  obtain ⟨sc', hscene', hreported⟩ := hrecorded.reported n final hqueued
  cases hscene.symm.trans hscene'
  have horderly := (Office.sound_later (office_later h)).orderly n sc hscene
  exact ⟨horderly.inOrder.own final hreported, List.mem_iff_getElem?.mp hqueued⟩

/--
**Who is told that a run goes on does not miss its end.**

Say a channel is tied to a task, then a run is found under the task's name, then the progress of this
run is read, and it goes on; between these steps anything may happen. Until then no update of the run
has said that it is over, not even in the queue. Later, once the run is about to give its name back,
it has a last update, which says that it is over, and this is in the queue behind all that were there
when the progress was read. It is on the way, or it has been sent on while the channel was tied; and
then it came into the channel, unless the subscription had been ended by then, or the channel's
reader was not there, or it was full.
-/
theorem joined_hears_end {settings : RunSettings} {v₀ v₁ v₂ v : Watch} {id : String}
    {channel n : Nat} {r : Run} (hbefore : Later (.start settings) v₀)
    (hchannel : channel < v₀.office.desk.audience.channels.size)
    (hfind : Later (v₀.attach id channel) v₁) (hfound : v₁.office.desk.roster.get? id = some n)
    (hread : Later v₁ v₂) (hrun : v₂.office.desk.runs[n]? = some r)
    (hrunning : r.task.snapshot.isRunning = true) (hafter : Later v₂ v) :
    (∀ s, (n, s) ∈ v₂.queued → s.isRunning = true) ∧
    ∃ sc, v.office.scenes[n]? = some sc ∧
      (∀ summary, sc.run.phase = .leaving summary ∨ sc.run.phase = .ended summary →
        ∃ final, sc.finals = [final]) ∧
      ∀ final ∈ sc.finals, final.task = id ∧ final.isRunning = false ∧
        ∃ i, v₂.queued.length ≤ i ∧ v.queued[i]? = some (n, final) ∧
          (v.passed ≤ i → final ∈ v.office.transit) ∧
          (i < v.passed → ∃ u, Later v₂ u ∧ u.passed = i ∧ u.office.hand = some final ∧
            Later (u.publish final) v ∧
            (v₀.office.desk.audience.nextId ∉ u.office.dropped.drop v₀.office.dropped.length →
              u.office.desk.audience.HasRoom channel →
              final ∈ (u.publish final).office.inbox channel)) := by
  have htied : Later v₀ (v₀.attach id channel) := .tail .refl (.quiet (.attach id hchannel) rfl)
  have hlater₁ := (hbefore.trans htied).trans hfind
  have hlater₂ := hlater₁.trans hread
  have hlater := hlater₂.trans hafter
  have hoffice := office_later hlater
  have hrecorded := recorded_later (recorded_start settings) hlater
  -- the run that was found is the same one under the same name all the time
  have howns := ((Office.registered_later (office_later hlater₁)).owners id n).mp hfound
  obtain ⟨sc₁, hscene₁, hid₁⟩ := Office.owner_scene howns
  obtain ⟨sc₂, hscene₂, hid₂⟩ := Office.scene_later (office_later hread) hscene₁
  obtain ⟨sc, hscene, hid⟩ := Office.scene_later (office_later hafter) hscene₂
  have hunsent : ∀ s, (n, s) ∈ v₂.queued → s.isRunning = true :=
    fun s => queued_running hlater₂ hrun hrunning
  have hending := Office.ending_later hoffice n sc hscene
  refine ⟨hunsent, sc, hscene, fun summary hp => ?_, fun final hfinal => ?_⟩
  · have hphase : sc.run.phase.Ends sc := hending
    rcases hp with hp | hp
    all_goals
      rw [hp] at hphase
      obtain ⟨_, final, hfinals, _⟩ := hphase
      exact ⟨final, hfinals⟩
  · have hover := hending.final hfinal
    obtain ⟨hown, i, hget⟩ := final_queued hlater hscene hfinal
    have htask : final.task = id := hown.trans (hid.trans (hid₂.trans hid₁))
    -- had it been in the queue before, it would have said that the run goes on
    have hbehind : v₂.queued.length ≤ i := by
      refine Nat.le_of_not_lt fun hlt => ?_
      have hold := queued_get hafter (List.getElem?_eq_getElem hlt)
      have hmem : (n, final) ∈ v₂.queued := by
        rw [← Option.some.inj (hold.symm.trans hget)]
        exact List.getElem_mem hlt
      exact absurd (hunsent final hmem) (by simp [hover])
    refine ⟨htask, hover, i, hbehind, hget, fun hle => ?_, fun hlt => ?_⟩
    · rw [← hrecorded.transit]
      refine List.mem_map.mpr ⟨(n, final), List.mem_of_getElem? (i := i - v.passed) ?_, rfl⟩
      rw [List.getElem?_drop, Nat.add_sub_of_le hle]
      exact hget
    · -- it was not sent on before the progress was read, so it was after that
      have hrecorded₂ := recorded_later (recorded_start settings) hlater₂
      obtain ⟨u, s, hu, hpassed, hhand, hrest⟩ :=
        passed_between hafter (Nat.le_trans hrecorded₂.passed hbehind) hlt
      obtain ⟨m, hturn⟩ := hand_queued (recorded_later hrecorded₂ hu) hhand
      rw [hpassed] at hturn
      have hsame : final = s :=
        congrArg Prod.snd (Option.some.inj (hget.symm.trans (queued_get hrest hturn)))
      subst hsame
      refine ⟨u, hu, hpassed, hhand, hrest, fun hdropped hroom => ?_⟩
      have hlisted := Office.listed_later
        (Office.sound_later (office_later (hbefore.trans htied)))
        (Office.listed_attach id hchannel) (office_later ((hfind.trans hread).trans hu))
      exact Office.publish_reaches hlisted htask hroom hdropped

/-- A run of one tile that has begun, and a channel with room for one snapshot. -/
def soloBegun : Office :=
  let w := ((Office.start {}).setAudience (Audience.empty.addChannel 1).2).launch Office.solo
  { w with
    desk := (w.desk.apply 0 .begin).2
    scenes := [(Scene.start Office.solo).act .begin] }

theorem soloBegun_later : Office.Later (.start {}) soloBegun :=
  @Office.move_later _ _ 0 _ .begin
    ((Office.Later.refl.tail (.addChannel 1)).tail (.launch Office.solo)) rfl rfl rfl

/-- The last update of that run if it is stopped at once. -/
def soloStopped : Snapshot :=
  .of "solo" 0 1 false

/-- The channel joins the run, and then the run is stopped and its last update is sent on. -/
theorem solo_stopped : ∃ w sc, Office.Later (soloBegun.attach "solo" 0) w ∧
    w.scenes[0]? = some sc ∧ sc.finals = [soloStopped] ∧ w.transit = [] := by
  have hasked := @Office.quiet_later _ _ 0 _ _ (@Office.Later.refl (soloBegun.attach "solo" 0)) rfl
    .stop rfl
  have hstopped := @Office.move_later _ _ 0 _ .stop hasked rfl rfl rfl
  have hover := @Office.move_later _ _ 0 _ .settle hstopped rfl rfl rfl
  have hclosed := @Office.move_later _ _ 0 _ .close hover rfl rfl rfl
  have htaken := hclosed.tail (.take rfl rfl)
  exact ⟨_, _, htaken.tail (.publish rfl), rfl, rfl, rfl⟩

theorem joined_solo_hears_end : ∃ v₀ u v : Watch, Later (.start {}) v₀ ∧
    Later (v₀.attach "solo" 0) u ∧ u.office.hand = some soloStopped ∧
    Later (u.publish soloStopped) v := by
  obtain ⟨⟨office, queued, passed⟩, hbefore, hoffice⟩ :=
    record_later (v := .start {}) soloBegun_later
  subst hoffice
  obtain ⟨w, sc, hw, hscene, hfinals, htransit⟩ := solo_stopped
  obtain ⟨v, hafter, hv⟩ := record_later (v := attach ⟨soloBegun, queued, passed⟩ "solo" 0) hw
  subst hv
  have hchannel : 0 < soloBegun.desk.audience.channels.size := by decide
  obtain ⟨_, sc', hscene', _, hlast⟩ := @joined_hears_end _ _ _ _ _ "solo" 0 0 _ hbefore hchannel
    .refl rfl .refl rfl rfl hafter
  cases hscene.symm.trans hscene'
  obtain ⟨_, _, i, _, hget, _, hsent⟩ := hlast soloStopped (by rw [hfinals]; exact List.mem_cons_self)
  -- nothing is on the way any more, so the update has been sent on
  have hlater : Later (.start {}) v :=
    (hbefore.tail (.quiet (.attach "solo" hchannel) rfl)).trans hafter
  have hrecorded := recorded_later (recorded_start {}) hlater
  have hlength := congrArg List.length (hrecorded.transit.trans htransit)
  rw [List.length_map, List.length_drop, List.length_nil] at hlength
  obtain ⟨hlt, _⟩ := List.getElem?_eq_some_iff.mp hget
  obtain ⟨u, hu, _, hhand, hrest, _⟩ := hsent (by omega)
  exact ⟨_, u, v, hbefore, hu, hhand, hrest⟩

end Watch

end TileDepot.Warming
