import TileDepot.Proofs.Warming.Following
import TileDepot.Proofs.Warming.Reports
import TileDepot.Warming.Desk

/-!
# The office

The desk among all that goes on at once: any number of runs, each among its tiles, the dispatcher,
those who follow tasks, and the readers of channels. `Office` is the desk with the scene of every
run, what the dispatcher has in its hand, and a record of what was read, tied and dropped, at which
no step looks. `Office.Step` is one thing that happens, and it does at the desk what the desk says.

The dispatcher takes an update out of the queue and sends it on in two steps, between which anything
else may happen.
-/

namespace TileDepot.Warming

structure Office where
  desk : Desk
  /-- The runs by number, each with the tiles that are out for it. -/
  scenes : List Scene
  /-- The update that the dispatcher has taken out of the queue and not sent on yet. -/
  hand : Option Snapshot
  /-- What the reader of each channel has read. -/
  read : Nat → List Snapshot
  /-- Every tie of a channel to a task that was made. -/
  tied : List (String × Nat)
  /-- The subscriptions that were ended. -/
  dropped : List Nat

namespace Office

def start (settings : RunSettings) : Office :=
  ⟨.ofSettings settings, [], none, fun _ => [], [], []⟩

/-- A task is registered, and its run may begin. -/
def launch (w : Office) (task : Task) : Office :=
  { w with desk := (w.desk.register task).2, scenes := w.scenes ++ [.start task] }

/-- Something happens in the scene of a run. The desk gives the run its new state and carries out
the effects that are new in the log. -/
def advance (w : Office) (run : Nat) (sc sc' : Scene) : Office :=
  { w with
    desk := (sc'.log.drop sc.log.length).foldl
      (fun d effect => d.carryOut run sc.run.task.id effect) (w.desk.setRun run sc'.run)
    scenes := w.scenes.set run sc' }

def setAudience (w : Office) (audience : Audience) : Office :=
  { w with desk := { w.desk with audience } }

/-- The dispatcher sends on what it has in its hand. -/
def publish (w : Office) (s : Snapshot) : Office :=
  { w with desk := w.desk.publish s, hand := none }

/-- The reader of a channel takes up to `limit` snapshots out of it. -/
def receive (w : Office) (channel limit : Nat) : Office :=
  { w.setAudience (w.desk.audience.receive channel limit).2 with
    read := fun c =>
      if c = channel then w.read c ++ (w.desk.audience.receive channel limit).1 else w.read c }

/-- One thing that happens. -/
inductive Step : Office → Office → Prop where
  | launch {w : Office} (task : Task) : Step w (w.launch task)
  /-- The last update of a run is sent only when it has a place. -/
  | work {w : Office} {run : Nat} {sc sc' : Scene} : w.scenes[run]? = some sc →
      Warming.Step w.desk.settings sc sc' →
      (sc'.finals ≠ sc.finals → w.desk.hasRoomFor run = true) → Step w (w.advance run sc sc')
  | lineUp {w : Office} (run : Nat) : Step w { w with desk := w.desk.lineUp run }
  | take {w : Office} {s : Snapshot} {desk : Desk} : w.hand = none →
      w.desk.takeUpdate? = some (s, desk) → Step w { w with desk, hand := some s }
  | publish {w : Office} {s : Snapshot} : w.hand = some s → Step w (w.publish s)
  | addChannel {w : Office} (capacity : Nat) :
      Step w (w.setAudience (w.desk.audience.addChannel capacity).2)
  | attach {w : Office} (task : String) {channel : Nat} :
      channel < w.desk.audience.channels.size →
      Step w { w.setAudience (w.desk.audience.attach task channel).2 with
        tied := w.tied ++ [(task, channel)] }
  | unsubscribe {w : Office} (id : Nat) :
      Step w { w.setAudience (w.desk.audience.unsubscribe id) with dropped := w.dropped ++ [id] }
  | receive {w : Office} (channel limit : Nat) : Step w (w.receive channel limit)
  | close {w : Office} (channel : Nat) : Step w (w.setAudience (w.desk.audience.close channel))

/-- What can come of an office. -/
inductive Later (w : Office) : Office → Prop where
  | refl : Later w w
  | tail {w' w'' : Office} : Later w w' → Step w' w'' → Later w w''

theorem Later.trans {w w' w'' : Office} (h : Later w w') (h' : Later w' w'') : Later w w'' := by
  induction h' with
  | refl => exact h
  | tail _ hs ih => exact ih.tail hs

/-! ## What carrying out an effect does -/

theorem filterMap_front {α β : Type} (f : α → Option β) (a : α) (l : List α) :
    (a :: l).filterMap f = (f a).toList ++ l.filterMap f := by
  cases ha : f a with
  | none => exact List.filterMap_cons_none ha
  | some b => exact List.filterMap_cons_some ha

/-- Effects put into the queue what they send, or leave some of it out, but not a last update, and
let the audience be. -/
theorem carryOut_queue (run : Nat) (id : String) (effects : List Effect) (d : Desk) :
    (∃ kept, (effects.filterMap Effect.final?).Sublist kept ∧
        kept.Sublist (effects.filterMap Effect.sent?) ∧
        (effects.foldl (fun d effect => d.carryOut run id effect) d).queue = d.queue ++ kept) ∧
      (effects.foldl (fun d effect => d.carryOut run id effect) d).audience = d.audience := by
  induction effects generalizing d with
  | nil => exact ⟨⟨[], List.Sublist.refl _, List.Sublist.refl _, (List.append_nil _).symm⟩, rfl⟩
  | cons effect effects ih =>
      obtain ⟨⟨kept, hfinals, hkept, hqueue⟩, haudience⟩ := ih (d.carryOut run id effect)
      rw [List.foldl_cons, filterMap_front, filterMap_front]
      have hone : ∃ first : List Snapshot, effect.final?.toList.Sublist first ∧
          first.Sublist effect.sent?.toList ∧
          (d.carryOut run id effect).queue = d.queue ++ first ∧
          (d.carryOut run id effect).audience = d.audience := by
        cases effect with
        | none | submitted | left =>
            exact ⟨[], List.Sublist.refl _, List.Sublist.refl _, (List.append_nil _).symm, rfl⟩
        | update s =>
            show ∃ first : List Snapshot, [].Sublist first ∧ first.Sublist [s] ∧
              (d.offer s).queue = _ ∧ (d.offer s).audience = _
            unfold Desk.offer
            split
            · exact ⟨[s], List.nil_sublist _, List.Sublist.refl _, rfl, rfl⟩
            · exact ⟨[], List.nil_sublist _, List.nil_sublist _, (List.append_nil _).symm, rfl⟩
        | final s => exact ⟨[s], List.Sublist.refl _, List.Sublist.refl _, rfl, rfl⟩
      obtain ⟨first, hfinal, hfirst, hqueue', haudience'⟩ := hone
      refine ⟨⟨first ++ kept, hfinal.append hfinals, hfirst.append hkept, ?_⟩,
        haudience.trans haudience'⟩
      rw [hqueue, hqueue', List.append_assoc]

/-- What is new in the log of a run goes into the queue, or is dropped. -/
theorem advance_queue (w : Office) (run : Nat) {settings : RunSettings} {sc sc' : Scene}
    (hs : Warming.Step settings sc sc') :
    ∃ news kept, sc'.reports = sc.reports ++ news ∧ kept.Sublist news ∧
      (w.advance run sc sc').desk.queue = w.desk.queue ++ kept ∧
      (w.advance run sc sc').desk.audience = w.desk.audience := by
  obtain ⟨_, effects, hlog⟩ := step_grows hs
  obtain ⟨⟨kept, _, hkept, hqueue⟩, haudience⟩ :=
    carryOut_queue run sc.run.task.id effects (w.desk.setRun run sc'.run)
  have hnew : sc'.log.drop sc.log.length = effects := by
    rw [← hlog, List.drop_left]
  refine ⟨effects.filterMap Effect.sent?, kept, ?_, hkept, ?_, ?_⟩
  · unfold Scene.reports
    rw [← hlog, List.filterMap_append]
  · unfold advance
    rw [hnew]
    exact hqueue
  · unfold advance
    rw [hnew]
    exact haudience

/-- A last update that is new in the log is not dropped. -/
theorem advance_finals (w : Office) (run : Nat) {settings : RunSettings} {sc sc' : Scene}
    (hs : Warming.Step settings sc sc') :
    ∃ last kept, sc'.finals = sc.finals ++ last ∧ last.Sublist kept ∧
      (w.advance run sc sc').desk.queue = w.desk.queue ++ kept := by
  obtain ⟨_, effects, hlog⟩ := step_grows hs
  obtain ⟨⟨kept, hfinals, _, hqueue⟩, _⟩ :=
    carryOut_queue run sc.run.task.id effects (w.desk.setRun run sc'.run)
  refine ⟨effects.filterMap Effect.final?, kept, ?_, hfinals, ?_⟩
  · unfold Scene.finals
    rw [← hlog, List.filterMap_append]
  · unfold advance
    rw [← hlog, List.drop_left]
    exact hqueue

/-! ## The desk's own moves -/

/-- A step with nothing new in the log. -/
theorem quiet_later {w₀ w : Office} {run : Nat} {sc sc' : Scene} (h : Later w₀ w)
    (hscene : w.scenes[run]? = some sc) (hs : Warming.Step w.desk.settings sc sc')
    (hlog : sc'.log = sc.log) :
    Later w₀ { w with
      desk := w.desk.setRun run sc'.run
      scenes := w.scenes.set run sc' } := by
  have hfinals : sc'.finals = sc.finals := by
    unfold Scene.finals
    rw [hlog]
  have hdone := h.tail (.work hscene hs (fun hno => absurd hfinals hno))
  unfold advance at hdone
  rw [hlog, List.drop_length] at hdone
  exact hdone

/-- A step with one new effect in the log. -/
theorem effect_later {w₀ w : Office} {run : Nat} {sc sc' : Scene} {effect : Effect}
    (h : Later w₀ w) (hscene : w.scenes[run]? = some sc)
    (hs : Warming.Step w.desk.settings sc sc') (hlog : sc'.log = sc.log ++ [effect])
    (hroom : effect.final? ≠ none → w.desk.hasRoomFor run = true) :
    Later w₀ { w with
      desk := (w.desk.setRun run sc'.run).carryOut run sc.run.task.id effect
      scenes := w.scenes.set run sc' } := by
  have hfinals : sc'.finals ≠ sc.finals → w.desk.hasRoomFor run = true := by
    intro hno
    refine hroom fun hnone => hno ?_
    unfold Scene.finals
    rw [hlog]
    exact filterMap_quiet hnone sc.log
  have hdone := h.tail (.work hscene hs hfinals)
  unfold advance at hdone
  rw [hlog, List.drop_left] at hdone
  exact hdone

/-- **A move that is due at the desk is one thing that happens.** -/
theorem move_later {w₀ w : Office} {run : Nat} {sc : Scene} {m : Move} (h : Later w₀ w)
    (hscene : w.scenes[run]? = some sc) (hrun : w.desk.runs[run]? = some sc.run)
    (hnext : w.desk.next? run sc.delayPassed = some m) :
    Later w₀ { w with
      desk := (w.desk.apply run m).2
      scenes := w.scenes.set run (sc.act m) } := by
  have hdue : sc.run.next? w.desk.settings.maxConcurrent sc.delayPassed (w.desk.hasRoomFor run)
      = some m := by
    unfold Desk.next? at hnext
    rw [hrun] at hnext
    exact hnext
  have hroom : (sc.run.apply m).2.final? ≠ none → w.desk.hasRoomFor run = true := by
    intro hfinal
    by_cases hm : m = .close
    · subst hm
      cases @next_due _ sc.run.task.isCancelled _ _ sc.run _ hdue with
      | close _ hroom => exact hroom
    · exact absurd (apply_final hm) hfinal
  have hdesk : (w.desk.apply run m).2
      = (w.desk.setRun run (sc.act m).run).carryOut run sc.run.task.id (sc.run.apply m).2 := by
    unfold Desk.apply
    rw [hrun]
    dsimp only
    split <;> rfl
  rw [hdesk]
  exact effect_later h hscene
    (.move sc.run.task.isCancelled sc.delayPassed (w.desk.hasRoomFor run) id id hdue) rfl hroom

/-- What an effect does at the desk has nothing to do with the states of runs. -/
theorem carryOut_setRun (d : Desk) (run : Nat) (id : String) (effect : Effect) (r : Run) :
    (d.carryOut run id effect).setRun run r = (d.setRun run r).carryOut run id effect := by
  cases effect with
  | none | submitted | final | left => rfl
  | update s =>
      show (d.offer s).setRun run r = (d.setRun run r).offer s
      have hroom : (d.setRun run r).hasRoom = d.hasRoom := rfl
      unfold Desk.offer
      rw [hroom]
      split <;> rfl

theorem setRun_twice (d : Desk) (run : Nat) (r r' : Run) :
    (d.setRun run r).setRun run r' = d.setRun run r' := by
  unfold Desk.setRun
  simp

/-- **A tile that comes back at the desk comes back by steps.** -/
theorem complete_later {w₀ w : Office} {run : Nat} {sc : Scene} {before after : List Trip}
    {tile : Grid.TileId} (success : Bool) (h : Later w₀ w) (hscene : w.scenes[run]? = some sc)
    (hrun : w.desk.runs[run]? = some sc.run) (htrips : sc.trips = before ++ ⟨tile, .out⟩ :: after)
    (hasked : sc.run.task.isCancelled = false) :
    Later w₀ { w with
      desk := w.desk.complete run success
      scenes := w.scenes.set run { sc with
        run := (sc.run.complete success w.desk.settings.throttle).1
        trips := before ++ after
        log := sc.log ++ [(sc.run.complete success w.desk.settings.throttle).2] } } := by
  obtain ⟨hlt, _⟩ := List.getElem?_eq_some_iff.mp hscene
  have hback := quiet_later h hscene (.comeBack success htrips) rfl
  rw [hasked] at hback
  have htold := effect_later hback (List.getElem?_set_self hlt) (.tell rfl) rfl
    (fun hno => absurd (count_run sc.run success w.desk.settings.throttle).2.2.2.2 hno)
  have hfree := quiet_later htold (List.getElem?_set_self (by simpa using hlt)) (.free rfl) rfl
  rw [carryOut_setRun, setRun_twice, setRun_twice, List.set_set, List.set_set] at hfree
  have hcomplete : sc.run.complete success w.desk.settings.throttle
      = ((sc.run.count success w.desk.settings.throttle).1.freePlace,
        (sc.run.count success w.desk.settings.throttle).2) := by
    unfold Run.complete
    rw [hasked]
    rfl
  have hdesk : w.desk.complete run success
      = (w.desk.setRun run (sc.run.count success w.desk.settings.throttle).1.freePlace).carryOut run
        sc.run.task.id (sc.run.count success w.desk.settings.throttle).2 := by
    unfold Desk.complete
    rw [hrun]
    dsimp only
    rw [hcomplete]
  rw [hdesk, hcomplete]
  exact hfree

/-- The dispatcher's two steps in one. -/
theorem dispatch_later {w₀ w : Office} {desk : Desk} (h : Later w₀ w) (hhand : w.hand = none)
    (hdispatch : w.desk.dispatch? = some desk) : Later w₀ { w with desk } := by
  unfold Desk.dispatch? at hdispatch
  obtain ⟨⟨s, d⟩, htake, hd⟩ := Option.map_eq_some_iff.mp hdispatch
  have hsent := (h.tail (.take hhand htake)).tail (.publish rfl)
  have hend : ({ w with desk } : Office)
      = Office.publish { w with desk := d, hand := some s } s := by
    unfold publish
    rw [← hd, hhand]
  exact hend ▸ hsent

end Office

end TileDepot.Warming
