import TileDepot.Proofs.Warming.Office

/-!
# What one step does to updates and subscribers

Every invariant of an office is about where updates are and who subscribes to what. What a step does
is said once for the updates (`flow_step`: nothing is overtaken, and what is lost is lost at one
end) and once for the subscribers of a task (`regroup_step`).
-/

namespace TileDepot.Warming

namespace Office

/-- What came through a channel: what its reader has read, and what waits for it. -/
def inbox (w : Office) (channel : Nat) : List Snapshot :=
  w.read channel ++ w.desk.audience.waiting channel

/-- What has left the runs and has not been sent on yet. -/
def transit (w : Office) : List Snapshot :=
  w.hand.toList ++ w.desk.queue

/-- What a reader has read about one task. -/
def heard (w : Office) (channel : Nat) (task : String) : List Snapshot :=
  (w.read channel).filter fun s => s.task == task

/-- What came through a channel about one task. -/
def stream (w : Office) (channel : Nat) (task : String) : List Snapshot :=
  (w.inbox channel).filter fun s => s.task == task

/-- No other run than this one has a task of this name. -/
def Alone (w : Office) (run : Nat) (id : String) : Prop :=
  ∀ n sc, w.scenes[n]? = some sc → sc.run.task.id = id → n = run

/-! ## What a step does to updates -/

/-- What a step does to the updates of all runs, seen from one channel. -/
inductive Flow (channel : Nat) (w w' : Office) : Prop where
  /-- Nothing, unless the reader of the channel goes. -/
  | still : w'.inbox channel <+: w.inbox channel →
      (w'.desk.audience.IsOpen channel → w'.inbox channel = w.inbox channel) →
      w'.transit = w.transit → Flow channel w w'
  /-- A run reports something. -/
  | work {run : Nat} {sc sc' : Scene} {news kept : List Snapshot} :
      w.scenes[run]? = some sc → w'.scenes[run]? = some sc' → sc'.reports = sc.reports ++ news →
      kept.Sublist news → w'.inbox channel = w.inbox channel →
      w'.transit = w.transit ++ kept → Flow channel w w'
  /-- The dispatcher sends on what it has in its hand. -/
  | publish {s : Snapshot} {n : Nat} : w.transit = s :: w'.transit →
      n ≤ w.desk.audience.ties s.task channel →
      w'.inbox channel = w.inbox channel ++ List.replicate n s → Flow channel w w'

theorem lineUp_same (d : Desk) (run : Nat) :
    (d.lineUp run).queue = d.queue ∧ (d.lineUp run).audience = d.audience := by
  unfold Desk.lineUp
  split
  · exact ⟨rfl, rfl⟩
  · split
    · split <;> exact ⟨rfl, rfl⟩
    · exact ⟨rfl, rfl⟩

theorem takeUpdate_eq {d d' : Desk} {s : Snapshot} (h : d.takeUpdate? = some (s, d')) :
    d.queue = s :: d'.queue ∧ d'.audience = d.audience := by
  unfold Desk.takeUpdate? at h
  split at h
  · exact absurd h (by simp)
  · rename_i s' rest hqueue
    obtain ⟨rfl, rfl⟩ := Prod.mk.inj (Option.some.inj h)
    exact ⟨hqueue, rfl⟩

theorem inbox_eq {w w' : Office} {channel : Nat} (hread : w'.read channel = w.read channel)
    (hchannels : w'.desk.audience.channels = w.desk.audience.channels) :
    w'.inbox channel = w.inbox channel := by
  unfold inbox Audience.waiting
  rw [hread, hchannels]

theorem receive_inbox (w : Office) (channel other limit : Nat) :
    (w.receive other limit).inbox channel = w.inbox channel := by
  show (if channel = other then w.read channel ++ (w.desk.audience.receive other limit).1
    else w.read channel) ++ (w.desk.audience.receive other limit).2.waiting channel = _
  by_cases hsame : channel = other
  · rw [if_pos hsame, hsame, List.append_assoc, Audience.receive_waiting]
    rfl
  · rw [if_neg hsame, Audience.receive_others _ _ hsame]
    rfl

/-- **What one step does to updates.** -/
theorem flow_step {w w' : Office} (channel : Nat) (hs : Step w w') : Flow channel w w' := by
  have hstill : w'.inbox channel = w.inbox channel → w'.transit = w.transit →
      Flow channel w w' := fun hinbox htransit =>
    .still (hinbox ▸ List.prefix_refl _) (fun _ => hinbox) htransit
  cases hs with
  | launch task => exact hstill rfl rfl
  | @work run sc sc' hscene hstep _ =>
      obtain ⟨news, kept, hnews, hkept, hqueue, haudience⟩ := advance_queue w run hstep
      obtain ⟨hlt, _⟩ := List.getElem?_eq_some_iff.mp hscene
      refine .work hscene (List.getElem?_set_self hlt) hnews hkept
        (inbox_eq rfl (by rw [haudience])) ?_
      show w.hand.toList ++ (w.advance run sc sc').desk.queue = w.hand.toList ++ w.desk.queue ++ kept
      rw [hqueue, List.append_assoc]
  | lineUp run =>
      obtain ⟨hqueue, haudience⟩ := lineUp_same w.desk run
      refine hstill (inbox_eq rfl ?_) ?_
      · show (w.desk.lineUp run).audience.channels = _
        rw [haudience]
      · show w.hand.toList ++ (w.desk.lineUp run).queue = _
        rw [hqueue]
        rfl
  | @take s desk hhand htake =>
      obtain ⟨hqueue, haudience⟩ := takeUpdate_eq htake
      refine hstill (inbox_eq rfl ?_) ?_
      · show desk.audience.channels = _
        rw [haudience]
      · show s :: desk.queue = w.hand.toList ++ w.desk.queue
        rw [hhand, hqueue]
        rfl
  | @publish s hhand =>
      obtain ⟨n, hn, hwaiting, _⟩ := Audience.publish_waiting w.desk.audience s channel
      refine .publish (s := s) ?_ hn ?_
      · show w.hand.toList ++ w.desk.queue = _
        rw [hhand]
        rfl
      · show w.read channel ++ (w.desk.audience.publish s).2.waiting channel = _
        rw [hwaiting]
        exact (List.append_assoc _ _ _).symm
  | addChannel capacity =>
      refine hstill ?_ rfl
      show w.read channel ++ (w.desk.audience.addChannel capacity).2.waiting channel = _
      rw [Audience.addChannel_waiting]
      rfl
  | attach task hchannel => exact hstill rfl rfl
  | unsubscribe id => exact hstill rfl rfl
  | receive other limit => exact hstill (receive_inbox w channel other limit) (by rfl)
  | close other =>
      -- what waits for a reader is lost with it
      have hwaiting := Audience.close_waiting w.desk.audience other channel
      have hinbox : (w.setAudience (w.desk.audience.close other)).inbox channel
          = w.read channel ++ (if channel = other then [] else w.desk.audience.waiting channel) := by
        rw [← hwaiting]
        rfl
      by_cases hsame : channel = other
      · rw [if_pos hsame, List.append_nil] at hinbox
        refine .still ?_ (fun hopen => ?_) rfl
        · rw [hinbox]
          exact List.prefix_append _ _
        · exact absurd (hsame ▸ hopen) (Audience.not_isOpen_close _ other)
      · rw [if_neg hsame] at hinbox
        exact hstill hinbox rfl

/-- A run keeps its number, and at most one step happens in its scene. -/
theorem scene_step {w w' : Office} (hs : Step w w') {n : Nat} {sc : Scene}
    (h : w.scenes[n]? = some sc) : ∃ sc', w'.scenes[n]? = some sc' ∧
      (sc' = sc ∨ Warming.Step w.desk.settings sc sc') := by
  obtain ⟨hlt, _⟩ := List.getElem?_eq_some_iff.mp h
  cases hs with
  | launch task =>
      refine ⟨sc, ?_, Or.inl rfl⟩
      show (w.scenes ++ [.start task])[n]? = _
      rw [List.getElem?_append_left hlt]
      exact h
  | @work run sc₁ sc' hscene hstep _ =>
      by_cases hrun : run = n
      · subst hrun
        rw [h] at hscene
        cases hscene
        exact ⟨sc', List.getElem?_set_self hlt, Or.inr hstep⟩
      · refine ⟨sc, ?_, Or.inl rfl⟩
        show (w.scenes.set run sc')[n]? = _
        rw [List.getElem?_set_ne hrun]
        exact h
  | lineUp | take | publish | addChannel | attach | unsubscribe | receive | close =>
      exact ⟨sc, h, Or.inl rfl⟩

/-- Runs keep their numbers and names, and what they reported. -/
theorem scenes_grow {w w' : Office} (hs : Step w w') {n : Nat} {sc : Scene}
    (h : w.scenes[n]? = some sc) : ∃ sc', w'.scenes[n]? = some sc' ∧
      sc'.run.task.id = sc.run.task.id ∧ sc.reports <+: sc'.reports := by
  obtain ⟨sc', hscene, rfl | hstep⟩ := scene_step hs h
  · exact ⟨sc', hscene, rfl, List.prefix_refl _⟩
  · obtain ⟨hid, hlog⟩ := step_grows hstep
    exact ⟨sc', hscene, hid, hlog.filterMap _⟩

theorem launch_scene {w : Office} {task : Task} {n : Nat} {sc : Scene}
    (h : (w.launch task).scenes[n]? = some sc) : w.scenes[n]? = some sc ∨ sc = .start task := by
  have hget : (w.scenes ++ [.start task])[n]? = some sc := h
  rw [List.getElem?_append] at hget
  split at hget
  · exact Or.inl hget
  · obtain ⟨_, hmem⟩ := List.getElem?_eq_some_iff.mp hget
    have hstart : sc ∈ [Scene.start task] := hmem ▸ List.getElem_mem _
    exact Or.inr (List.mem_singleton.mp hstart)

theorem advance_scene {w : Office} {run : Nat} {sc sc' : Scene} (hscene : w.scenes[run]? = some sc)
    {n : Nat} {sc₁ : Scene} (h : (w.advance run sc sc').scenes[n]? = some sc₁) :
    n = run ∧ sc₁ = sc' ∨ w.scenes[n]? = some sc₁ := by
  have hget : (w.scenes.set run sc')[n]? = some sc₁ := h
  by_cases hsame : run = n
  · subst hsame
    obtain ⟨hlt, _⟩ := List.getElem?_eq_some_iff.mp hscene
    rw [List.getElem?_set_self hlt] at hget
    exact Or.inl ⟨rfl, (Option.some.inj hget).symm⟩
  · rw [List.getElem?_set_ne hsame] at hget
    exact Or.inr hget

/-- What every step of a run keeps is true of all runs, if it is true of them at first. -/
theorem scenes_keep {P : Scene → Prop} (hinit : ∀ task, P (.start task))
    (hstep : ∀ {settings : RunSettings} {sc sc' : Scene}, P sc → Warming.Step settings sc sc' →
      P sc')
    {w w' : Office} (h : ∀ (n : Nat) (sc : Scene), w.scenes[n]? = some sc → P sc)
    (hs : Step w w') : ∀ (n : Nat) (sc : Scene), w'.scenes[n]? = some sc → P sc := by
  intro n sc hscene
  cases hs with
  | launch task =>
      rcases launch_scene hscene with hold | rfl
      · exact h n sc hold
      · exact hinit task
  | @work run sc₁ sc' hrun hdone _ =>
      rcases advance_scene hrun hscene with ⟨_, rfl⟩ | hold
      · exact hstep (h run sc₁ hrun) hdone
      · exact h n sc hold
  | lineUp | take | publish | addChannel | attach | unsubscribe | receive | close =>
      exact h n sc hscene

theorem alone_step {w w' : Office} {run : Nat} {id : String} (hs : Step w w')
    (h : w'.Alone run id) : w.Alone run id := by
  intro n sc hscene hid
  obtain ⟨sc', hscene', hid', _⟩ := scenes_grow hs hscene
  exact h n sc' hscene' (hid'.trans hid)

/-! ## What a step does to subscribers -/

/-- What a step does to the subscribers of a task. -/
inductive Regroup (task : String) (w w' : Office) : Prop where
  | same : w'.desk.audience.subscribers task = w.desk.audience.subscribers task →
      Regroup task w w'
  | attach {sub : Subscriber} :
      w'.desk.audience.subscribers task = w.desk.audience.subscribers task ++ [sub] →
      w'.tied = w.tied ++ [(task, sub.channel)] →
      sub.channel < w.desk.audience.channels.size → Regroup task w w'
  | unsubscribe {id : Nat} : w'.desk.audience.subscribers task
        = (w.desk.audience.subscribers task).filter (fun s => s.id != id) →
      w'.dropped = w.dropped ++ [id] → Regroup task w w'
  /-- Those whose readers have gone are taken off the list. -/
  | publish {s : Snapshot} : w'.desk.audience.subscribers task
        = (Audience.deliver s (w.desk.audience.subscribers task) w.desk.audience.channels).1 →
      Regroup task w w'

theorem subscribers_congr {a a' : Audience} (h : a'.tasks = a.tasks) (task : String) :
    a'.subscribers task = a.subscribers task := by
  unfold Audience.subscribers
  rw [h]

theorem receive_tasks (a : Audience) (channel limit : Nat) :
    (a.receive channel limit).2.tasks = a.tasks := by
  unfold Audience.receive
  split <;> rfl

/-- **What one step does to subscribers.** -/
theorem regroup_step {w w' : Office} (hdistinct : w.desk.audience.Distinct) (task : String)
    (hs : Step w w') : Regroup task w w' := by
  cases hs with
  | launch | addChannel | close => exact .same rfl
  | @work run sc sc' _ hstep _ =>
      obtain ⟨_, _, _, _, _, haudience⟩ := advance_queue w run hstep
      exact .same (by rw [haudience])
  | lineUp run => exact .same (subscribers_congr (by rw [(lineUp_same w.desk run).2]) task)
  | take _ htake => exact .same (subscribers_congr (by rw [(takeUpdate_eq htake).2]) task)
  | @publish s _ =>
      have hsubs := Audience.subscribers_publish w.desk.audience s task
      by_cases htask : task = s.task
      · rw [if_pos htask, ← htask] at hsubs
        exact .publish hsubs
      · rw [if_neg htask] at hsubs
        exact .same hsubs
  | @attach other channel hchannel =>
      have hsubs := Audience.subscribers_attach w.desk.audience other task channel
      by_cases htask : task = other
      · subst htask
        rw [if_pos rfl] at hsubs
        exact .attach hsubs rfl hchannel
      · rw [if_neg htask] at hsubs
        exact .same hsubs
  | unsubscribe id => exact .unsubscribe (Audience.subscribers_unsubscribe hdistinct id task) rfl
  | receive channel limit => exact .same (subscribers_congr (receive_tasks _ channel limit) task)

theorem distinct_step {w w' : Office} (h : w.desk.audience.Distinct) (hs : Step w w') :
    w'.desk.audience.Distinct := by
  have hsame : w'.desk.audience.tasks = w.desk.audience.tasks → w'.desk.audience.Distinct := by
    intro htasks
    unfold Audience.Distinct
    rw [htasks]
    exact h
  cases hs with
  | launch | addChannel | close => exact hsame rfl
  | @work run sc sc' _ hstep _ =>
      obtain ⟨_, _, _, _, _, haudience⟩ := advance_queue w run hstep
      exact hsame (by rw [haudience])
  | lineUp run => exact hsame (congrArg Audience.tasks (lineUp_same w.desk run).2)
  | take _ htake => exact hsame (congrArg Audience.tasks (takeUpdate_eq htake).2)
  | @publish s _ => exact Audience.distinct_setSubscribers h s.task _
  | attach task _ => exact Audience.distinct_setSubscribers h task _
  | unsubscribe id => exact Audience.distinct_unsubscribe h id
  | receive channel limit => exact hsame (receive_tasks _ channel limit)

theorem stays_step {w w' : Office} (channel : Nat) (hs : Step w w') :
    Audience.Stays channel w.desk.audience w'.desk.audience := by
  cases hs with
  | launch | attach | unsubscribe => exact Audience.stays_refl rfl
  | @work run sc sc' _ hstep _ =>
      obtain ⟨_, _, _, _, _, haudience⟩ := advance_queue w run hstep
      exact Audience.stays_refl (by rw [haudience])
  | lineUp run => exact Audience.stays_refl (congrArg Audience.channels (lineUp_same w.desk run).2)
  | take _ htake => exact Audience.stays_refl (congrArg Audience.channels (takeUpdate_eq htake).2)
  | @publish s _ => exact Audience.stays_publish channel _ s
  | addChannel capacity => exact Audience.stays_addChannel channel _ capacity
  | receive other limit => exact Audience.stays_receive channel _ other limit
  | close other => exact Audience.stays_close channel _ other

/-- Effects do not touch the settings. -/
theorem carryOut_settings (run : Nat) (id : String) (effects : List Effect) (d : Desk) :
    (effects.foldl (fun d effect => d.carryOut run id effect) d).settings = d.settings := by
  induction effects generalizing d with
  | nil => rfl
  | cons effect effects ih =>
      rw [List.foldl_cons, ih]
      cases effect with
      | none | submitted | final | left => rfl
      | update s =>
          show (d.offer s).settings = d.settings
          unfold Desk.offer
          split <;> rfl

/-- The settings of an office stay as they are. -/
theorem settings_step {w w' : Office} (hs : Step w w') : w'.desk.settings = w.desk.settings := by
  cases hs with
  | @work run sc sc' _ _ _ => exact carryOut_settings run sc.run.task.id _ _
  | lineUp run =>
      show (w.desk.lineUp run).settings = _
      unfold Desk.lineUp
      split
      · rfl
      · split
        · split <;> rfl
        · rfl
  | @take s desk _ htake =>
      unfold Desk.takeUpdate? at htake
      split at htake
      · exact absurd htake (by simp)
      · obtain ⟨_, rfl⟩ := Prod.mk.inj (Option.some.inj htake)
        rfl
  | launch | publish | addChannel | attach | unsubscribe | receive | close => rfl

theorem settings_later {w w' : Office} (h : Later w w') :
    w'.desk.settings = w.desk.settings := by
  induction h with
  | refl => rfl
  | tail _ hs ih => exact (settings_step hs).trans ih

/-- What was tied or dropped stays on the record. -/
theorem records_grow {w w' : Office} (hs : Step w w') :
    w.tied <+: w'.tied ∧ w.dropped <+: w'.dropped := by
  cases hs with
  | attach => exact ⟨List.prefix_append _ _, List.prefix_refl _⟩
  | unsubscribe => exact ⟨List.prefix_refl _, List.prefix_append _ _⟩
  | launch | work | lineUp | take | publish | addChannel | receive | close =>
      exact ⟨List.prefix_refl _, List.prefix_refl _⟩

end Office

end TileDepot.Warming
