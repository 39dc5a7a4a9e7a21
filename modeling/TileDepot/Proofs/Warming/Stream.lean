import TileDepot.Proofs.Warming.Flow

/-!
# The stream of one subscriber

What the updates of a run come to at the other end. On the way an update may get lost, in a full
queue or at a full channel, but none overtakes another: what a reader has read, what waits for it,
what the dispatcher has in its hand and what is in the queue are, one after the other, a part of what
the run reported, in the same order (`Follows.flow`). So what a subscriber reads is in order because
the reports are.
-/

namespace TileDepot.Warming

namespace Office

/-! ## Where updates come from -/

/-- A run has reported this. -/
def Reported (w : Office) (s : Snapshot) : Prop :=
  ∃ (n : Nat) (sc : Scene), w.scenes[n]? = some sc ∧ s ∈ sc.reports

/-- Nothing is around that no run has reported, and every subscription is one of a channel. -/
structure Sound (w : Office) : Prop where
  distinct : w.desk.audience.Distinct
  orderly : ∀ (n : Nat) (sc : Scene), w.scenes[n]? = some sc → Orderly sc
  sent : ∀ s ∈ w.transit, w.Reported s
  received : ∀ channel, ∀ s ∈ w.inbox channel, w.Reported s
  channels : ∀ task, ∀ sub ∈ w.desk.audience.subscribers task,
    ∃ c, w.desk.audience.channels[sub.channel]? = some c

theorem sound_start (settings : RunSettings) : Sound (.start settings) where
  distinct := List.nodup_nil
  orderly n sc h := absurd h (by simp [start])
  sent s hs := absurd hs (by simp [start, transit, Desk.ofSettings])
  received channel s hs :=
    absurd hs (by simp [start, inbox, Audience.waiting, Desk.ofSettings, Audience.empty])
  channels task sub hsub :=
    absurd hsub (by simp [start, Audience.subscribers, Desk.ofSettings, Audience.empty])

theorem orderly_office {w w' : Office} (h : Sound w) (hs : Step w w') :
    ∀ (n : Nat) (sc : Scene), w'.scenes[n]? = some sc → Orderly sc :=
  scenes_keep orderly_init orderly_step h.orderly hs

theorem channels_step {w w' : Office} (h : Sound w) (hs : Step w w') (task : String) :
    ∀ sub ∈ w'.desk.audience.subscribers task,
      ∃ c, w'.desk.audience.channels[sub.channel]? = some c := by
  intro sub hsub
  have hthere : ∃ c, w.desk.audience.channels[sub.channel]? = some c := by
    cases regroup_step h.distinct task hs with
    | same hsubs => exact h.channels task sub (hsubs ▸ hsub)
    | attach hsubs _ hlt =>
        rw [hsubs] at hsub
        rcases List.mem_append.mp hsub with hsub | hsub
        · exact h.channels task sub hsub
        · rw [List.mem_singleton.mp hsub]
          exact ⟨_, Array.getElem?_eq_getElem hlt⟩
    | unsubscribe hsubs _ =>
        rw [hsubs] at hsub
        exact h.channels task sub (List.mem_filter.mp hsub).1
    | publish hsubs =>
        rw [hsubs] at hsub
        exact h.channels task sub ((Audience.deliver_sublist _ _ _).mem hsub)
  obtain ⟨c, hc⟩ := hthere
  obtain ⟨c', hc', _⟩ := stays_step sub.channel hs c hc
  exact ⟨c', hc'⟩

theorem sound_step {w w' : Office} (h : Sound w) (hs : Step w w') : Sound w' := by
  -- what had been reported is still in the log of the run
  have hold : ∀ s, w.Reported s → w'.Reported s := by
    rintro s ⟨n, sc, hscene, hmem⟩
    obtain ⟨sc', hscene', _, hreports⟩ := scenes_grow hs hscene
    exact ⟨n, sc', hscene', hreports.subset hmem⟩
  refine ⟨distinct_step h.distinct hs, orderly_office h hs, fun s hmem => ?_,
    fun channel s hmem => ?_, channels_step h hs⟩
  · cases flow_step 0 hs with
    | still _ _ htransit => exact hold s (h.sent s (htransit ▸ hmem))
    | @work run sc sc' news kept _ hscene' hreports hkept _ htransit =>
        rw [htransit] at hmem
        rcases List.mem_append.mp hmem with hmem | hmem
        · exact hold s (h.sent s hmem)
        · exact ⟨run, sc', hscene', hreports ▸ List.mem_append_right _ (hkept.mem hmem)⟩
    | publish htransit _ _ =>
        exact hold s (h.sent s (htransit ▸ List.mem_cons_of_mem _ hmem))
  · cases flow_step channel hs with
    | still hinbox _ _ => exact hold s (h.received channel s (hinbox.subset hmem))
    | work _ _ _ _ hinbox _ => exact hold s (h.received channel s (hinbox ▸ hmem))
    | publish htransit _ hinbox =>
        rw [hinbox] at hmem
        rcases List.mem_append.mp hmem with hmem | hmem
        · exact hold s (h.received channel s hmem)
        · rw [List.eq_of_mem_replicate hmem]
          exact hold _ (h.sent _ (htransit ▸ List.mem_cons_self))

theorem sound_later {settings : RunSettings} {w : Office} (h : Later (.start settings) w) :
    Sound w := by
  induction h with
  | refl => exact sound_start settings
  | tail _ hs ih => exact sound_step ih hs

/-! ## Staying on the list -/

theorem isOpen_stays {channel : Nat} {a a' : Audience} (h : Audience.Stays channel a a')
    (hthere : ∃ c, a.channels[channel]? = some c) (hopen : a'.IsOpen channel) :
    a.IsOpen channel := by
  obtain ⟨c, hc⟩ := hthere
  obtain ⟨c', hc', hstill⟩ := h c hc
  obtain ⟨c'', hc'', hopen'⟩ := hopen
  rw [hc'] at hc''
  cases hc''
  exact ⟨c, hc, hstill hopen'⟩

/-- A subscriber is on the list of a task while its reader is there, unless the subscription has been
ended `since` that time. -/
structure Listed (id : String) (sub : Subscriber) (since : Nat) (w : Office) : Prop where
  channel : ∃ c, w.desk.audience.channels[sub.channel]? = some c
  reached : since ≤ w.dropped.length
  kept : w.desk.audience.IsOpen sub.channel → sub.id ∉ w.dropped.drop since →
    sub ∈ w.desk.audience.subscribers id

/-- **A subscriber whose reader is there leaves the list only if the subscription is ended.** -/
theorem listed_step {w w' : Office} {id : String} {sub : Subscriber} {since : Nat}
    (hsound : Sound w) (h : Listed id sub since w) (hs : Step w w') : Listed id sub since w' := by
  obtain ⟨more, hmore⟩ := (records_grow hs).2
  have hdrop : w'.dropped.drop since = w.dropped.drop since ++ more := by
    rw [← hmore, List.drop_append_of_le_length h.reached]
  have hstays := stays_step sub.channel hs
  refine ⟨?_, ?_, fun hopen hdropped => ?_⟩
  · obtain ⟨c, hc⟩ := h.channel
    obtain ⟨c', hc', _⟩ := hstays c hc
    exact ⟨c', hc'⟩
  · rw [← hmore, List.length_append]
    exact Nat.le_add_right_of_le h.reached
  · have hopen₀ := isOpen_stays hstays h.channel hopen
    have hsub := h.kept hopen₀ fun hmem => hdropped (hdrop ▸ List.mem_append_left more hmem)
    cases regroup_step hsound.distinct id hs with
    | same hsubs => exact hsubs ▸ hsub
    | attach hsubs _ _ => exact hsubs ▸ List.mem_append_left _ hsub
    | unsubscribe hsubs hdropped' =>
        rw [hsubs]
        refine List.mem_filter.mpr ⟨hsub, ?_⟩
        rw [hdropped', List.drop_append_of_le_length h.reached] at hdropped
        have hother : sub.id ≠ _ := fun heq =>
          hdropped (List.mem_append_right _ (List.mem_singleton.mpr heq))
        simpa using hother
    | publish hsubs => exact hsubs ▸ Audience.deliver_kept hsub hopen₀

/-- A subscriber whose reader is there and whose channel has room gets what is sent on. -/
theorem publish_reaches {w : Office} {id : String} {sub : Subscriber} {since : Nat} {s : Snapshot}
    (h : Listed id sub since w) (htask : s.task = id)
    (hroom : w.desk.audience.HasRoom sub.channel) (hdropped : sub.id ∉ w.dropped.drop since) :
    s ∈ (w.publish s).inbox sub.channel := by
  have hopen : w.desk.audience.IsOpen sub.channel := by
    obtain ⟨c, hc, hopen, _⟩ := hroom
    exact ⟨c, hc, hopen⟩
  have hsub := h.kept hopen hdropped
  obtain ⟨n, _, hwaiting, hpos⟩ := Audience.publish_waiting w.desk.audience s sub.channel
  have hties : 0 < w.desk.audience.ties s.task sub.channel := by
    rw [htask]
    exact List.countP_pos_iff.mpr ⟨sub, hsub, beq_self_eq_true sub.channel⟩
  have hn := hpos hties hroom
  show s ∈ w.read sub.channel ++ (w.desk.audience.publish s).2.waiting sub.channel
  rw [hwaiting]
  refine List.mem_append_right _ (List.mem_append_right _ ?_)
  exact List.mem_replicate.mpr ⟨by omega, rfl⟩

/-! ## Following a run -/

/-- A subscriber follows a run: what came through its channel, and then what is on the way, is a part
of what the run has reported, and the subscriber stays on the list while its reader is there. -/
structure Follows (run : Nat) (id : String) (sub : Subscriber) (w : Office) : Prop where
  flow : ∃ sc, w.scenes[run]? = some sc ∧ sc.run.task.id = id ∧
    (w.stream sub.channel id ++ w.transit.filter fun s => s.task == id).Sublist sc.reports
  once : w.desk.audience.ties id sub.channel ≤ 1
  channel : ∃ c, w.desk.audience.channels[sub.channel]? = some c
  kept : w.desk.audience.IsOpen sub.channel → sub.id ∉ w.dropped →
    sub ∈ w.desk.audience.subscribers id

theorem Follows.listed {run : Nat} {id : String} {sub : Subscriber} {w : Office}
    (h : Follows run id sub w) : Listed id sub 0 w :=
  ⟨h.channel, Nat.zero_le _, h.kept⟩

/-- Before a run of a name that no other run has, nobody has heard of that name. -/
theorem follows_launch {w : Office} {task : Task} {sub : Subscriber} (h : Sound w)
    (hsub : sub ∈ w.desk.audience.subscribers task.id)
    (honce : w.desk.audience.ties task.id sub.channel = 1)
    (halone : (w.launch task).Alone w.scenes.length task.id) :
    Follows w.scenes.length task.id sub (w.launch task) := by
  have hfresh : ∀ s, w.Reported s → (s.task == task.id) = false := by
    rintro s ⟨n, sc, hscene, hmem⟩
    refine beq_false_of_ne fun htask => ?_
    obtain ⟨hlt, _⟩ := List.getElem?_eq_some_iff.mp hscene
    have hscene' : (w.launch task).scenes[n]? = some sc := by
      show (w.scenes ++ [.start task])[n]? = _
      rw [List.getElem?_append_left hlt]
      exact hscene
    have hown := (h.orderly n sc hscene).inOrder.own s hmem
    have hn := halone n sc hscene' (hown.symm.trans htask)
    omega
  have hstream : (w.launch task).stream sub.channel task.id = [] :=
    List.filter_eq_nil_iff.mpr fun s hs => by
      rw [hfresh s (h.received sub.channel s hs)]
      simp
  have htransit : ((w.launch task).transit.filter fun s => s.task == task.id) = [] :=
    List.filter_eq_nil_iff.mpr fun s hs => by
      rw [hfresh s (h.sent s hs)]
      simp
  refine ⟨⟨.start task, ?_, rfl, ?_⟩, Nat.le_of_eq honce, h.channels task.id sub hsub,
    fun _ _ => hsub⟩
  · show (w.scenes ++ [.start task])[w.scenes.length]? = _
    rw [List.getElem?_append_right (Nat.le_refl _), Nat.sub_self]
    rfl
  · rw [hstream, htransit]
    exact List.nil_sublist _

/-- What is sent on is what comes next, so the order stays. -/
theorem flow_follows {w w' : Office} {run : Nat} {id : String} {sub : Subscriber} (hsound : Sound w)
    (h : Follows run id sub w) (hs : Step w w') (halone : w'.Alone run id) :
    ∃ sc, w'.scenes[run]? = some sc ∧ sc.run.task.id = id ∧
      (w'.stream sub.channel id ++ w'.transit.filter fun s => s.task == id).Sublist sc.reports := by
  obtain ⟨sc, hscene, hid, hflow⟩ := h.flow
  obtain ⟨sc', hscene', hid', hreports⟩ := scenes_grow hs hscene
  refine ⟨sc', hscene', hid'.trans hid, ?_⟩
  unfold stream at hflow ⊢
  cases flow_step sub.channel hs with
  | still hinbox _ htransit =>
      rw [htransit]
      have hless := ((hinbox.filter fun s => s.task == id).sublist).append
        (List.Sublist.refl (w.transit.filter fun s => s.task == id))
      exact (hless.trans hflow).trans hreports.sublist
  | @work n sc₁ sc₁' news kept hrun hrun' hnews hkept hinbox htransit =>
      rw [hinbox, htransit, List.filter_append, ← List.append_assoc]
      by_cases hown : n = run
      · subst hown
        rw [hscene] at hrun
        cases hrun
        rw [hscene'] at hrun'
        cases hrun'
        rw [hnews]
        exact hflow.append (List.filter_sublist.trans hkept)
      · -- another run reports under another name
        have hother : (kept.filter fun s => s.task == id) = [] := by
          refine List.filter_eq_nil_iff.mpr fun s hs' htask => hown ?_
          have hmem : s ∈ sc₁'.reports := hnews ▸ List.mem_append_right _ (hkept.mem hs')
          have hname := (orderly_office hsound hs n sc₁' hrun').inOrder.own s hmem
          exact halone n sc₁' hrun' (hname.symm.trans (eq_of_beq htask))
        rw [hother, List.append_nil]
        exact hflow.trans hreports.sublist
  | @publish s n htransit hn hinbox =>
      rw [htransit] at hflow
      rw [hinbox, List.filter_append]
      refine List.Sublist.trans ?_ (hflow.trans hreports.sublist)
      by_cases htask : s.task = id
      · -- the channel has one tie to the task, so it gets the update at most once
        have hone : n ≤ 1 := Nat.le_trans hn (htask ▸ h.once)
        have hfew : ((List.replicate n s).filter fun s => s.task == id).Sublist [s] :=
          List.filter_sublist.trans ((List.replicate_sublist_replicate s).mpr hone)
        rw [List.filter_cons_of_pos (by simpa using htask), List.append_assoc]
        exact (List.Sublist.refl _).append (hfew.append (List.Sublist.refl _))
      · have hnone : ((List.replicate n s).filter fun s => s.task == id) = [] := by
          refine List.filter_eq_nil_iff.mpr fun s' hs' => ?_
          rw [List.eq_of_mem_replicate hs']
          simpa using htask
        rw [List.filter_cons_of_neg (by simpa using htask), hnone]
        exact (List.append_nil _).symm ▸ List.Sublist.refl _

theorem once_follows {w w' : Office} {run : Nat} {id : String} {sub : Subscriber}
    (hsound : Sound w) (h : Follows run id sub w) (hs : Step w w')
    (htied : w'.tied.count (id, sub.channel) = w.tied.count (id, sub.channel)) :
    w'.desk.audience.ties id sub.channel ≤ 1 := by
  have honce := h.once
  unfold Audience.ties at honce ⊢
  cases regroup_step hsound.distinct id hs with
  | same hsubs =>
      rw [hsubs]
      exact honce
  | @attach other hsubs htied' _ =>
      rw [hsubs, List.countP_append, List.countP_singleton]
      split
      · rename_i hchannel
        rw [htied', List.count_append, eq_of_beq hchannel, List.count_singleton_self] at htied
        omega
      · exact honce
  | unsubscribe hsubs _ =>
      rw [hsubs]
      exact Nat.le_trans List.filter_sublist.countP_le honce
  | publish hsubs =>
      rw [hsubs]
      exact Nat.le_trans (Audience.deliver_sublist _ _ _).countP_le honce

/-- **Every step keeps a follower.** -/
theorem follows_step {w w' : Office} {run : Nat} {id : String} {sub : Subscriber} (hsound : Sound w)
    (h : Follows run id sub w) (hs : Step w w') (halone : w'.Alone run id)
    (htied : w'.tied.count (id, sub.channel) = w.tied.count (id, sub.channel)) :
    Follows run id sub w' where
  flow := flow_follows hsound h hs halone
  once := once_follows hsound h hs htied
  channel := (listed_step hsound h.listed hs).channel
  kept := (listed_step hsound h.listed hs).kept

theorem tied_later {w w' : Office} (h : Later w w') : w.tied <+: w'.tied := by
  induction h with
  | refl => exact List.prefix_refl _
  | tail _ hs ih => exact ih.trans (records_grow hs).1

theorem alone_later {w w' : Office} {run : Nat} {id : String} (h : Later w w')
    (halone : w'.Alone run id) : w.Alone run id := by
  induction h with
  | refl => exact halone
  | tail _ hs ih => exact ih (alone_step hs halone)

theorem follows_later {w w' : Office} {run : Nat} {id : String} {sub : Subscriber}
    (hsound : Sound w) (h : Follows run id sub w) (hlater : Later w w')
    (halone : w'.Alone run id)
    (htied : w'.tied.count (id, sub.channel) = w.tied.count (id, sub.channel)) :
    Sound w' ∧ Follows run id sub w' := by
  induction hlater with
  | refl => exact ⟨hsound, h⟩
  | tail hbefore hs ih =>
      -- the record only grows, so nothing was tied in between either
      have hless := (tied_later hbefore).sublist.count_le (id, sub.channel)
      have hmore := (records_grow hs).1.sublist.count_le (id, sub.channel)
      obtain ⟨hsound', h'⟩ := ih (alone_step hs halone) (by omega)
      exact ⟨sound_step hsound' hs, follows_step hsound' h' hs halone (by omega)⟩

/-- Nothing that came through a channel is lost as long as its reader is there. -/
theorem inbox_later {w w' : Office} {channel : Nat} (h : Later w w')
    (hthere : ∃ c, w.desk.audience.channels[channel]? = some c)
    (hopen : w'.desk.audience.IsOpen channel) : w.inbox channel <+: w'.inbox channel := by
  have hboth : (∃ c, w'.desk.audience.channels[channel]? = some c) ∧
      (w'.desk.audience.IsOpen channel → w.inbox channel <+: w'.inbox channel) := by
    clear hopen
    induction h with
    | refl => exact ⟨hthere, fun _ => List.prefix_refl _⟩
    | tail _ hs ih =>
        obtain ⟨hthere', hinbox⟩ := ih
        have hstays := stays_step channel hs
        refine ⟨?_, fun hopen => (hinbox (isOpen_stays hstays hthere' hopen)).trans ?_⟩
        · obtain ⟨c, hc⟩ := hthere'
          obtain ⟨c', hc', _⟩ := hstays c hc
          exact ⟨c', hc'⟩
        · cases flow_step channel hs with
          | still _ hsame _ => exact hsame hopen ▸ List.prefix_refl _
          | work _ _ _ _ hsame _ => exact hsame ▸ List.prefix_refl _
          | publish _ _ hmore =>
              rw [hmore]
              exact List.prefix_append _ _
  exact hboth.2 hopen

/-! ## What a subscriber receives -/

theorem nothing_follows {l : List Snapshot} (h : l.Pairwise fun a _ => a.isRunning = true)
    {before after : List Snapshot} {s : Snapshot} (hl : l = before ++ s :: after)
    (hover : s.isRunning = false) : after = [] := by
  rw [hl] at h
  obtain ⟨_, hrest, _⟩ := List.pairwise_append.mp h
  cases after with
  | nil => rfl
  | cons a _ =>
      have hrunning := (List.pairwise_cons.mp hrest).1 a List.mem_cons_self
      exact absurd hrunning (by simp [hover])

/-- One that says that the run is over is the only one. -/
theorem over_once {l : List Snapshot} (h : l.Pairwise fun a _ => a.isRunning = true)
    {s : Snapshot} (hs : s ∈ l) (hover : s.isRunning = false) :
    (l.filter fun a => !a.isRunning) = [s] := by
  obtain ⟨before, after, hl⟩ := List.append_of_mem hs
  have hafter := nothing_follows h hl hover
  subst hafter
  subst hl
  obtain ⟨_, _, hbefore⟩ := List.pairwise_append.mp h
  have hnone : (before.filter fun a => !a.isRunning) = [] := by
    refine List.filter_eq_nil_iff.mpr fun a ha => ?_
    rw [hbefore a ha s List.mem_cons_self]
    simp
  rw [List.filter_append, hnone, List.filter_cons_of_pos (by simp [hover])]
  rfl

/--
**A subscriber receives the progress of a run in order**, whatever gets lost on the way.

Say a channel follows a task by one subscription before the only run of that name is launched. What
its reader has read of the task, and what still waits for it, counts up; while the run goes on the
count is below the total; and one that says that the run is over is the last one, and has the count
of the run's summary. If the channel has its reader and room when such an update is sent on, it is
received, once.
-/
theorem progress_arrives_in_order {settings : RunSettings} {w₀ w : Office} {task : Task}
    {sub : Subscriber} (hbefore : Later (.start settings) w₀)
    (hsub : sub ∈ w₀.desk.audience.subscribers task.id)
    (honce : w₀.desk.audience.ties task.id sub.channel = 1) (hlater : Later (w₀.launch task) w)
    (halone : w.Alone w₀.scenes.length task.id)
    (htied : w.tied.count (task.id, sub.channel) = w₀.tied.count (task.id, sub.channel)) :
    w.heard sub.channel task.id <+: w.stream sub.channel task.id ∧
      (w.stream sub.channel task.id).Pairwise (fun a b => a.completed ≤ b.completed) ∧
      (∀ s ∈ w.stream sub.channel task.id, s.isRunning = true → s.completed < s.total) ∧
      (∀ before s after, w.stream sub.channel task.id = before ++ s :: after →
        s.isRunning = false → after = []) ∧
      (∀ s ∈ w.stream sub.channel task.id, s.isRunning = false →
        ∃ sc summary, w.scenes[w₀.scenes.length]? = some sc ∧
          (sc.run.phase = .leaving summary ∨ sc.run.phase = .ended summary) ∧
          s.completed = summary.completed) ∧
      ∀ u s, Later (w₀.launch task) u → u.hand = some s → s.task = task.id →
        s.isRunning = false → u.desk.audience.HasRoom sub.channel → sub.id ∉ u.dropped →
        Later (u.publish s) w → w.desk.audience.IsOpen sub.channel →
        ((w.stream sub.channel task.id).filter fun s => !s.isRunning) = [s] ∧
          (w.desk.audience.waiting sub.channel = [] →
            ((w.heard sub.channel task.id).filter fun s => !s.isRunning) = [s]) := by
  have hsound₀ := sound_later hbefore
  have hlaunched := follows_launch hsound₀ hsub honce (alone_later hlater halone)
  have hsound₁ := sound_step hsound₀ (.launch task)
  obtain ⟨hsound, hfollows⟩ := follows_later hsound₁ hlaunched hlater halone htied
  obtain ⟨sc, hscene, _, hflow⟩ := hfollows.flow
  have hstream := (List.sublist_append_left _ _).trans hflow
  have horderly := hsound.orderly _ sc hscene
  have hpairs := horderly.inOrder.ascending.sublist hstream
  have hrunning := hpairs.imp fun hab => hab.2
  refine ⟨(List.prefix_append _ _).filter _, hpairs.imp fun hab => hab.1,
    fun s hs => horderly.inOrder.unfinished s (hstream.mem hs),
    fun before s after => nothing_follows hrunning, ?_, ?_⟩
  · intro s hs hover
    obtain ⟨summary, hphase, hcompleted⟩ := horderly.over (hstream.mem hs) hover
    exact ⟨sc, summary, hscene, hphase, hcompleted⟩
  · intro u s hu hhand htask hover hroom hdropped hrest hopen
    have hless : w₀.tied.count (task.id, sub.channel) ≤ u.tied.count (task.id, sub.channel) :=
      (tied_later hu).sublist.count_le _
    have hmore : u.tied.count (task.id, sub.channel) ≤ w.tied.count (task.id, sub.channel) :=
      (tied_later hrest).sublist.count_le _
    have hsent : Later u (u.publish s) := .tail .refl (.publish hhand)
    have halone' := alone_later (hsent.trans hrest) halone
    obtain ⟨_, hfollows'⟩ := follows_later hsound₁ hlaunched hu halone'
      (show u.tied.count _ = w₀.tied.count _ by omega)
    have hreached := publish_reaches hfollows'.listed htask hroom hdropped
    have hthere : ∃ c, (u.publish s).desk.audience.channels[sub.channel]? = some c := by
      obtain ⟨c, hc⟩ := hfollows'.channel
      obtain ⟨c', hc', _⟩ := Audience.stays_publish sub.channel u.desk.audience s c hc
      exact ⟨c', hc'⟩
    have hmem : s ∈ w.stream sub.channel task.id :=
      List.mem_filter.mpr ⟨(inbox_later hrest hthere hopen).subset hreached, by simpa using htask⟩
    have hone := over_once hrunning hmem hover
    refine ⟨hone, fun hempty => ?_⟩
    rw [← hone]
    unfold heard stream inbox
    rw [hempty, List.append_nil]

/-- A run of one tile. -/
def solo : Task :=
  .counted "solo" [⟨1, 0, 0, 0, 0⟩] 1 default

/-- One channel, with room for one snapshot, that follows this run. -/
def audienceOfOne : Office :=
  let w := (start {}).setAudience (Audience.empty.addChannel 1).2
  { w.setAudience (w.desk.audience.attach "solo" 0).2 with tied := [("solo", 0)] }

/-- The last update of that run. -/
def soloOver : Snapshot :=
  .of "solo" 1 1 false

/-- The run of one tile up to the moment when the dispatcher has its last update in its hand. -/
theorem solo_dispatched : ∃ u, Later (audienceOfOne.launch solo) u ∧ u.hand = some soloOver ∧
    u.desk.audience = audienceOfOne.desk.audience ∧ u.tied = audienceOfOne.tied ∧
    u.dropped = [] ∧ u.scenes.length = 1 := by
  have hbegun := @move_later _ _ 0 _ .begin (@Later.refl (audienceOfOne.launch solo)) rfl rfl rfl
  have hout := @move_later _ _ 0 _ .submit hbegun rfl rfl rfl
  have hback := @complete_later _ _ 0 _ [] [] _ true hout rfl rfl rfl rfl
  have hdrained := @move_later _ _ 0 _ .exhaust hback rfl rfl rfl
  have hempty := @move_later _ _ 0 _ .collect hdrained rfl rfl rfl
  have hsettled := @move_later _ _ 0 _ .settle hempty rfl rfl rfl
  have hlate := @quiet_later _ _ 0 _ _ hsettled rfl .delay rfl
  have hover := @move_later _ _ 0 _ .release hlate rfl rfl rfl
  have hclosed := @move_later _ _ 0 _ .close hover rfl rfl rfl
  exact ⟨_, hclosed.tail (.take rfl rfl), rfl, rfl, rfl, rfl, rfl⟩

theorem solo_arrives : ∃ w₀ w : Office, Later (.start {}) w₀ ∧ Later (w₀.launch solo) w ∧
    ((w.heard 0 "solo").filter fun s => !s.isRunning) = [soloOver] := by
  obtain ⟨u, hu, hhand, haudience, htied, hdropped, hscenes⟩ := solo_dispatched
  have hbefore : Later (.start {}) audienceOfOne :=
    (Later.refl.tail (.addChannel 1)).tail (.attach "solo" (by decide))
  have hsent : Later u (u.publish soloOver) := .tail .refl (.publish hhand)
  have hread : Later (u.publish soloOver) ((u.publish soloOver).receive 0 1) :=
    .tail .refl (.receive 0 1)
  have halone : ((u.publish soloOver).receive 0 1).Alone audienceOfOne.scenes.length "solo" := by
    intro n sc hscene _
    obtain ⟨hlt, _⟩ := List.getElem?_eq_some_iff.mp hscene
    have hlt' : n < u.scenes.length := hlt
    show n = 0
    omega
  obtain ⟨_, _, _, _, _, honce⟩ := @progress_arrives_in_order _ _ _ solo ⟨0, 0⟩ hbefore
    (by decide) (by decide) (hu.trans (hsent.trans hread)) halone
    (congrArg (List.count ("solo", 0)) htied)
  refine ⟨_, _, hbefore, hu.trans (hsent.trans hread), (honce u soloOver hu hhand rfl rfl ?_ ?_
    hread ?_).2 ?_⟩
  · rw [haudience]
    exact ⟨⟨1, [], true⟩, rfl, rfl, rfl⟩
  · rw [hdropped]
    exact List.not_mem_nil
  · show ((u.desk.audience.publish soloOver).2.receive 0 1).2.IsOpen 0
    rw [haudience]
    exact ⟨⟨1, [], true⟩, rfl, rfl⟩
  · show ((u.desk.audience.publish soloOver).2.receive 0 1).2.waiting 0 = []
    rw [haudience]
    rfl

end Office

end TileDepot.Warming
