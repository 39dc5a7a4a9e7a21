import TileDepot.Proofs.Warming.Joining

/-!
# Taking a name over

A run that is launched under the name of a run that goes on owns the name from then on, but the other
run goes on reporting under it. Updates are sent on by their names only, so those who follow the name
get the updates of both, and the last one of the displaced run tells them that it is over while the
owner runs (`displaced_run_is_heard`).

What does hold: a run whose last update was in the queue by then puts nothing behind it, for nothing
comes after a last update. So behind the takeover there are the updates of the new run and later ones,
and of the displaced runs that had not said that they are over; each of these still will
(`takeover_leaves_reports`).
-/

namespace TileDepot.Warming

namespace Office

/-- Reports are added at the end. -/
theorem reports_later {w w' : Office} (h : Later w w') {n : Nat} {sc : Scene}
    (hscene : w.scenes[n]? = some sc) : ∃ sc', w'.scenes[n]? = some sc' ∧
      sc'.run.task.id = sc.run.task.id ∧ sc.reports <+: sc'.reports := by
  induction h with
  | refl => exact ⟨sc, hscene, rfl, List.prefix_refl _⟩
  | tail _ hs ih =>
      obtain ⟨sc₁, hscene₁, hid₁, hreports₁⟩ := ih
      obtain ⟨sc₂, hscene₂, hid₂, hreports₂⟩ := scenes_grow hs hscene₁
      exact ⟨sc₂, hscene₂, hid₂.trans hid₁, hreports₁.trans hreports₂⟩

end Office

/-- A run that reports something more had not said before that it is over. -/
theorem Orderly.goesOn {sc : Scene} (h : Orderly sc) {before news : List Snapshot} {s : Snapshot}
    (hreports : sc.reports = before ++ news) (hs : s ∈ news) : ∀ r ∈ before, r.isRunning = true := by
  intro r hr
  have hordered := h.inOrder.ascending
  rw [hreports] at hordered
  exact ((List.pairwise_append.mp hordered).2.2 r hr s hs).2

namespace Watch

/-- A task is registered, and its run may begin. -/
def launch (v : Watch) (task : Task) : Watch :=
  { v with office := v.office.launch task }

theorem launch_later (v : Watch) (task : Task) : Later v (v.launch task) :=
  .tail .refl (.quiet (.launch task) rfl)

/-- **What comes into the queue is of a run that had not said that it is over**, whatever moment
before is looked at. -/
theorem queued_goesOn {settings : RunSettings} {v₀ v : Watch}
    (hbefore : Later (.start settings) v₀) (h : Later v₀ v) :
    ∀ (i n : Nat) (s : Snapshot), v₀.queued.length ≤ i → v.queued[i]? = some (n, s) →
      ∀ sc₀, v₀.office.scenes[n]? = some sc₀ → sc₀.GoesOn := by
  induction h with
  | refl =>
      intro i n s hi hget
      obtain ⟨hlt, _⟩ := List.getElem?_eq_some_iff.mp hget
      exact absurd hi (Nat.not_le_of_gt hlt)
  | @tail u u' hlater hs ih =>
      intro i n s hi hget sc₀ hscene₀
      by_cases hold : i < u.queued.length
      · -- it was on record before this step
        have hsame := queued_get (.tail .refl hs) (List.getElem?_eq_getElem hold)
        rw [hget] at hsame
        exact ih i n s hi (by rw [List.getElem?_eq_getElem hold, ← hsame]) sc₀ hscene₀
      · cases hs with
        | publish | quiet =>
            obtain ⟨hlt, _⟩ := List.getElem?_eq_some_iff.mp hget
            exact absurd hlt hold
        | @work run sc sc' kept hscene hstep hroom hqueue =>
            rw [List.getElem?_append_right (Nat.le_of_not_lt hold), List.getElem?_map] at hget
            obtain ⟨kept₁, hkept₁, heq⟩ := Option.map_eq_some_iff.mp hget
            obtain ⟨rfl, rfl⟩ := Prod.mk.inj heq
            obtain ⟨news, kept', hnews, hsub, hqueue', _⟩ :=
              Office.advance_queue u.office run hstep
            have hkept : kept' = kept := List.append_cancel_left (hqueue'.symm.trans hqueue)
            have hs : kept₁ ∈ news := hsub.mem (hkept ▸ List.mem_of_getElem? hkept₁)
            -- the run reports something more, so nothing before that was its last update
            have horderly := (Office.sound_later (office_later (hbefore.trans hlater))).orderly
              run sc hscene
            have hgoes := (orderly_step horderly hstep).goesOn hnews hs
            obtain ⟨sc₁, hscene₁, _, hreports⟩ :=
              Office.reports_later (office_later hlater) hscene₀
            cases hscene₁.symm.trans hscene
            exact fun r hr => hgoes r (hreports.subset hr)

/-- **A run that had not said that it is over says so in the end**, and puts it into the queue behind
all that was there. -/
theorem goesOn_final {settings : RunSettings} {v₀ v : Watch}
    (hbefore : Later (.start settings) v₀) (h : Later v₀ v) {n : Nat} {sc₀ sc : Scene}
    (hscene₀ : v₀.office.scenes[n]? = some sc₀) (hgoes : sc₀.GoesOn)
    (hscene : v.office.scenes[n]? = some sc) {final : Snapshot} (hfinal : final ∈ sc.finals) :
    final.task = sc.run.task.id ∧ final.isRunning = false ∧
      ∃ i, v₀.queued.length ≤ i ∧ v.queued[i]? = some (n, final) := by
  have hending := Office.ending_later (office_later (hbefore.trans h)) n sc hscene
  have hover := hending.final hfinal
  obtain ⟨hown, i, hget⟩ := final_queued (hbefore.trans h) hscene hfinal
  refine ⟨hown, hover, i, Nat.le_of_not_lt fun hlt => ?_, hget⟩
  -- had it been there, it would be among the reports of that time
  have hold := queued_get h (List.getElem?_eq_getElem hlt)
  have hmem : (n, final) ∈ v₀.queued := by
    rw [← Option.some.inj (hold.symm.trans hget)]
    exact List.getElem_mem hlt
  obtain ⟨sc₁, hscene₁, hreported⟩ :=
    (recorded_later (recorded_start settings) hbefore).reported n final hmem
  cases hscene₁.symm.trans hscene₀
  exact absurd (hgoes final hreported) (by simp [hover])

/--
**What a takeover leaves of the runs it displaces.**

A run is launched under a name. Every update under this name that comes into the queue from then on
is of this run or a later one, or of a run that had the name before and had not said until then that
it is over. Each of these goes on to report, and when it ends it says under the same name that it is
over. As long as the new run goes on, none of its own updates says so.
-/
theorem takeover_leaves_reports {settings : RunSettings} {v₀ v : Watch}
    (hbefore : Later (.start settings) v₀) (task : Task) (hafter : Later (v₀.launch task) v) :
    let new := v₀.office.scenes.length
    (∀ (i n : Nat) (s : Snapshot), v₀.queued.length ≤ i → v.queued[i]? = some (n, s) →
      s.task = task.id → new ≤ n ∨
        ∃ sc₀, v₀.office.scenes[n]? = some sc₀ ∧ sc₀.run.task.id = task.id ∧ sc₀.GoesOn) ∧
    (∀ (n : Nat) (sc₀ : Scene), v₀.office.scenes[n]? = some sc₀ → sc₀.run.task.id = task.id →
      sc₀.GoesOn → ∃ sc, v.office.scenes[n]? = some sc ∧ ∀ summary,
        sc.run.phase = .leaving summary ∨ sc.run.phase = .ended summary →
        ∃ final, final.task = task.id ∧ final.isRunning = false ∧
          ∃ i, v₀.queued.length ≤ i ∧ v.queued[i]? = some (n, final)) ∧
    ∀ r, v.office.desk.runs[new]? = some r → r.task.snapshot.isRunning = true →
      ∀ s, (new, s) ∈ v.queued → s.isRunning = true := by
  intro new
  have hlater : Later v₀ v := (launch_later v₀ task).trans hafter
  have hall := hbefore.trans hlater
  refine ⟨fun i n s hi hget htask => ?_, fun n sc₀ hscene₀ hid hgoes => ?_,
    fun r hrun hrunning s => queued_running hall hrun hrunning⟩
  · by_cases hnew : new ≤ n
    · exact Or.inl hnew
    · have hscene₀ := List.getElem?_eq_getElem (Nat.lt_of_not_le hnew)
      refine Or.inr ⟨_, hscene₀, ?_, queued_goesOn hbefore hlater i n s hi hget _ hscene₀⟩
      -- the update bears the name of its run
      obtain ⟨sc, hscene, hreported⟩ := (recorded_later (recorded_start settings) hall).reported n s
        (List.mem_of_getElem? hget)
      obtain ⟨sc₁, hscene₁, hid₁⟩ := Office.scene_later (office_later hlater) hscene₀
      cases hscene₁.symm.trans hscene
      have hown := ((Office.sound_later (office_later hall)).orderly n sc hscene).inOrder.own s
        hreported
      rw [← hid₁, ← hown, htask]
  · obtain ⟨sc, hscene, hid'⟩ := Office.scene_later (office_later hlater) hscene₀
    refine ⟨sc, hscene, fun summary hp => ?_⟩
    have hphase : sc.run.phase.Ends sc := Office.ending_later (office_later hall) n sc hscene
    have hlast : ∃ final, final ∈ sc.finals := by
      rcases hp with hp | hp
      all_goals
        rw [hp] at hphase
        obtain ⟨_, final, hfinals, _⟩ := hphase
        exact ⟨final, by rw [hfinals]; exact List.mem_cons_self⟩
    obtain ⟨final, hfinal⟩ := hlast
    obtain ⟨hown, hover, hqueued⟩ := goesOn_final hbefore hlater hscene₀ hgoes hscene hfinal
    exact ⟨final, hown.trans (hid'.trans hid), hover, hqueued⟩

/-- A run of two tiles under the name of the run of one tile. -/
def soloAgain : Task :=
  .counted "solo" [⟨1, 0, 1, 0, 0⟩] 2 default

/-- The run of one tile with its tile handed out, and a channel that follows it. -/
def soloOut : Office :=
  let w := Office.audienceOfOne.launch Office.solo
  { w with
    desk := ((w.desk.apply 0 .begin).2.apply 0 .submit).2
    scenes := [((Scene.start Office.solo).act .begin).act .submit] }

theorem audienceOfOne_later : Office.Later (.start {}) Office.audienceOfOne :=
  (Office.Later.refl.tail (.addChannel 1)).tail (.attach "solo" (by decide))

theorem soloOut_later : Office.Later (.start {}) soloOut := by
  have hbegun := @Office.move_later _ _ 0 _ .begin
    (audienceOfOne_later.tail (.launch Office.solo)) rfl rfl rfl
  exact @Office.move_later _ _ 0 _ .submit hbegun rfl rfl rfl

/-- The other run takes the name over. Then the tile comes back, and the run of one tile ends; the
channel gets its last update. -/
theorem solo_displaced : ∃ w sc, Office.Later (soloOut.launch soloAgain) w ∧
    w.ledger = [("solo", false), ("solo", false)] ∧ w.scenes[0]? = some sc ∧
    sc.finals = [Office.soloOver] ∧ w.desk.progress "solo" = .of "solo" 0 2 true ∧
    w.inbox 0 = [Office.soloOver] := by
  have hback := @Office.complete_later _ _ 0 _ [] [] _ true
    (@Office.Later.refl (soloOut.launch soloAgain)) rfl rfl rfl rfl
  have hdrained := @Office.move_later _ _ 0 _ .exhaust hback rfl rfl rfl
  have hempty := @Office.move_later _ _ 0 _ .collect hdrained rfl rfl rfl
  have hsettled := @Office.move_later _ _ 0 _ .settle hempty rfl rfl rfl
  have hlate := @Office.quiet_later _ _ 0 _ _ hsettled rfl .delay rfl
  have hover := @Office.move_later _ _ 0 _ .release hlate rfl rfl rfl
  have hclosed := @Office.move_later _ _ 0 _ .close hover rfl rfl rfl
  have hsent := (hclosed.tail (.take rfl rfl)).tail (.publish rfl)
  exact ⟨_, _, hsent, rfl, rfl, rfl, rfl, rfl⟩

/-- One office with the record of its queue when the name is taken over, and one when the displaced
run has come to its end. -/
theorem displaced_on_record : ∃ v₀ v : Watch, v₀.office = soloOut ∧ Later (.start {}) v₀ ∧
    Later (v₀.launch soloAgain) v ∧ v.office.ledger = [("solo", false), ("solo", false)] ∧
    v.office.desk.progress "solo" = .of "solo" 0 2 true ∧ v.office.inbox 0 = [Office.soloOver] ∧
    ∃ i, v₀.queued.length ≤ i ∧ v.queued[i]? = some (0, Office.soloOver) := by
  obtain ⟨⟨office, queued, passed⟩, hbefore, hoffice⟩ := record_later (v := .start {}) soloOut_later
  subst hoffice
  obtain ⟨w, sc, hw, hledger, hscene, hfinals, hprogress, hinbox⟩ := solo_displaced
  obtain ⟨v, hafter, hv⟩ := record_later (v := launch ⟨soloOut, queued, passed⟩ soloAgain) hw
  subst hv
  have hgoes : (((Scene.start Office.solo).act .begin).act .submit).GoesOn := by
    have hnone : (((Scene.start Office.solo).act .begin).act .submit).reports = [] := rfl
    intro s hs
    rw [hnone] at hs
    exact absurd hs List.not_mem_nil
  obtain ⟨_, _, hqueued⟩ := goesOn_final hbefore ((launch_later _ soloAgain).trans hafter) rfl hgoes
    hscene (by rw [hfinals]; exact List.mem_cons_self)
  exact ⟨_, v, rfl, hbefore, hafter, hledger, hprogress, hinbox, hqueued⟩

theorem owns_of_ledger {w : Office} (before : List (String × Bool)) {id : String}
    (h : w.ledger = before ++ [(id, false)]) : w.Owns before.length id where
  going := by rw [h, List.getElem?_concat_length]
  last n ended hn := by
    obtain ⟨hlt, _⟩ := List.getElem?_eq_some_iff.mp hn
    rw [h, List.length_append] at hlt
    exact Nat.le_of_lt_succ hlt

/-- **The end of a displaced run is heard.** The run that owns the name is a run of two tiles, none of
which is done; but who follows the name is told that one of one tile is done and the run is over. -/
theorem displaced_run_is_heard : ∃ v₀ v : Watch, Later (.start {}) v₀ ∧
    v₀.office.Owns 0 "solo" ∧ v₀.office.scenes.length = 1 ∧ Later (v₀.launch soloAgain) v ∧
    v.office.Owns 1 "solo" ∧ v.office.desk.progress "solo" = .of "solo" 0 2 true ∧
    (∃ i, v₀.queued.length ≤ i ∧ v.queued[i]? = some (0, .of "solo" 1 1 false)) ∧
    v.office.inbox 0 = [.of "solo" 1 1 false] := by
  obtain ⟨v₀, v, hoffice, hbefore, hafter, hledger, hprogress, hinbox, hqueued⟩ :=
    displaced_on_record
  have howned : v₀.office.Owns 0 "solo" := by
    rw [hoffice]
    exact owns_of_ledger [] rfl
  have hlength : v₀.office.scenes.length = 1 := by rw [hoffice]; rfl
  exact ⟨v₀, v, hbefore, howned, hlength, hafter,
    owns_of_ledger [("solo", false)] hledger, hprogress, hqueued, hinbox⟩

/-- What comes into the queue behind that takeover is of the new run, or of the run of one tile, which
had not said that it is over. -/
theorem solo_takeover_leaves_reports : ∃ v₀ v : Watch, Later (.start {}) v₀ ∧
    Later (v₀.launch soloAgain) v ∧
    (∃ i, v₀.queued.length ≤ i ∧ v.queued[i]? = some (0, Office.soloOver)) ∧
    ∀ (i n : Nat) (s : Snapshot), v₀.queued.length ≤ i → v.queued[i]? = some (n, s) →
      s.task = "solo" → 1 ≤ n ∨
        ∃ sc₀, v₀.office.scenes[n]? = some sc₀ ∧ sc₀.run.task.id = "solo" ∧ sc₀.GoesOn := by
  obtain ⟨v₀, v, hoffice, hbefore, hafter, _, _, _, hqueued⟩ := displaced_on_record
  obtain ⟨hbehind, _, _⟩ := takeover_leaves_reports hbefore soloAgain hafter
  have hlength : v₀.office.scenes.length = 1 := by rw [hoffice]; rfl
  rw [hlength] at hbehind
  exact ⟨v₀, v, hbefore, hafter, hqueued, hbehind⟩

end Watch

end TileDepot.Warming
