import TileDepot.Proofs.Warming.Stream

/-!
# Who owns a name

Runs of one name may follow each other in any order: a later one takes the name over while the
earlier ones go on, and each gives the name back at its end if it is still its own. So at any time
a name belongs to the latest run that was launched with it, unless this run has ended
(`names_belong_to_latest`). What is asked by name is asked of this run and no other.

All that matters for this is the ledger of an office: the name of every run in the order of the
launches, and whether the run has ended. `Latest` says by the ledger whose a name is, and a step of
the office either leaves ledger and roster as they are, or launches a run, or ends one (`Turnover`).
-/

namespace TileDepot.Warming

namespace Roster

/-! ## The roster -/

/-- The names are in strictly ascending order. -/
def Sorted (r : Roster) : Prop :=
  (r.entries.map (·.1)).Pairwise (· < ·)

theorem lookup_insertEntry (id : String) (run : Nat) (entries : List (String × Nat))
    (name : String) : (insertEntry id run entries).lookup name
      = if name = id then some run else entries.lookup name := by
  induction entries with
  | nil => exact lookup_front id run [] name
  | cons e es ih =>
      obtain ⟨other, owner⟩ := e
      unfold insertEntry
      split
      · -- the entry of this name gives way
        rename_i hsame
        rw [lookup_front, lookup_front, eq_of_beq hsame]
        split <;> rfl
      · rename_i hother
        split
        · exact lookup_front id run _ name
        · rw [lookup_front, lookup_front, ih]
          by_cases hname : name = other
          · have hne : name ≠ id := fun heq => hother (beq_iff_eq.mpr (heq.symm.trans hname))
            rw [if_pos hname, if_pos hname, if_neg hne]
          · rw [if_neg hname, if_neg hname]

theorem get?_register (r : Roster) (id name : String) (run : Nat) :
    (r.register id run).get? name = if name = id then some run else r.get? name :=
  lookup_insertEntry id run r.entries name

theorem get?_removeIfCurrent (r : Roster) (id name : String) (run : Nat) :
    (r.removeIfCurrent id run).get? name
      = if name = id ∧ r.get? id = some run then none else r.get? name := by
  unfold removeIfCurrent isCurrent
  by_cases hcurrent : r.get? id = some run
  · rw [if_pos (beq_iff_eq.mpr hcurrent)]
    have hrest := lookup_filter r.entries id name
    by_cases hname : name = id
    · rw [if_pos ⟨hname, hcurrent⟩]
      exact hrest.trans (if_pos hname)
    · rw [if_neg fun hboth => hname hboth.1]
      exact hrest.trans (if_neg hname)
  · rw [if_neg fun hboth => hcurrent (beq_iff_eq.mp hboth), if_neg fun hboth => hcurrent hboth.2]

/-- What is below the new name and all others is below all. -/
theorem below_insertEntry {low id : String} {run : Nat} {entries : List (String × Nat)}
    (hid : low < id) (h : ∀ e ∈ entries, low < e.1) :
    ∀ e ∈ insertEntry id run entries, low < e.1 := by
  induction entries with
  | nil =>
      intro e he
      rw [List.mem_singleton.mp he]
      exact hid
  | cons e₀ es ih =>
      obtain ⟨hfirst, hrest⟩ := List.forall_mem_cons.mp h
      unfold insertEntry
      split
      · exact List.forall_mem_cons.mpr ⟨hid, hrest⟩
      · split
        · exact List.forall_mem_cons.mpr ⟨hid, h⟩
        · exact List.forall_mem_cons.mpr ⟨hfirst, ih hrest⟩

theorem sorted_register {r : Roster} (h : r.Sorted) (id : String) (run : Nat) :
    (r.register id run).Sorted := by
  obtain ⟨entries⟩ := r
  unfold Sorted at h ⊢
  show ((insertEntry id run entries).map (·.1)).Pairwise (· < ·)
  rw [List.pairwise_map] at h ⊢
  induction entries with
  | nil => exact List.pairwise_singleton _ _
  | cons e es ih =>
      obtain ⟨hfirst, hrest⟩ := List.pairwise_cons.mp h
      unfold insertEntry
      split
      · rename_i hsame
        exact List.pairwise_cons.mpr ⟨fun e' he' => eq_of_beq hsame ▸ hfirst e' he', hrest⟩
      · rename_i hother
        split
        · rename_i hlt
          refine List.pairwise_cons.mpr ⟨List.forall_mem_cons.mpr ⟨hlt, fun e' he' => ?_⟩, h⟩
          exact String.lt_trans hlt (hfirst e' he')
        · -- a name that is neither equal nor below is above
          rename_i hlt
          have habove : e.1 < id := by
            refine String.not_le.mp fun hle => hother (beq_iff_eq.mpr ?_)
            exact String.le_antisymm hle (String.not_lt.mp hlt)
          exact List.pairwise_cons.mpr ⟨below_insertEntry habove hfirst, ih hrest⟩

theorem sorted_removeIfCurrent {r : Roster} (h : r.Sorted) (id : String) (run : Nat) :
    (r.removeIfCurrent id run).Sorted := by
  unfold removeIfCurrent
  split
  · exact h.sublist (List.filter_sublist.map _)
  · exact h

/-- The entries are what look-ups find, if no name has two. -/
theorem mem_entries {r : Roster} (h : r.Sorted) (id : String) (run : Nat) :
    (id, run) ∈ r.entries ↔ r.get? id = some run := by
  obtain ⟨entries⟩ := r
  unfold Sorted at h
  unfold get?
  dsimp only at h ⊢
  induction entries with
  | nil => simp
  | cons e es ih =>
      obtain ⟨other, owner⟩ := e
      obtain ⟨hfirst, hrest⟩ := List.pairwise_cons.mp h
      rw [List.mem_cons, lookup_front, ih hrest]
      by_cases hname : id = other
      · subst hname
        have hnone : es.lookup id ≠ some run := by
          intro hsome
          have hmem := List.mem_map_of_mem (f := (·.1)) ((ih hrest).mpr hsome)
          exact String.lt_irrefl id (hfirst id hmem)
        simp [hnone, eq_comm]
      · simp [hname]

end Roster

/-! ## When a run ends -/

/-- Only leaving gives a name back. -/
theorem apply_stays {r : Run} {m : Move} (hm : m ≠ .leave) :
    (r.apply m).2 ≠ .left ∧ (r.hasEnded = false → (r.apply m).1.hasEnded = false) := by
  cases m with
  | leave => exact absurd rfl hm
  | begin | stop | exhaust => exact ⟨by simp [Run.apply], fun _ => rfl⟩
  | collect => exact ⟨by simp [Run.apply], id⟩
  | sendFirst =>
      refine ⟨?_, id⟩
      show r.runningUpdate ≠ .left
      unfold Run.runningUpdate
      split <;> simp
  | submit =>
      unfold Run.apply
      dsimp only
      split <;> exact ⟨by simp, id⟩
  | settle =>
      rw [apply_settle]
      dsimp only
      split <;> exact ⟨by simp, fun _ => rfl⟩
  | release | close =>
      unfold Run.apply
      dsimp only
      split
      · exact ⟨by simp, fun _ => rfl⟩
      · exact ⟨by simp, id⟩

theorem count_stays (r : Run) (success : Bool) (throttle : Throttle) :
    (r.count success throttle).2 ≠ .left := by
  unfold Run.count
  dsimp only
  split
  · split <;> simp
  · simp

theorem due_not_ended {limit : Nat} {asked late room : Bool} {r : Run} {m : Move}
    (h : Due limit asked late room r m) : r.hasEnded = false := by
  unfold Run.hasEnded Run.summary?
  cases h with
  | begin hp | exhaust hp | stop hp | submit hp | collect hp | settle hp | release hp | close hp
    | leave hp => rw [hp]; rfl
  | sendFirst hp => rcases hp with hp | hp <;> rw [hp] <;> rfl

/-- **A step leaves a run as far from its end as it was, or is the end of it**, and then the name is
given back and nothing else is done. -/
theorem step_ending {settings : RunSettings} {sc sc' : Scene} (hs : Step settings sc sc') :
    (sc'.run.hasEnded = sc.run.hasEnded ∧
        ∃ effects, sc'.log = sc.log ++ effects ∧ ∀ e ∈ effects, e ≠ .left) ∨
      sc.run.hasEnded = false ∧ sc'.run.hasEnded = true ∧ sc'.log = sc.log ++ [.left] := by
  have hquiet : sc'.run.hasEnded = sc.run.hasEnded → sc'.log = sc.log →
      sc'.run.hasEnded = sc.run.hasEnded ∧
        ∃ effects, sc'.log = sc.log ++ effects ∧ ∀ e ∈ effects, e ≠ .left := fun hended hlog =>
    ⟨hended, [], hlog.trans (List.append_nil _).symm, by simp⟩
  cases hs with
  | @move m asked late room _ _ hnext =>
      have hdue := next_due hnext
      have hnot := due_not_ended hdue
      by_cases hm : m = .leave
      · subst hm
        cases hdue with
        | leave hp =>
            refine Or.inr ⟨hnot, ?_, ?_⟩
            · show (sc.run.apply .leave).1.hasEnded = true
              rw [apply_leave hp]
              rfl
            · show sc.log ++ [(sc.run.apply .leave).2] = _
              rw [apply_leave hp]
      · obtain ⟨heffect, hended⟩ := apply_stays (r := sc.run) hm
        exact Or.inl ⟨(hended hnot).trans hnot.symm, [_], rfl, by simpa using heffect⟩
  | putAway hsub =>
      exact Or.inl ⟨rfl, [.none], rfl, by simp⟩
  | @tell _ _ _ success _ =>
      exact Or.inl ⟨rfl, [_], rfl, by simpa using count_stays sc.run success settings.throttle⟩
  | delay | stop | comeBack | free => exact Or.inl (hquiet rfl rfl)

namespace Office

/-! ## The ledger -/

/-- The name of every run in the order of the launches, and whether the run has ended. -/
def ledger (w : Office) : List (String × Bool) :=
  w.scenes.map fun sc => (sc.run.task.id, sc.run.hasEnded)

/-- The run is the latest one of its name, and it has not ended. -/
structure Latest (ledger : List (String × Bool)) (id : String) (run : Nat) : Prop where
  going : ledger[run]? = some (id, false)
  last : ∀ n ended, ledger[n]? = some (id, ended) → n ≤ run

/-- The name belongs to this run. -/
def Owns (w : Office) (run : Nat) (id : String) : Prop :=
  Latest w.ledger id run

theorem latest_unique {ledger : List (String × Bool)} {id : String} {run run' : Nat}
    (h : Latest ledger id run) (h' : Latest ledger id run') : run = run' :=
  Nat.le_antisymm (h'.last _ _ h.going) (h.last _ _ h'.going)

/-- A run that is launched takes its name over. -/
theorem latest_launch (ledger : List (String × Bool)) (name id : String) (run : Nat) :
    Latest (ledger ++ [(name, false)]) id run ↔
      if id = name then run = ledger.length else Latest ledger id run := by
  have hlast : (ledger ++ [(name, false)])[ledger.length]? = some (name, false) := by simp
  have hold : ∀ {n : Nat} {e : String × Bool}, ledger[n]? = some e →
      (ledger ++ [(name, false)])[n]? = some e := by
    intro n e he
    obtain ⟨hlt, _⟩ := List.getElem?_eq_some_iff.mp he
    rw [List.getElem?_append_left hlt]
    exact he
  have hnew : ∀ {n : Nat} {e : String × Bool}, (ledger ++ [(name, false)])[n]? = some e →
      ledger[n]? = some e ∨ n = ledger.length ∧ e = (name, false) := by
    intro n e he
    rw [List.getElem?_append] at he
    split at he
    · exact Or.inl he
    · obtain ⟨hn, hget⟩ := List.getElem?_eq_some_iff.mp he
      have hlength : ([(name, false)] : List (String × Bool)).length = 1 := rfl
      refine Or.inr ⟨by omega, ?_⟩
      simpa using hget.symm
  split
  · rename_i hid
    subst hid
    constructor
    · intro h
      have hle := h.last _ _ hlast
      rcases hnew h.going with hgoing | ⟨hrun, _⟩
      · obtain ⟨hlt, _⟩ := List.getElem?_eq_some_iff.mp hgoing
        omega
      · exact hrun
    · rintro rfl
      refine ⟨hlast, fun n ended hn => ?_⟩
      obtain ⟨hlt, _⟩ := List.getElem?_eq_some_iff.mp hn
      rw [List.length_append, List.length_singleton] at hlt
      omega
  · rename_i hid
    have hback : ∀ {n : Nat} {ended : Bool}, (ledger ++ [(name, false)])[n]? = some (id, ended) →
        ledger[n]? = some (id, ended) := by
      intro n ended hn
      rcases hnew hn with hn | ⟨_, he⟩
      · exact hn
      · exact absurd (congrArg Prod.fst he) hid
    exact ⟨fun h => ⟨hback h.going, fun n ended hn => h.last n ended (hold hn)⟩,
      fun h => ⟨hold h.going, fun n ended hn => h.last n ended (hback hn)⟩⟩

/-- A run that ends owns nothing any more, and all others own what they did. -/
theorem latest_end {ledger : List (String × Bool)} {name : String} {ending : Nat}
    (hending : ledger[ending]? = some (name, false)) (id : String) (run : Nat) :
    Latest (ledger.set ending (name, true)) id run ↔ Latest ledger id run ∧ run ≠ ending := by
  obtain ⟨hlt, _⟩ := List.getElem?_eq_some_iff.mp hending
  have hself : (ledger.set ending (name, true))[ending]? = some (name, true) :=
    List.getElem?_set_self hlt
  have hother : ∀ {n : Nat}, n ≠ ending → (ledger.set ending (name, true))[n]? = ledger[n]? :=
    fun hn => List.getElem?_set_ne (Ne.symm hn)
  constructor
  · intro h
    have hne : run ≠ ending := by
      intro heq
      have hgoing := h.going
      rw [heq, hself] at hgoing
      exact absurd hgoing (by simp)
    refine ⟨⟨(hother hne).symm.trans h.going, fun n ended hn => ?_⟩, hne⟩
    by_cases heq : n = ending
    · subst heq
      have hid : name = id := congrArg Prod.fst (Option.some.inj (hending.symm.trans hn))
      exact h.last n true (hid ▸ hself)
    · exact h.last n ended ((hother heq).trans hn)
  · rintro ⟨h, hne⟩
    refine ⟨(hother hne).trans h.going, fun n ended hn => ?_⟩
    by_cases heq : n = ending
    · subst heq
      have hid : name = id := congrArg Prod.fst (Option.some.inj (hself.symm.trans hn))
      exact h.last n false (hid ▸ hending)
    · exact h.last n ended ((hother heq).symm.trans hn)

/-! ## What a step does to the roster -/

/-- Whatever is carried out, the runs stay as they are, and only the end of a run is about the
roster. -/
theorem carryOut_roster (run : Nat) (id : String) (effects : List Effect) (d : Desk) :
    (effects.foldl (fun d effect => d.carryOut run id effect) d).runs = d.runs ∧
      ((∀ e ∈ effects, e ≠ .left) →
        (effects.foldl (fun d effect => d.carryOut run id effect) d).roster = d.roster) := by
  induction effects generalizing d with
  | nil => exact ⟨rfl, fun _ => rfl⟩
  | cons effect effects ih =>
      obtain ⟨hruns, hroster⟩ := ih (d.carryOut run id effect)
      have hone : (d.carryOut run id effect).runs = d.runs ∧
          (effect ≠ .left → (d.carryOut run id effect).roster = d.roster) := by
        cases effect with
        | none | submitted | final => exact ⟨rfl, fun _ => rfl⟩
        | left => exact ⟨rfl, fun hno => absurd rfl hno⟩
        | update s =>
            show (d.offer s).runs = d.runs ∧ (_ → (d.offer s).roster = d.roster)
            unfold Desk.offer
            split <;> exact ⟨rfl, fun _ => rfl⟩
      refine ⟨hruns.trans hone.1, fun hquiet => ?_⟩
      obtain ⟨hfirst, hrest⟩ := List.forall_mem_cons.mp hquiet
      exact (hroster hrest).trans (hone.2 hfirst)

/-- What happens in a scene changes the roster at the end of the run only. -/
theorem advance_roster (w : Office) (run : Nat) {settings : RunSettings} {sc sc' : Scene}
    (hs : Warming.Step settings sc sc') :
    (sc'.run.hasEnded = sc.run.hasEnded ∧ (w.advance run sc sc').desk.roster = w.desk.roster) ∨
      sc.run.hasEnded = false ∧ sc'.run.hasEnded = true ∧
        (w.advance run sc sc').desk.roster = w.desk.roster.removeIfCurrent sc.run.task.id run := by
  unfold advance
  rcases step_ending hs with ⟨hended, effects, hlog, hquiet⟩ | ⟨hbefore, hended, hlog⟩
  · rw [hlog, List.drop_left]
    exact Or.inl ⟨hended, (carryOut_roster run sc.run.task.id effects _).2 hquiet⟩
  · rw [hlog, List.drop_left]
    exact Or.inr ⟨hbefore, hended, rfl⟩

theorem advance_runs (w : Office) (run : Nat) (sc sc' : Scene) :
    (w.advance run sc sc').desk.runs = w.desk.runs.setIfInBounds run sc'.run :=
  (carryOut_roster run sc.run.task.id _ (w.desk.setRun run sc'.run)).1

theorem lineUp_roster (d : Desk) (run : Nat) :
    (d.lineUp run).runs = d.runs ∧ (d.lineUp run).roster = d.roster := by
  unfold Desk.lineUp
  split
  · exact ⟨rfl, rfl⟩
  · split
    · split <;> exact ⟨rfl, rfl⟩
    · exact ⟨rfl, rfl⟩

theorem takeUpdate_roster {d d' : Desk} {s : Snapshot} (h : d.takeUpdate? = some (s, d')) :
    d'.runs = d.runs ∧ d'.roster = d.roster := by
  unfold Desk.takeUpdate? at h
  split at h
  · exact absurd h (by simp)
  · obtain ⟨_, rfl⟩ := Prod.mk.inj (Option.some.inj h)
    exact ⟨rfl, rfl⟩

/-- The desk knows the state of every run. -/
def Current (w : Office) : Prop :=
  w.desk.runs.toList = w.scenes.map Scene.run

theorem current_get {w : Office} (h : w.Current) (n : Nat) :
    w.desk.runs[n]? = w.scenes[n]?.map Scene.run := by
  rw [← Array.getElem?_toList, h, List.getElem?_map]

theorem current_step {w w' : Office} (h : w.Current) (hs : Step w w') : w'.Current := by
  have hsame : w'.desk.runs = w.desk.runs → w'.scenes = w.scenes → w'.Current := by
    intro hruns hscenes
    unfold Current
    rw [hruns, hscenes]
    exact h
  cases hs with
  | launch task =>
      show (w.desk.runs.push (.ofTask task)).toList = (w.scenes ++ [Scene.start task]).map Scene.run
      rw [Array.toList_push, h, List.map_append]
      rfl
  | @work run sc sc' _ _ _ =>
      show (w.advance run sc sc').desk.runs.toList = (w.scenes.set run sc').map Scene.run
      rw [advance_runs, Array.toList_setIfInBounds, h, List.map_set]
  | lineUp run => exact hsame (lineUp_roster w.desk run).1 rfl
  | take _ htake => exact hsame (takeUpdate_roster htake).1 rfl
  | publish | addChannel | attach | unsubscribe | receive | close => exact hsame rfl rfl

/-- What a step does to the owners of names. -/
inductive Turnover (w w' : Office) : Prop where
  | still : w'.ledger = w.ledger → w'.desk.roster = w.desk.roster → Turnover w w'
  | launch (name : String) : w'.ledger = w.ledger ++ [(name, false)] →
      w'.desk.roster = w.desk.roster.register name w.ledger.length → Turnover w w'
  /-- A run ends. -/
  | leave {run : Nat} {name : String} : w.ledger[run]? = some (name, false) →
      w'.ledger = w.ledger.set run (name, true) →
      w'.desk.roster = w.desk.roster.removeIfCurrent name run → Turnover w w'

/-- **What one step does to the owners of names.** -/
theorem turnover_step {w w' : Office} (hcurrent : w.Current) (hs : Step w w') : Turnover w w' := by
  have hsame : w'.scenes = w.scenes → w'.desk.roster = w.desk.roster → Turnover w w' :=
    fun hscenes hroster => .still (congrArg (List.map _) hscenes) hroster
  cases hs with
  | launch task =>
      have hsize : w.desk.runs.size = w.ledger.length := by
        unfold ledger
        rw [← Array.length_toList, hcurrent, List.length_map, List.length_map]
      refine .launch task.id ?_ ?_
      · show (w.scenes ++ [Scene.start task]).map _ = _
        rw [List.map_append]
        rfl
      · show w.desk.roster.register task.id w.desk.runs.size = _
        rw [hsize]
  | @work run sc sc' hscene hstep _ =>
      obtain ⟨hid, _⟩ := step_grows hstep
      have hledger : (w.advance run sc sc').ledger
          = w.ledger.set run (sc.run.task.id, sc'.run.hasEnded) := by
        rw [← hid]
        exact List.map_set
      have hentry : w.ledger[run]? = some (sc.run.task.id, sc.run.hasEnded) := by
        unfold ledger
        rw [List.getElem?_map, hscene]
        rfl
      rcases advance_roster w run hstep with ⟨hended, hroster⟩ | ⟨hbefore, hended, hroster⟩
      · obtain ⟨hlt, hget⟩ := List.getElem?_eq_some_iff.mp hentry
        refine .still ?_ hroster
        rw [hledger, hended, ← hget]
        exact List.set_getElem_self hlt
      · rw [hended] at hledger
        rw [hbefore] at hentry
        exact .leave hentry hledger hroster
  | lineUp run => exact hsame rfl (lineUp_roster w.desk run).2
  | take _ htake => exact hsame rfl (takeUpdate_roster htake).2
  | publish | addChannel | attach | unsubscribe | receive | close => exact hsame rfl rfl

/-! ## The owners of names -/

/-- The roster has every name with its owner, in order. -/
structure Registered (w : Office) : Prop where
  current : w.Current
  sorted : w.desk.roster.Sorted
  owners : ∀ id run, w.desk.roster.get? id = some run ↔ w.Owns run id

theorem registered_start (settings : RunSettings) : Registered (.start settings) where
  current := rfl
  sorted := List.Pairwise.nil
  owners id run := by
    have hnobody : ¬ (start settings).Owns run id :=
      fun h => absurd h.going (by simp [ledger, start])
    exact iff_of_false (by simp [start, Desk.ofSettings, Roster.empty, Roster.get?]) hnobody

theorem registered_step {w w' : Office} (h : Registered w) (hs : Step w w') : Registered w' := by
  have hcurrent := current_step h.current hs
  cases turnover_step h.current hs with
  | still hledger hroster =>
      refine ⟨hcurrent, hroster ▸ h.sorted, fun id run => ?_⟩
      unfold Owns
      rw [hroster, hledger]
      exact h.owners id run
  | launch name hledger hroster =>
      refine ⟨hcurrent, hroster ▸ Roster.sorted_register h.sorted name _, fun id run => ?_⟩
      unfold Owns
      rw [hroster, hledger, Roster.get?_register, latest_launch]
      split
      · rw [Option.some.injEq, eq_comm]
      · exact h.owners id run
  | @leave ending name hending hledger hroster =>
      refine ⟨hcurrent, hroster ▸ Roster.sorted_removeIfCurrent h.sorted name ending,
        fun id run => ?_⟩
      unfold Owns
      rw [hroster, hledger, Roster.get?_removeIfCurrent, latest_end hending]
      split
      · -- the name was that of the run that ends, and nobody else's
        rename_i hown
        obtain ⟨rfl, hget⟩ := hown
        refine iff_of_false (by simp) fun hboth => hboth.2 ?_
        exact latest_unique hboth.1 ((h.owners id ending).mp hget)
      · rename_i hown
        rw [h.owners id run]
        refine ⟨fun howns => ⟨howns, fun heq => hown ?_⟩, fun hboth => hboth.1⟩
        subst heq
        have hname : name = id := congrArg Prod.fst (Option.some.inj (hending.symm.trans howns.going))
        subst hname
        exact ⟨rfl, (h.owners name run).mpr howns⟩

theorem registered_later {settings : RunSettings} {w : Office} (h : Later (.start settings) w) :
    Registered w := by
  induction h with
  | refl => exact registered_start settings
  | tail _ hs ih => exact registered_step ih hs

/-! ## What is asked by name -/

/-- The run that owns a name is there, under this name. -/
theorem owner_scene {w : Office} {run : Nat} {id : String} (h : w.Owns run id) :
    ∃ sc, w.scenes[run]? = some sc ∧ sc.run.task.id = id := by
  have hgoing := h.going
  unfold ledger at hgoing
  rw [List.getElem?_map] at hgoing
  obtain ⟨sc, hscene, hentry⟩ := Option.map_eq_some_iff.mp hgoing
  exact ⟨sc, hscene, congrArg Prod.fst hentry⟩

/-- Runs keep their numbers and names. -/
theorem scene_later {w w' : Office} {n : Nat} {sc : Scene} (h : Later w w')
    (hscene : w.scenes[n]? = some sc) :
    ∃ sc', w'.scenes[n]? = some sc' ∧ sc'.run.task.id = sc.run.task.id := by
  induction h with
  | refl => exact ⟨sc, hscene, rfl⟩
  | tail _ hs ih =>
      obtain ⟨sc₁, hscene₁, hid₁⟩ := ih
      obtain ⟨sc₂, hscene₂, hid₂, _⟩ := scenes_grow hs hscene₁
      exact ⟨sc₂, hscene₂, hid₂.trans hid₁⟩

/-- A run is asked to stop. -/
def ask (w : Office) (run : Nat) : Office :=
  { w with
    desk := w.desk.cancelRun run
    scenes := w.scenes.modify run fun sc =>
      { sc with run := sc.run.cancel, stops := sc.stops + 1 } }

/-- An item that is there is changed to what becomes of it. -/
theorem modify_eq {α : Type} {l : List α} {n : Nat} {a : α} (h : l[n]? = some a) (f : α → α) :
    l.modify n f = l.set n (f a) := by
  have : Inhabited α := ⟨a⟩
  rw [List.modify_eq_set, h]
  rfl

/-- Asking a run to stop sets its mark and does nothing else. -/
theorem cancelRun_eq {w : Office} {run : Nat} {sc : Scene} (h : w.Current)
    (hscene : w.scenes[run]? = some sc) :
    w.desk.cancelRun run = w.desk.setRun run sc.run.cancel := by
  have hrun : w.desk.runs[run]? = some sc.run := by
    rw [current_get h, hscene]
    rfl
  have hlist : w.desk.runs.toList[run]? = some sc.run := by
    rw [Array.getElem?_toList]
    exact hrun
  have hruns : w.desk.runs.modify run Run.cancel = w.desk.runs.setIfInBounds run sc.run.cancel := by
    refine Array.toList_inj.mp ?_
    rw [Array.toList_modify, Array.toList_setIfInBounds, modify_eq hlist]
  unfold Desk.cancelRun Desk.setRun
  rw [hruns]

/-- **A run that is asked to stop is one thing that happens.** -/
theorem ask_later {w₀ w : Office} {run : Nat} {sc : Scene} (h : Later w₀ w) (hcurrent : w.Current)
    (hscene : w.scenes[run]? = some sc) : Later w₀ (w.ask run) := by
  have hdone := quiet_later h hscene .stop rfl
  have hscenes : w.scenes.modify run (fun sc =>
      { sc with run := sc.run.cancel, stops := sc.stops + 1 })
      = w.scenes.set run { sc with run := sc.run.cancel, stops := sc.stops + 1 } :=
    modify_eq hscene _
  unfold ask
  rw [hscenes, cancelRun_eq hcurrent hscene]
  exact hdone

/-- What one run does is nothing to the names of others. -/
theorem others_keep {w : Office} (h : Registered w) {n run : Nat} {settings : RunSettings}
    {sc sc' : Scene} {id : String} (hs : Warming.Step settings sc sc') (howns : w.Owns run id)
    (hother : run ≠ n) : (w.advance n sc sc').desk.roster.get? id = some run ∧
      (w.advance n sc sc').desk.runs[run]? = w.desk.runs[run]? := by
  have hget := (h.owners id run).mpr howns
  constructor
  · rcases advance_roster w n hs with ⟨_, hroster⟩ | ⟨_, _, hroster⟩
    · rw [hroster]
      exact hget
    · rw [hroster, Roster.get?_removeIfCurrent, if_neg]
      · exact hget
      · rintro ⟨rfl, hown⟩
        exact hother (Option.some.inj (hget.symm.trans hown))
  · rw [advance_runs, Array.getElem?_setIfInBounds, if_neg (Ne.symm hother)]

theorem find_iff (d : Desk) (id : String) (run : Nat) (r : Run) :
    d.find? id = some (run, r) ↔ d.roster.get? id = some run ∧ d.runs[run]? = some r := by
  unfold Desk.find?
  rw [Option.bind_eq_bind, Option.bind_eq_some_iff]
  constructor
  · rintro ⟨n, hget, hrest⟩
    obtain ⟨r', hrun, heq⟩ := Option.bind_eq_some_iff.mp hrest
    obtain ⟨rfl, rfl⟩ := Prod.mk.inj (Option.some.inj heq)
    exact ⟨hget, hrun⟩
  · rintro ⟨hget, hrun⟩
    exact ⟨run, hget, Option.bind_eq_some_iff.mpr ⟨r, hrun, rfl⟩⟩

/-- The desk finds the run that owns a name. -/
theorem find_owner {w : Office} (h : Registered w) {run : Nat} {id : String}
    (howns : w.Owns run id) : ∃ sc, w.scenes[run]? = some sc ∧ sc.run.task.id = id ∧
      w.desk.find? id = some (run, sc.run) := by
  obtain ⟨sc, hscene, hid⟩ := owner_scene howns
  refine ⟨sc, hscene, hid, (find_iff _ _ _ _).mpr ⟨(h.owners id run).mpr howns, ?_⟩⟩
  rw [current_get h.current, hscene]
  rfl

theorem nobody_owns {w : Office} (h : Registered w) {id : String}
    (hnobody : ∀ run, ¬ w.Owns run id) : w.desk.roster.get? id = none :=
  Option.eq_none_iff_forall_ne_some.mpr fun run hget => hnobody run ((h.owners id run).mp hget)

/-- The list of tasks has the names of the roster. -/
theorem tasks_names {w : Office} (h : Registered w) :
    w.desk.tasks.map (·.id) = w.desk.roster.entries.map (·.1) := by
  have hthere : ∀ e ∈ w.desk.roster.entries, ∃ r, w.desk.runs[e.2]? = some r ∧ r.task.id = e.1 := by
    intro e he
    have howns := (h.owners e.1 e.2).mp ((Roster.mem_entries h.sorted e.1 e.2).mp he)
    obtain ⟨sc, hscene, hid⟩ := owner_scene howns
    exact ⟨sc.run, by rw [current_get h.current, hscene]; rfl, hid⟩
  unfold Desk.tasks Roster.runs
  generalize w.desk.roster.entries = entries at hthere ⊢
  induction entries with
  | nil => rfl
  | cons e es ih =>
      obtain ⟨⟨r, hrun, hid⟩, hrest⟩ := List.forall_mem_cons.mp hthere
      rw [List.map_cons, List.filterMap_cons_some (by rw [hrun]; rfl), List.map_cons, ih hrest,
        List.map_cons, hid]

theorem mem_tasks {w : Office} (h : Registered w) (t : Task) : t ∈ w.desk.tasks ↔
    ∃ id run sc, w.Owns run id ∧ w.scenes[run]? = some sc ∧ sc.run.task = t := by
  have hruns : ∀ run, run ∈ w.desk.roster.runs ↔ ∃ id, w.Owns run id := by
    intro run
    unfold Roster.runs
    rw [List.mem_map]
    constructor
    · rintro ⟨⟨id, owner⟩, he, rfl⟩
      exact ⟨id, (h.owners id owner).mp ((Roster.mem_entries h.sorted id owner).mp he)⟩
    · rintro ⟨id, howns⟩
      exact ⟨(id, run), (Roster.mem_entries h.sorted id run).mpr ((h.owners id run).mpr howns), rfl⟩
  unfold Desk.tasks
  rw [List.mem_filterMap]
  constructor
  · rintro ⟨run, hrun, htask⟩
    obtain ⟨id, howns⟩ := (hruns run).mp hrun
    obtain ⟨sc, hscene, _⟩ := owner_scene howns
    rw [current_get h.current, hscene] at htask
    exact ⟨id, run, sc, howns, hscene, Option.some.inj htask⟩
  · rintro ⟨id, run, sc, howns, hscene, htask⟩
    refine ⟨run, (hruns run).mpr ⟨id, howns⟩, ?_⟩
    rw [current_get h.current, hscene, ← htask]
    rfl

/--
**A name belongs to the latest run that was launched with it, until this run ends.** Whatever was
launched, ended and asked for, in whatever order:

the roster has exactly the owners. What another run does, be it its end, leaves an owner its entry
and its state. Who asks by a name for a stop or for the progress asks the owner, and if there is none
nothing is done, and the progress is that of no run. The owner that was found stays one run under its
name: if it is asked to stop only later, it alone is marked, and this is one thing that happens.
And the list of tasks has those of the owners, once each, in strictly ascending order of the names.
-/
theorem names_belong_to_latest {settings : RunSettings} {w : Office}
    (h : Later (.start settings) w) :
    (∀ id run, w.desk.roster.get? id = some run ↔ w.Owns run id) ∧
    (∀ n sc sc', w.scenes[n]? = some sc → Warming.Step w.desk.settings sc sc' →
      ∀ run id, w.Owns run id → run ≠ n →
        (w.advance n sc sc').desk.roster.get? id = some run ∧
        (w.advance n sc sc').desk.runs[run]? = w.desk.runs[run]?) ∧
    (∀ run id, w.Owns run id →
      w.desk.cancel id = (true, w.desk.cancelRun run) ∧
      (∃ sc, w.scenes[run]? = some sc ∧ sc.run.task.id = id ∧
        w.desk.progress id = sc.run.task.snapshot) ∧
      ∀ w', Later w w' → ∃ sc, w'.scenes[run]? = some sc ∧ sc.run.task.id = id ∧
        w'.desk.runs[run]? = some sc.run ∧
        w'.desk.cancelRun run = w'.desk.setRun run sc.run.cancel ∧ Later w (w'.ask run)) ∧
    (∀ id, (∀ run, ¬ w.Owns run id) →
      w.desk.cancel id = (false, w.desk) ∧ w.desk.progress id = .notRunning id) ∧
    (w.desk.tasks.map (·.id)).Pairwise (· < ·) ∧
    ∀ t, t ∈ w.desk.tasks ↔
      ∃ id run sc, w.Owns run id ∧ w.scenes[run]? = some sc ∧ sc.run.task = t := by
  have hreg := registered_later h
  refine ⟨hreg.owners, fun n sc sc' _ hs run id => others_keep hreg hs, fun run id howns => ?_,
    fun id hnobody => ?_, (tasks_names hreg).symm ▸ hreg.sorted, mem_tasks hreg⟩
  · obtain ⟨sc, hscene, hid, hfind⟩ := find_owner hreg howns
    refine ⟨?_, ⟨sc, hscene, hid, ?_⟩, fun w' hlater => ?_⟩
    · unfold Desk.cancel
      rw [(hreg.owners id run).mpr howns]
    · unfold Desk.progress
      rw [hfind]
    · obtain ⟨sc', hscene', hid'⟩ := scene_later hlater hscene
      have hcurrent := (registered_later (h.trans hlater)).current
      refine ⟨sc', hscene', hid'.trans hid, ?_, cancelRun_eq hcurrent hscene',
        ask_later hlater hcurrent hscene'⟩
      rw [current_get hcurrent, hscene']
      rfl
  · have hnone := nobody_owns hreg hnobody
    constructor
    · unfold Desk.cancel
      rw [hnone]
    · unfold Desk.progress Desk.find?
      rw [hnone]
      rfl

/-- Two runs of one name, of which the first one has come to its end. -/
theorem first_solo_ended : ∃ w, Later (.start {}) w ∧
    w.ledger = [("solo", true), ("solo", false)] := by
  have hlaunched := ((@Later.refl (.start {})).tail (.launch solo)).tail (.launch solo)
  have hbegun := @move_later _ _ 0 _ .begin hlaunched rfl rfl rfl
  have hasked := @quiet_later _ _ 0 _ _ hbegun rfl .stop rfl
  have hstopped := @move_later _ _ 0 _ .stop hasked rfl rfl rfl
  have hover := @move_later _ _ 0 _ .settle hstopped rfl rfl rfl
  have hclosed := @move_later _ _ 0 _ .close hover rfl rfl rfl
  have hleft := @move_later _ _ 0 _ .leave hclosed rfl rfl rfl
  exact ⟨_, hleft, rfl⟩

theorem second_solo_asked : ∃ w, Later (.start {}) w ∧ w.Owns 1 "solo" ∧
    w.desk.roster.get? "solo" = some 1 ∧ w.desk.cancel "solo" = (true, w.desk.cancelRun 1) := by
  obtain ⟨w, h, hledger⟩ := first_solo_ended
  have howns : w.Owns 1 "solo" := by
    unfold Owns
    rw [hledger]
    refine ⟨rfl, fun n ended hn => ?_⟩
    obtain ⟨hlt, _⟩ := List.getElem?_eq_some_iff.mp hn
    exact Nat.le_of_lt_succ hlt
  obtain ⟨howners, _, hasked, _⟩ := names_belong_to_latest h
  exact ⟨w, h, howns, (howners "solo" 1).mpr howns, (hasked 1 "solo" howns).1⟩

end Office

end TileDepot.Warming
