import TileDepot.Warming.Task

/-!
# Throttled progress

Which completions of a task are told depends on earlier ones, by the number that was complete when
the last snapshot was given. Seen from outside that number is not needed: the snapshots given so far
say how many completions there were without one since the last (`silence`), and this says whether the
next one is told (`record_heard`). What the tiles came to does not matter.

So long as it holds that the task has counted what was asked of it and that no silence is as long as
the step (`Heard`), everything about whole runs follows: each completion keeps it (`heard_record`),
and so does every sequence (`heard_after`).
-/

namespace TileDepot.Warming

/-- Enough of the whole has been completed since the last snapshot. -/
def Throttle.shareReached (throttle : Throttle) (advanced total : Nat) : Bool :=
  toFloat advanced / toFloat total * 100.0 ≥ throttle.percentStep

theorem isDue_iff (throttle : Throttle) (completed last total : Nat) :
    throttle.isDue completed last total = true ↔
      total ≤ completed ∨ throttle.tileStep ≤ completed - last ∨
        throttle.shareReached (completed - last) total = true := by
  unfold Throttle.isDue Throttle.shareReached
  by_cases hend : total ≤ completed
  · simp [hend]
  · by_cases hstep : throttle.tileStep ≤ completed - last
    · simp [hend, hstep]
    · simp [hend, hstep]

/-! ## Recording one tile after the other -/

namespace Task

/-- What is given for each of several tiles. -/
def told (throttle : Throttle) : Task → List Bool → List (Option Snapshot)
  | _, [] => []
  | t, success :: rest =>
    (t.record success throttle).2 :: told throttle (t.record success throttle).1 rest

/-- The task after several tiles. -/
def recordAll (throttle : Throttle) : Task → List Bool → Task
  | t, [] => t
  | t, success :: rest => recordAll throttle (t.record success throttle).1 rest

/-- No tile has been recorded, and the run has not ended. -/
structure Fresh (t : Task) : Prop where
  completed : t.completed = 0
  lastSent : t.lastSent = 0
  goesOn : t.state.isFinished = false

end Task

theorem ofRanges_fresh {id : String} {ranges : List Grid.Range} {startedAt : Timestamp} {t : Task}
    (h : Task.ofRanges? id ranges startedAt = some t) : t.Fresh := by
  obtain ⟨total, _, rfl⟩ := Option.map_eq_some_iff.mp h
  exact ⟨rfl, rfl, rfl⟩

theorem length_told (throttle : Throttle) (outcomes : List Bool) :
    ∀ t : Task, (t.told throttle outcomes).length = outcomes.length := by
  induction outcomes with
  | nil => exact fun _ => rfl
  | cons success rest ih => exact fun t => congrArg (· + 1) (ih _)

/-- The first of several tiles are told of as if no others came. -/
theorem told_take (throttle : Throttle) (outcomes : List Bool) :
    ∀ (t : Task) (n : Nat),
      (t.told throttle outcomes).take n = t.told throttle (outcomes.take n) := by
  induction outcomes with
  | nil => intro t n; simp [Task.told]
  | cons success rest ih =>
      intro t n
      cases n with
      | zero => rfl
      | succ n => exact congrArg (_ :: ·) (ih _ n)

/-- A tile is told of by the task as the tiles before it have left it. -/
theorem told_getElem (throttle : Throttle) (outcomes : List Bool) :
    ∀ (t : Task) (i : Nat) (h : i < outcomes.length), (t.told throttle outcomes)[i]?
      = some ((t.recordAll throttle (outcomes.take i)).record outcomes[i] throttle).2 := by
  induction outcomes with
  | nil => intro t i h; exact absurd h (by simp)
  | cons success rest ih =>
      intro t i h
      cases i with
      | zero => rfl
      | succ i => exact ih _ i (Nat.lt_of_succ_lt_succ h)

/-- One tile more is recorded by the task as the others have left it. -/
theorem recordAll_concat (throttle : Throttle) (outcomes : List Bool) (success : Bool) :
    ∀ t : Task, t.recordAll throttle (outcomes ++ [success])
      = ((t.recordAll throttle outcomes).record success throttle).1 := by
  induction outcomes with
  | nil => exact fun _ => rfl
  | cons first rest ih => exact fun t => ih _

theorem told_concat (throttle : Throttle) (outcomes : List Bool) (success : Bool) :
    ∀ t : Task, t.told throttle (outcomes ++ [success]) = t.told throttle outcomes
      ++ [((t.recordAll throttle outcomes).record success throttle).2] := by
  induction outcomes with
  | nil => exact fun _ => rfl
  | cons first rest ih => exact fun t => congrArg (_ :: ·) (ih _)

/-- Recording counts, and leaves the rest of what is told alone. -/
theorem recordAll_progress (throttle : Throttle) (outcomes : List Bool) (t : Task) :
    (t.recordAll throttle outcomes).completed = t.completed + outcomes.length ∧
      (t.recordAll throttle outcomes).total = t.total ∧
      (t.recordAll throttle outcomes).state = t.state := by
  induction outcomes generalizing t with
  | nil => exact ⟨rfl, rfl, rfl⟩
  | cons success rest ih =>
      have hone : (t.record success throttle).1.completed = t.completed + 1 ∧
          (t.record success throttle).1.total = t.total ∧
          (t.record success throttle).1.state = t.state := by
        unfold Task.record
        dsimp only
        split <;> exact ⟨rfl, rfl, rfl⟩
      obtain ⟨hcompleted, htotal, hstate⟩ := ih (t.record success throttle).1
      refine ⟨?_, htotal.trans hone.2.1, hstate.trans hone.2.2⟩
      rw [Task.recordAll, hcompleted, hone.1, List.length_cons]
      omega

/-! ## Silence -/

/-- How many completions there have been since the last one with a snapshot. -/
def silence (told : List (Option Snapshot)) : Nat :=
  (told.reverse.takeWhile Option.isNone).length

theorem silence_concat (told : List (Option Snapshot)) (answer : Option Snapshot) :
    silence (told ++ [answer]) = if answer.isSome then 0 else silence told + 1 := by
  unfold silence
  rw [List.reverse_append]
  cases answer with
  | none => simp
  | some s => simp

/-- The next completion is due a snapshot. -/
def Throttle.Due (throttle : Throttle) (total : Nat) (told : List (Option Snapshot)) : Prop :=
  total ≤ told.length + 1 ∨ throttle.tileStep ≤ silence told + 1 ∨
    throttle.shareReached (silence told + 1) total = true

/-- The task is the first one with this much told, and the silence is short. -/
structure Heard (throttle : Throttle) (first : Task) (told : List (Option Snapshot)) (t : Task) :
    Prop where
  id : t.id = first.id
  total : t.total = first.total
  goesOn : t.state.isFinished = false
  completed : t.completed = told.length
  lastSent : t.lastSent + silence told = told.length
  short : silence told < throttle.tileStep

variable {throttle : Throttle} {first t : Task} {told : List (Option Snapshot)}

theorem heard_fresh (hfresh : first.Fresh) (hstep : 1 ≤ throttle.tileStep) :
    Heard throttle first [] first :=
  ⟨rfl, rfl, hfresh.goesOn, hfresh.completed, hfresh.lastSent, hstep⟩

/-- What has been completed since the last snapshot is the silence and the new tile. -/
theorem Heard.due_iff (h : Heard throttle first told t) :
    throttle.isDue (t.completed + 1) t.lastSent t.total = true ↔ throttle.Due first.total told := by
  have hsent := h.lastSent
  have hadvanced : told.length + 1 - t.lastSent = silence told + 1 := by omega
  rw [isDue_iff, h.completed, h.total, hadvanced]
  rfl

/-- **What is given for a completion, by what was given before.** -/
theorem record_heard (h : Heard throttle first told t) (success : Bool) :
    (throttle.Due first.total told → (t.record success throttle).2
      = some (.of first.id (told.length + 1) first.total
          (decide (told.length + 1 < first.total)))) ∧
    (¬ throttle.Due first.total told → (t.record success throttle).2 = none) := by
  rw [← h.due_iff]
  unfold Task.record
  constructor
  · intro hdue
    rw [if_pos hdue]
    dsimp only [Task.snapshot]
    rw [h.goesOn, h.completed, h.total, h.id]
    rfl
  · intro hdue
    rw [if_neg hdue]

/-- **Each completion keeps it so.** -/
theorem heard_record (h : Heard throttle first told t) (success : Bool) :
    Heard throttle first (told ++ [(t.record success throttle).2]) (t.record success throttle).1 := by
  have hcompleted := h.completed
  have hsent := h.lastSent
  have hshort := h.short
  obtain ⟨htold, hsilent⟩ := record_heard h success
  by_cases hdue : throttle.Due first.total told
  · -- a snapshot ends the silence
    have hlast : (t.record success throttle).1
        = { t with completed := t.completed + 1, lastSent := t.completed + 1,
                   failed := if success then t.failed else t.failed + 1 } := by
      unfold Task.record
      rw [if_pos (h.due_iff.mpr hdue)]
    rw [htold hdue, hlast]
    refine ⟨h.id, h.total, h.goesOn, ?_, ?_, ?_⟩
    · simp [hcompleted]
    · rw [silence_concat]
      simp [hcompleted]
    · rw [silence_concat]
      show 0 < throttle.tileStep
      omega
  · -- without one it grows, and the step has not been reached
    have hlast : (t.record success throttle).1
        = { t with completed := t.completed + 1,
                   failed := if success then t.failed else t.failed + 1 } := by
      unfold Task.record
      rw [if_neg fun hd => hdue (h.due_iff.mp hd)]
    have hbelow : ¬ throttle.tileStep ≤ silence told + 1 := fun hle => hdue (Or.inr (Or.inl hle))
    rw [hsilent hdue, hlast]
    refine ⟨h.id, h.total, h.goesOn, ?_, ?_, ?_⟩
    · simp [hcompleted]
    · rw [silence_concat, List.length_append]
      show t.lastSent + (silence told + 1) = told.length + 1
      omega
    · rw [silence_concat]
      show silence told + 1 < throttle.tileStep
      omega

/-- **And so does every sequence of completions.** -/
theorem heard_after (outcomes : List Bool) : ∀ {told : List (Option Snapshot)} {t : Task},
    Heard throttle first told t →
      Heard throttle first (told ++ t.told throttle outcomes) (t.recordAll throttle outcomes) := by
  induction outcomes with
  | nil =>
      intro told t h
      rw [Task.told, List.append_nil]
      exact h
  | cons success rest ih =>
      intro told t h
      have hrest := ih (heard_record h success)
      rw [List.append_assoc] at hrest
      exact hrest

/-! ## Runs -/

/-- What is given for one of several completions, by what was given for those before it. -/
theorem told_at (hfresh : first.Fresh) (hstep : 1 ≤ throttle.tileStep) {outcomes : List Bool}
    {i : Nat} (h : i < outcomes.length) :
    let before := (first.told throttle outcomes).take i
    before.length = i ∧ silence before < throttle.tileStep ∧
    (throttle.Due first.total before → (first.told throttle outcomes)[i]?
      = some (some (.of first.id (i + 1) first.total (decide (i + 1 < first.total))))) ∧
    (¬ throttle.Due first.total before → (first.told throttle outcomes)[i]? = some none) := by
  intro before
  have hheard : Heard throttle first before (first.recordAll throttle (outcomes.take i)) := by
    have hafter := heard_after (outcomes.take i) (heard_fresh hfresh hstep)
    rwa [List.nil_append, ← told_take] at hafter
  have hlength : before.length = i := by
    rw [List.length_take, length_told]
    omega
  obtain ⟨htold, hsilent⟩ := record_heard hheard outcomes[i]
  rw [told_getElem throttle outcomes first i h]
  refine ⟨hlength, hheard.short, fun hdue => ?_, fun hdue => ?_⟩
  · rw [htold hdue, hlength]
  · rw [hsilent hdue]

/-- Up to any completion the silence is shorter than the step. -/
theorem silence_short (hfresh : first.Fresh) (hstep : 1 ≤ throttle.tileStep)
    (outcomes : List Bool) (n : Nat) :
    silence ((first.told throttle outcomes).take n) < throttle.tileStep := by
  have hafter := heard_after (outcomes.take n) (heard_fresh hfresh hstep)
  rw [List.nil_append, ← told_take] at hafter
  exact hafter.short

/-- While the share is never reached, snapshots are given at multiples of the step: this is where the
last one was. -/
theorem last_told_at_multiple (hfresh : first.Fresh) (hstep : 1 ≤ throttle.tileStep)
    {outcomes : List Bool}
    (hnever : ∀ i < outcomes.length, i + 1 < first.total → throttle.shareReached
      (silence ((first.told throttle outcomes).take i) + 1) first.total = false) :
    ∀ i ≤ outcomes.length, i < first.total →
      ∃ k, i = throttle.tileStep * k + silence ((first.told throttle outcomes).take i) := by
  intro i
  induction i with
  | zero => intro _ _; exact ⟨0, rfl⟩
  | succ i ih =>
      intro hi htotal
      obtain ⟨k, hk⟩ := ih (by omega) (by omega)
      obtain ⟨hlength, hshort, htold, hsilent⟩ := told_at hfresh hstep (Nat.lt_of_succ_le hi)
      have hshare := hnever i (Nat.lt_of_succ_le hi) htotal
      rw [List.take_add_one]
      by_cases hdue : throttle.Due first.total ((first.told throttle outcomes).take i)
      · -- only the step can have been reached, and exactly so
        have hreached : silence ((first.told throttle outcomes).take i) + 1 = throttle.tileStep := by
          rcases hdue with hend | hle | hreached
          · rw [hlength] at hend
            omega
          · omega
          · rw [hshare] at hreached
            exact absurd hreached (by simp)
        rw [htold hdue, Option.toList_some, silence_concat]
        refine ⟨k + 1, ?_⟩
        rw [Nat.mul_succ]
        simp only [Option.isSome_some, if_true]
        omega
      · rw [hsilent hdue, Option.toList_some, silence_concat]
        refine ⟨k, ?_⟩
        simp only [Option.isSome_none, Bool.false_eq_true, if_false]
        omega

/-- A step after a multiple there is the next one, and none before it. -/
theorem told_iff_dvd (hfresh : first.Fresh) (hstep : 1 ≤ throttle.tileStep)
    {outcomes : List Bool}
    (hnever : ∀ i < outcomes.length, i + 1 < first.total → throttle.shareReached
      (silence ((first.told throttle outcomes).take i) + 1) first.total = false)
    {i : Nat} (hi : i < outcomes.length) (hbefore : i + 1 < first.total) :
    (∃ s, (first.told throttle outcomes)[i]? = some (some s)) ↔ throttle.tileStep ∣ i + 1 := by
  obtain ⟨k, hk⟩ := last_told_at_multiple hfresh hstep hnever i (by omega) (by omega)
  obtain ⟨hlength, hshort, htold, hsilent⟩ := told_at hfresh hstep hi
  have hshare := hnever i hi hbefore
  have hsum : i + 1 = throttle.tileStep * k
      + (silence ((first.told throttle outcomes).take i) + 1) := by omega
  rw [hsum, Nat.dvd_add_right (Nat.dvd_mul_right _ _)]
  constructor
  · rintro ⟨s, hs⟩
    by_cases hdue : throttle.Due first.total ((first.told throttle outcomes).take i)
    · rcases hdue with hend | hle | hreached
      · omega
      · have hexact : silence ((first.told throttle outcomes).take i) + 1 = throttle.tileStep := by
          omega
        exact ⟨1, by omega⟩
      · rw [hshare] at hreached
        exact absurd hreached (by simp)
    · exact absurd (hs.symm.trans (hsilent hdue)) (by simp)
  · exact fun hdvd => ⟨_, htold (Or.inr (Or.inl (Nat.le_of_dvd (Nat.succ_pos _) hdvd)))⟩

/--
**Progress is throttled, and never lost.**

Of a new task with tiles recorded one after the other, successes or failures, each completion has a
snapshot of its own or comes less than a step after the last one that has. Every completion from the
last tile on has one that says that the run is over, and those of earlier completions say that it
goes on; each tells how many are complete. Where the share is never reached, the completions before
the last tile that have a snapshot are the multiples of the step.
-/
theorem throttled_progress (hfresh : first.Fresh) (hstep : 1 ≤ throttle.tileStep)
    (outcomes : List Bool) :
    let told := first.told throttle outcomes
    told.length = outcomes.length ∧
    (∀ i < outcomes.length, (∃ s, told[i]? = some (some s)) ∨
      silence (told.take (i + 1)) < throttle.tileStep) ∧
    (∀ i < outcomes.length, first.total ≤ i + 1 →
      ∃ s, told[i]? = some (some s) ∧ s.isRunning = false) ∧
    (∀ i s, told[i]? = some (some s) →
      s = .of first.id (i + 1) first.total s.isRunning ∧
      (i + 1 < first.total → s.isRunning = true)) ∧
    ((∀ i < outcomes.length, i + 1 < first.total →
        throttle.shareReached (silence (told.take i) + 1) first.total = false) →
      ∀ i < outcomes.length, i + 1 < first.total →
        ((∃ s, told[i]? = some (some s)) ↔ throttle.tileStep ∣ i + 1)) := by
  intro told
  refine ⟨length_told throttle outcomes first, ?_, ?_, ?_, ?_⟩
  · intro i hi
    exact Or.inr (silence_short hfresh hstep outcomes (i + 1))
  · intro i hi hend
    obtain ⟨hlength, _, htold, _⟩ := told_at hfresh hstep hi
    refine ⟨_, htold (Or.inl (by omega)), ?_⟩
    show decide (i + 1 < first.total) = false
    simpa using hend
  · intro i s hs
    have hi : i < outcomes.length := by
      rw [← length_told throttle outcomes first]
      exact (List.getElem?_eq_some_iff.mp hs).1
    obtain ⟨_, _, htold, hsilent⟩ := told_at hfresh hstep hi
    by_cases hdue : throttle.Due first.total (told.take i)
    · have heq := Option.some.inj (Option.some.inj (hs.symm.trans (htold hdue)))
      subst heq
      exact ⟨rfl, fun hbefore => decide_eq_true hbefore⟩
    · exact absurd (hs.symm.trans (hsilent hdue)) (by simp)
  · exact fun hnever i hi hbefore => told_iff_dvd hfresh hstep hnever hi hbefore

/-- Seven tiles by steps of three: the third and the sixth have a snapshot, and so has whatever comes
from the seventh on. Failures count like successes. -/
theorem seven_tiles_throttled :
    let task := Task.counted "city" [⟨10, 0, 6, 0, 0⟩] 7 ⟨2024, 1, 1, 0, 0, 0, 0⟩
    let told := task.told ⟨3, 50.0⟩ [true, false, true, true, true, false, true, true]
    task.Fresh ∧ task.total = 7 ∧ (∃ s, told[2]? = some (some s)) ∧
      ¬ (∃ s, told[4]? = some (some s)) ∧ (∃ s, told[5]? = some (some s)) ∧
      ∃ s, told[7]? = some (some s) ∧ s.isRunning = false := by
  intro task told
  have hmade : Task.ofRanges? "city" [⟨10, 0, 6, 0, 0⟩] ⟨2024, 1, 1, 0, 0, 0, 0⟩ = some task := rfl
  have hfresh : task.Fresh := ofRanges_fresh hmade
  have htotal : task.total = 7 := by decide
  obtain ⟨_, _, hend, _, hmultiples⟩ := @throttled_progress ⟨3, 50.0⟩ task hfresh (by decide)
    [true, false, true, true, true, false, true, true]
  have hnever : ∀ i < 8, i + 1 < task.total →
      Throttle.shareReached ⟨3, 50.0⟩ (silence (told.take i) + 1) task.total = false := by
    decide +kernel
  have hat := hmultiples hnever
  rw [htotal] at hat hend
  refine ⟨hfresh, htotal, (hat 2 (by decide) (by decide)).mpr (by decide), ?_,
    (hat 5 (by decide) (by decide)).mpr (by decide), hend 7 (by decide) (by decide)⟩
  intro htold
  exact absurd ((hat 4 (by decide) (by decide)).mp htold) (by decide)

end TileDepot.Warming
