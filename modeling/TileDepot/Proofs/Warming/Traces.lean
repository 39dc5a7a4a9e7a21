import TileDepot.Proofs.Warming.Tally

/-!
# The traces that tiles leave

A step of a run is, to the tiles that are out and the counts, one of five things (`Counts`). From
this it follows that a tile which is counted as a failure, or not at all, leaves a trace in the sums:
a failure, or one tile less than there could be (`Scene.Short`). No later step makes up for it
(`short_step`), so a run that ends with all tiles counted and none failed has fetched every one of
them (`open_step`).
-/

namespace TileDepot.Warming

/-! ## What a step does to the trips -/

/-- What a step does to the tiles that are out and to the counts. -/
inductive Counts (sc sc' : Scene) : Prop where
  | quiet : sc'.trips = sc.trips → sc'.submitted = sc.submitted →
      sc'.run.task.completed = sc.run.task.completed → sc'.run.task.failed = sc.run.task.failed →
      Counts sc sc'
  | submit {tile : Grid.TileId} : sc'.trips = sc.trips ++ [⟨tile, .out⟩] →
      sc'.submitted = sc.submitted ++ [tile] →
      sc'.run.task.completed = sc.run.task.completed → sc'.run.task.failed = sc.run.task.failed →
      Counts sc sc'
  | comeBack {before after : List Trip} {tile : Grid.TileId} {success : Bool} :
      sc.trips = before ++ ⟨tile, .out⟩ :: after →
      sc'.trips = before ++
        ⟨tile, if sc.run.task.isCancelled then .told else .back success⟩ :: after →
      sc'.submitted = sc.submitted → sc'.run = sc.run → Counts sc sc'
  | tell {before after : List Trip} {tile : Grid.TileId} {success : Bool} :
      sc.trips = before ++ ⟨tile, .back success⟩ :: after →
      sc'.trips = before ++ ⟨tile, .told⟩ :: after → sc'.submitted = sc.submitted →
      sc'.run.task.completed = sc.run.task.completed + 1 →
      sc'.run.task.failed = (if success then sc.run.task.failed else sc.run.task.failed + 1) →
      Counts sc sc'
  | free {before after : List Trip} {tile : Grid.TileId} :
      sc.trips = before ++ ⟨tile, .told⟩ :: after → sc'.trips = before ++ after →
      sc'.submitted = sc.submitted → sc'.run.task.completed = sc.run.task.completed →
      sc'.run.task.failed = sc.run.task.failed → Counts sc sc'

theorem counts_act (sc : Scene) {m : Move} (hm : m ≠ .submit) : Counts sc (sc.act m) := by
  obtain ⟨hrun, htile⟩ := apply_tally (r := sc.run) hm
  obtain ⟨_, htrips, hsub, _⟩ := act_quiet sc rfl htile
  exact .quiet htrips hsub hrun.completed hrun.failed

/-- **What one step does to the trips and the counts.** -/
theorem counts_step {settings : RunSettings} {sc sc' : Scene} (hs : Step settings sc sc') :
    Counts sc sc' := by
  cases hs with
  | @move m asked late room _ _ hnext =>
      by_cases hm : m = .submit
      · subst hm
        cases next_due hnext with
        | @submit tile walk _ hwalk _ _ =>
            obtain ⟨hrun, htrips, hsub, _⟩ := act_submit sc hwalk
            exact .submit htrips hsub (by rw [hrun]) (by rw [hrun])
      · exact counts_act sc hm
  | putAway => exact counts_act sc (by simp)
  | delay => exact .quiet rfl rfl rfl rfl
  | stop => exact .quiet rfl rfl rfl rfl
  | comeBack success htrips => exact .comeBack htrips rfl rfl rfl
  | @tell before after tile success htrips =>
      obtain ⟨hcompleted, hfailed, _⟩ := count_task sc.run success settings.throttle
      exact .tell htrips rfl (count_quiet sc success settings.throttle).1 hcompleted hfailed
  | free htrips => exact .free htrips rfl rfl rfl rfl

/-! ## Traces of tiles that did not make it -/

namespace Scene

/-- A tile has failed, or one will be missing. -/
def Short (sc : Scene) : Prop :=
  0 < sc.run.task.failed ∨ sc.run.task.completed + sc.pending < sc.submitted.length

/-- The tile is out and may still be counted. -/
def Open (sc : Scene) (t : Grid.TileId) : Prop :=
  ∃ trip ∈ sc.trips, trip.tile = t ∧ trip.isOpen = true

end Scene

/-- Every trip of a list with one in the middle. -/
theorem mem_middle {before after : List Trip} {trip trip' : Trip} :
    trip' ∈ before ++ trip :: after ↔ trip' = trip ∨ trip' ∈ before ++ after :=
  List.perm_middle.mem_iff.trans List.mem_cons

/-- A tile stays open if it is not the one whose trip changes. -/
theorem open_middle {sc sc' : Scene} {before after : List Trip} {trip : Trip}
    (htrips : sc.trips = before ++ trip :: after)
    (hothers : ∀ trip' ∈ before ++ after, trip' ∈ sc'.trips) {t : Grid.TileId} (h : sc.Open t) :
    sc'.Open t ∨ trip.tile = t ∧ trip.isOpen = true := by
  obtain ⟨trip', hmem, htrip'⟩ := h
  rw [htrips] at hmem
  rcases mem_middle.mp hmem with rfl | hmem
  · exact Or.inr htrip'
  · exact Or.inl ⟨trip', hothers trip' hmem, htrip'⟩

/-- **What is short stays short.** -/
theorem short_step {settings : RunSettings} {sc sc' : Scene} (h : sc.Short)
    (hs : Step settings sc sc') : sc'.Short := by
  unfold Scene.Short at h ⊢
  cases counts_step hs with
  | quiet htrips hsub hcompleted hfailed =>
      rw [pending_congr htrips, hsub, hcompleted, hfailed]
      exact h
  | @submit tile htrips hsub hcompleted hfailed =>
      rw [pending_submit htrips, hsub, hcompleted, hfailed, List.length_append]
      exact h.imp id Nat.succ_lt_succ
  | @comeBack before after tile success htrips htrips' hsub hrun =>
      -- as many may still be counted, or one less
      have hpending := pending_open htrips rfl
      have hpending' := pending_le htrips'
      rw [hsub, hrun]
      refine h.imp id fun hless => ?_
      omega
  | tell htrips htrips' hsub hcompleted hfailed =>
      have hpending := pending_open htrips rfl
      have hpending' := pending_closed htrips' rfl
      rw [hsub, hcompleted, hfailed]
      refine h.imp (fun hpos => ?_) (fun hless => ?_)
      · split <;> omega
      · omega
  | free htrips htrips' hsub hcompleted hfailed =>
      have hpending : sc'.pending = sc.pending :=
        (congrArg (List.countP Trip.isOpen) htrips').trans (pending_closed htrips rfl).symm
      rw [hsub, hcompleted, hfailed, hpending]
      exact h

/-- **A tile that is not open any more has left a trace**, unless it came back as a success. -/
theorem open_step {settings : RunSettings} {sc sc' : Scene}
    (hcounted : sc.run.task.completed + sc.pending ≤ sc.submitted.length)
    (hs : Step settings sc sc') {t : Grid.TileId} (hopen : sc.Open t) :
    sc'.Open t ∨ sc'.Short ∨ ⟨t, .back true⟩ ∈ sc.trips := by
  cases counts_step hs with
  | quiet htrips _ _ _ =>
      left
      unfold Scene.Open
      rw [htrips]
      exact hopen
  | submit htrips _ _ _ =>
      obtain ⟨trip, hmem, htrip⟩ := hopen
      exact Or.inl ⟨trip, htrips ▸ List.mem_append_left _ hmem, htrip⟩
  | @comeBack before after tile success htrips htrips' hsub hrun =>
      rcases open_middle htrips (fun _ h => htrips' ▸ mem_middle.mpr (Or.inr h)) hopen with
        hother | ⟨hown, _⟩
      · exact Or.inl hother
      have hown' : tile = t := hown
      subst hown'
      cases hasked : sc.run.task.isCancelled with
      | false =>
          rw [hasked] at htrips'
          exact Or.inl ⟨⟨tile, .back success⟩, htrips' ▸ mem_middle.mpr (Or.inl rfl), rfl, rfl⟩
      | true =>
          -- it does not count, and nothing is counted in its place
          rw [hasked] at htrips'
          have hpending := pending_open htrips rfl
          have hpending' := pending_closed htrips' rfl
          refine Or.inr (Or.inl (Or.inr ?_))
          rw [hsub, hrun]
          omega
  | @tell before after tile success htrips htrips' _ _ hfailed =>
      rcases open_middle htrips (fun _ h => htrips' ▸ mem_middle.mpr (Or.inr h)) hopen with
        hother | ⟨hown, _⟩
      · exact Or.inl hother
      have hown' : tile = t := hown
      subst hown'
      cases success with
      | true => exact Or.inr (Or.inr (htrips ▸ mem_middle.mpr (Or.inl rfl)))
      | false =>
          refine Or.inr (Or.inl (Or.inl ?_))
          rw [hfailed]
          exact Nat.succ_pos _
  | free htrips htrips' _ _ _ =>
      rcases open_middle htrips (fun _ h => htrips' ▸ h) hopen with hother | ⟨_, hclosed⟩
      · exact Or.inl hother
      · exact absurd hclosed (by simp [Trip.isOpen])

/-- A tile that is handed out is open. -/
theorem submitted_step {settings : RunSettings} {sc sc' : Scene} (hs : Step settings sc sc')
    {t : Grid.TileId} (h : t ∈ sc'.submitted) : t ∈ sc.submitted ∨ sc'.Open t := by
  cases counts_step hs with
  | quiet _ hsub _ _ => exact Or.inl (hsub ▸ h)
  | submit htrips hsub _ _ =>
      rw [hsub] at h
      rcases List.mem_append.mp h with h | h
      · exact Or.inl h
      · rw [List.mem_singleton.mp h]
        exact Or.inr ⟨_, htrips ▸ List.mem_append_right _ List.mem_cons_self, rfl, rfl⟩
  | comeBack _ _ hsub _ => exact Or.inl (hsub ▸ h)
  | tell _ _ hsub _ _ => exact Or.inl (hsub ▸ h)
  | free _ _ hsub _ _ => exact Or.inl (hsub ▸ h)

/-! ## Who is out -/

/-- The tile of a trip that is out. -/
def Trip.out? (trip : Trip) : Option Grid.TileId :=
  match trip.leg with
  | .out => some trip.tile
  | _ => none

/-- The tiles that are being fetched. -/
def Scene.outs (sc : Scene) : List Grid.TileId :=
  sc.trips.filterMap Trip.out?

theorem mem_outs {sc : Scene} {t : Grid.TileId} : t ∈ sc.outs ↔ ⟨t, .out⟩ ∈ sc.trips := by
  unfold Scene.outs
  rw [List.mem_filterMap]
  constructor
  · rintro ⟨⟨tile, leg⟩, hmem, hout⟩
    cases leg with
    | out =>
        have htile : tile = t := Option.some.inj hout
        exact htile ▸ hmem
    | back success => exact absurd hout (by simp [Trip.out?])
    | told => exact absurd hout (by simp [Trip.out?])
  · exact fun hmem => ⟨_, hmem, rfl⟩

/-- If all who are out stay out, nobody comes back. -/
theorem back_quiet {settings : RunSettings} {sc sc' : Scene} (hs : Step settings sc sc')
    (houts : sc.outs <+: sc'.outs) {t : Grid.TileId} {success : Bool}
    (h : ⟨t, .back success⟩ ∈ sc'.trips) : ⟨t, .back success⟩ ∈ sc.trips := by
  cases counts_step hs with
  | quiet htrips _ _ _ => exact htrips ▸ h
  | submit htrips _ _ _ =>
      rw [htrips] at h
      rcases List.mem_append.mp h with h | h
      · exact h
      · exact absurd (List.mem_singleton.mp h) (by simp)
  | @comeBack before after tile success' htrips htrips' _ _ =>
      have hout : Trip.out? ⟨tile, .out⟩ = some tile := rfl
      have hback : Trip.out? ⟨tile, if sc.run.task.isCancelled then .told else .back success'⟩
          = none := by
        split <;> rfl
      have hlength := houts.length_le
      unfold Scene.outs at hlength
      rw [htrips', htrips, List.filterMap_append, List.filterMap_append,
        List.filterMap_cons_some hout, List.filterMap_cons_none hback,
        List.length_append, List.length_append, List.length_cons] at hlength
      omega
  | tell htrips htrips' _ _ _ =>
      rw [htrips', mem_middle] at h
      rw [htrips]
      exact mem_middle.mpr (Or.inr (h.resolve_left (by simp)))
  | free htrips htrips' _ _ _ =>
      rw [htrips'] at h
      rw [htrips]
      exact mem_middle.mpr (Or.inr h)

/-- Only tiles that were handed out are under way. -/
theorem trips_submitted {settings : RunSettings} {task : Task} {sc : Scene}
    (h : Reachable settings task sc) : ∀ trip ∈ sc.trips, trip.tile ∈ sc.submitted := by
  induction h with
  | init => exact fun trip hmem => absurd hmem (by simp [Scene.start])
  | @tail sc sc' _ hs ih =>
      intro trip hmem
      -- a trip is new, has changed, or is as it was
      cases counts_step hs with
      | quiet htrips hsub _ _ => exact hsub ▸ ih trip (htrips ▸ hmem)
      | submit htrips hsub _ _ =>
          rw [htrips] at hmem
          rw [hsub]
          rcases List.mem_append.mp hmem with hmem | hmem
          · exact List.mem_append_left _ (ih trip hmem)
          · rw [List.mem_singleton.mp hmem]
            exact List.mem_append_right _ List.mem_cons_self
      | @comeBack before after tile success htrips htrips' hsub hrun =>
          rw [htrips', mem_middle] at hmem
          rw [hsub]
          rcases hmem with rfl | hmem
          · exact ih ⟨tile, .out⟩ (htrips ▸ mem_middle.mpr (Or.inl rfl))
          · exact ih trip (htrips ▸ mem_middle.mpr (Or.inr hmem))
      | @tell before after tile success htrips htrips' hsub _ _ =>
          rw [htrips', mem_middle] at hmem
          rw [hsub]
          rcases hmem with rfl | hmem
          · exact ih ⟨tile, .back success⟩ (htrips ▸ mem_middle.mpr (Or.inl rfl))
          · exact ih trip (htrips ▸ mem_middle.mpr (Or.inr hmem))
      | free htrips htrips' hsub _ _ =>
          rw [htrips'] at hmem
          rw [hsub]
          exact ih trip (htrips ▸ mem_middle.mpr (Or.inr hmem))

end TileDepot.Warming
