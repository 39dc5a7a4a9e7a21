import TileDepot.Proofs.Grid.Coverage
import TileDepot.Proofs.Warming.Tally

/-!
# Plans

A request becomes a plan if its levels are ones that tiles have, whatever the four numbers of its
box. Such a plan lists every tile of its grid once, and the three ways to count them agree: the
list, the sum over the ranges, and the total of the task (`plan_lists_grid_once`). They agree because
none of the sums comes to the end of its word (`Plan.Exact`): a level has at most `2^44` tiles, and
there are 23 levels.

Tasks and totals of other ranges have no such bound, and there is none where the sum of the counts
comes to the end of its word (`totals_counted`).
-/

namespace TileDepot.Warming

/-- All that a request with a plan says of it. -/
theorem plan_ok {r : Request} {p : Plan} (h : r.plan = .ok p) :
    r.minZoom ≤ Grid.maxZoom ∧ r.maxZoom ≤ Grid.maxZoom ∧ p.task ≠ "" ∧
      p.task = Text.trim r.task ∧ p.zooms = Grid.zoomLevels r.minZoom r.maxZoom ∧
      ∃ b, Grid.Bounds.ofList? r.bounds = some b ∧ p.bounds = b.normalized := by
  unfold Request.plan at h
  split at h
  · exact absurd h (by simp)
  rename_i b hb
  dsimp only at h
  split at h
  · exact absurd h (by simp)
  rename_i hname
  split at h
  · exact absurd h (by simp)
  rename_i hgood
  have hp := Except.ok.inj h
  subst hp
  have hlevels := List.find?_eq_none.mp hgood
  refine ⟨?_, ?_, ?_, rfl, rfl, b, hb, rfl⟩
  · exact UInt32.not_lt.mp (by simpa using hlevels r.minZoom (by simp))
  · exact UInt32.not_lt.mp (by simpa using hlevels r.maxZoom (by simp))
  · intro hempty
    have htask : Text.trim r.task = "" := hempty
    exact hname (by rw [htask]; rfl)

/-- The levels of a plan. -/
theorem plan_zooms {r : Request} {p : Plan} (h : r.plan = .ok p) :
    p.zooms.Pairwise (· < ·) ∧ (∀ z ∈ p.zooms, z ≤ Grid.maxZoom) ∧ p.zooms.length ≤ 23 := by
  obtain ⟨hmin, hmax, _, _, hzooms, _⟩ := plan_ok h
  have hmin' : r.minZoom.toNat ≤ 22 := UInt32.le_iff_toNat_le.mp hmin
  have hmax' : r.maxZoom.toNat ≤ 22 := UInt32.le_iff_toNat_le.mp hmax
  rw [hzooms]
  refine ⟨Grid.pairwise_zoomLevels _ _, fun z hz => UInt32.le_iff_toNat_le.mpr ?_, ?_⟩
  · show z.toNat ≤ 22
    have hbetween := Grid.mem_zoomLevels.mp hz
    omega
  · unfold Grid.zoomLevels
    rw [List.length_map, List.length_range']
    omega

/-! ## The tiles of a plan -/

/-- The tiles of a plan, level by level. -/
def Plan.tiles (p : Plan) : List Grid.TileId :=
  p.ranges.flatMap Grid.Range.toList

theorem mem_planTiles {p : Plan} {t : Grid.TileId} :
    t ∈ p.tiles ↔ t.zoom ∈ p.zooms ∧ (Grid.Range.covering p.bounds t.zoom).Contains t := by
  show t ∈ (p.zooms.map (Grid.Range.covering p.bounds)).flatMap Grid.Range.toList ↔ _
  rw [List.flatMap_map, List.mem_flatMap]
  constructor
  · rintro ⟨z, hz, ht⟩
    have hc := Grid.mem_toList.mp ht
    have hzoom : t.zoom = z := hc.zoom
    exact hzoom ▸ ⟨hz, hc⟩
  · rintro ⟨hz, hc⟩
    exact ⟨t.zoom, hz, Grid.mem_toList.mpr hc⟩

/-- A plan whose levels ascend lists no tile twice. -/
theorem nodup_planTiles {p : Plan} (h : p.zooms.Pairwise (· < ·)) : p.tiles.Nodup := by
  refine Grid.nodup_ranges ?_
  show (p.zooms.map (Grid.Range.covering p.bounds)).Pairwise _
  rw [List.pairwise_map]
  exact h.imp fun hlt => UInt32.ne_of_lt hlt

theorem planRanges_endsBelow {p : Plan} (h : ∀ z ∈ p.zooms, z ≤ Grid.maxZoom) :
    ∀ g ∈ p.ranges, g.EndsBelow := by
  intro g hg
  obtain ⟨z, hz, rfl⟩ := List.mem_map.mp hg
  exact Grid.covering_endsBelow (h z hz)

/-- The tiles of a plan are too few to fill a word. -/
theorem planRanges_fit {p : Plan} (h : ∀ z ∈ p.zooms, z ≤ Grid.maxZoom)
    (hlength : p.zooms.length ≤ 23) : Grid.tileCount p.ranges < UInt64.size := by
  have hcount := Grid.tileCount_covering p.bounds h
  show Grid.tileCount (p.zooms.map (Grid.Range.covering p.bounds)) < 2 ^ 64
  omega

theorem plan_hasGrid {p : Plan} (h : ∀ z ∈ p.zooms, z ≤ Grid.maxZoom) :
    ∀ z ∈ p.zooms, Grid.hasGrid z := by
  intro z hz
  have hzoom : z.toNat ≤ 22 := UInt32.le_iff_toNat_le.mp (h z hz)
  exact decide_eq_true (by omega)

/-! ## The task of a plan -/

/-- What a task for a plan is made of. -/
theorem ofPlan_some {p : Plan} {startedAt : Timestamp} {task : Task}
    (h : Task.ofPlan? p startedAt = some task) : ∃ total,
      Grid.totalCount? p.ranges = some total ∧
      task = { Task.counted p.task p.ranges total startedAt with bounds := some p.bounds } := by
  unfold Task.ofPlan? at h
  split at h
  · obtain ⟨made, hmade, rfl⟩ := Option.map_eq_some_iff.mp h
    obtain ⟨total, htotal, rfl⟩ := Option.map_eq_some_iff.mp hmade
    exact ⟨total, htotal, rfl⟩
  · exact absurd h (by simp)

theorem ofPlan_isNew {p : Plan} {startedAt : Timestamp} {task : Task}
    (h : Task.ofPlan? p startedAt = some task) : task.IsNew := by
  obtain ⟨total, htotal, rfl⟩ := ofPlan_some h
  exact ⟨_, some p.bounds, congrArg (Option.map _) htotal, rfl⟩

/-- **A plan that comes from a request has a task, and its tiles can be counted.** -/
theorem plan_task {r : Request} {p : Plan} (h : r.plan = .ok p) (startedAt : Timestamp) :
    ∃ task total, Task.ofPlan? p startedAt = some task ∧ p.total? = some total ∧
      task.total = p.tiles.length ∧ total.toNat = p.tiles.length := by
  obtain ⟨_, hlevels, hlength⟩ := plan_zooms h
  have hgrids := plan_hasGrid hlevels
  obtain ⟨total, htotal, hexact⟩ := Grid.totalCount_eq (planRanges_fit hlevels hlength)
  rw [← Grid.length_tiles] at hexact
  refine ⟨{ Task.counted p.task p.ranges total startedAt with bounds := some p.bounds }, total, ?_,
    (Grid.totalTiles_eq p.bounds hgrids).trans htotal, hexact, hexact⟩
  rw [Task.ofPlan?, if_pos (List.all_eq_true.mpr hgrids), Task.ofRanges?, htotal]
  rfl

/-! ## Exact arithmetic -/

/-- No sum of the plan's counts, and none of a walk over its tiles, comes to the end of its word. -/
structure Plan.Exact (p : Plan) : Prop where
  /-- There is a grid for every level, and so only the sum can be missing. -/
  total : p.total? = Grid.totalCount? p.ranges
  /-- Indices are clamped between zero and the last one of the grid. -/
  last : ∀ z ∈ p.zooms, (Grid.lastIndex z).toInt = 2 ^ z.toNat - 1
  /-- The counts of single ranges do not saturate. -/
  count : ∀ g ∈ p.ranges, g.count.toNat = g.toList.length
  /-- Their sum fits into a word, range after range. -/
  sum : ∀ rs, rs <+: p.ranges →
    ∃ total, Grid.totalCount? rs = some total ∧ total.toNat = Grid.tileCount rs
  /-- A walk steps on from every tile to the next column or row. -/
  step : ∀ g ∈ p.ranges, ∀ t ∈ g.toList,
    (t.x + 1).toInt = t.x.toInt + 1 ∧ (t.y + 1).toInt = t.y.toInt + 1

/-- **The arithmetic of a plan is exact.** -/
theorem plan_exact {r : Request} {p : Plan} (h : r.plan = .ok p) : p.Exact := by
  obtain ⟨_, hlevels, hlength⟩ := plan_zooms h
  have hends := planRanges_endsBelow hlevels
  have hfits := planRanges_fit hlevels hlength
  -- what comes before or after does not make a part larger than the whole
  have hpart : ∀ rs rs', rs ++ rs' = p.ranges → Grid.tileCount rs < UInt64.size := by
    intro rs rs' hsplit
    rw [← hsplit, Grid.tileCount_append] at hfits
    omega
  refine ⟨Grid.totalTiles_eq p.bounds (plan_hasGrid hlevels),
    fun z hz => Grid.lastIndex_toInt (hlevels z hz), ?_, ?_, ?_⟩
  · intro g hg
    obtain ⟨before, after, hsplit⟩ := List.append_of_mem hg
    rw [hsplit, Grid.tileCount_append] at hfits
    have hhead : Grid.tileCount (g :: after)
      = Grid.extent g.xMin g.xMax * Grid.extent g.yMin g.yMax + Grid.tileCount after := rfl
    rw [Grid.count_saturates, Grid.length_toList]
    omega
  · rintro rs ⟨rs', hsplit⟩
    exact Grid.totalCount_eq (hpart rs rs' hsplit)
  · intro g hg t ht
    have hends := hends g hg
    have hc := Grid.mem_toList.mp ht
    have hx := Int64.lt_iff_toInt_lt.mp hends.x
    have hy := Int64.lt_iff_toInt_lt.mp hends.y
    have heast := Int64.le_iff_toInt_le.mp hc.east
    have hsouth := Int64.le_iff_toInt_le.mp hc.south
    exact ⟨Grid.toInt_succ (by omega), Grid.toInt_succ (by omega)⟩

/-! ## The listing -/

/--
**A plan lists every tile of its grid once**, whatever the four numbers of the box.

Its levels are those from the smaller to the larger that was asked for, and it has a task. A walk over
the task's ranges gives its tiles and then ends; no tile comes twice, every one is on the grid of its
level, and they are those of the ranges that cover the box. There are as many as both totals say, and
no sum on the way to them comes to the end of its word.
-/
theorem plan_lists_grid_once {r : Request} {p : Plan} (h : r.plan = .ok p)
    (startedAt : Timestamp) :
    (∀ z, z ∈ p.zooms ↔ min r.minZoom.toNat r.maxZoom.toNat ≤ z.toNat ∧
        z.toNat ≤ max r.minZoom.toNat r.maxZoom.toNat) ∧
      p.zooms.Pairwise (· < ·) ∧ (∀ z ∈ p.zooms, z ≤ Grid.maxZoom) ∧ p.Exact ∧
      ∃ task total, Task.ofPlan? p startedAt = some task ∧ p.total? = some total ∧
        (∀ n, (Grid.Walk.start task.ranges).take n = task.tiles.take n) ∧
        task.tiles.Nodup ∧
        (∀ t, t ∈ task.tiles ↔
          t.zoom ∈ p.zooms ∧ (Grid.Range.covering p.bounds t.zoom).Contains t) ∧
        (∀ t ∈ task.tiles, t.OnGrid) ∧
        task.total = task.tiles.length ∧ total.toNat = task.tiles.length := by
  obtain ⟨hsorted, hlevels, _⟩ := plan_zooms h
  obtain ⟨_, _, _, _, hzooms, _⟩ := plan_ok h
  obtain ⟨task, total, htask, htotal, hcount, hcount'⟩ := plan_task h startedAt
  obtain ⟨_, _, hmade⟩ := ofPlan_some htask
  have htiles : task.tiles = p.tiles := by rw [hmade]; rfl
  refine ⟨fun z => hzooms ▸ Grid.mem_zoomLevels, hsorted, hlevels, plan_exact h, task, total, htask,
    htotal, ?_, ?_⟩
  · rw [hmade]
    exact Grid.walk_take (Grid.walk_start_within (planRanges_endsBelow hlevels))
  · rw [htiles]
    refine ⟨nodup_planTiles hsorted, fun t => mem_planTiles, fun t ht => ?_, hcount, hcount'⟩
    obtain ⟨hz, hc⟩ := mem_planTiles.mp ht
    exact Grid.covering_onGrid (hlevels t.zoom hz) hc

/-- Levels the wrong way around, and a box with one edge that is no number. -/
def strip : Request :=
  ⟨true, " strip ", [10.0, 0.0 / 0.0, -10.0, 5.0], 3, 1⟩

theorem strip_lists_grid_once : ∃ p task total, strip.plan = .ok p ∧ p.task = "strip" ∧
    p.zooms = [1, 2, 3] ∧ Task.ofPlan? p default = some task ∧ p.total? = some total ∧
    task.tiles.Nodup ∧ total.toNat = task.tiles.length := by
  have hplan : strip.plan = .ok ⟨"strip", (⟨10.0, 0.0 / 0.0, -10.0, 5.0⟩ : Grid.Bounds).normalized,
    [1, 2, 3]⟩ := rfl
  obtain ⟨_, _, _, _, task, total, htask, htotal, _, hnodup, _, _, _, hcount⟩ :=
    plan_lists_grid_once hplan default
  exact ⟨_, task, total, hplan, rfl, rfl, htask, htotal, hnodup, hcount⟩

/-! ## Totals of any ranges -/

/--
**When there is a total, and what it says**: that of a task for any ranges, as that for a box at any
levels with a grid.

A number of tiles that fits into a word is the total. Beyond this there is a total, the largest word,
only if all tiles are in one range; in two ranges or more they have none, and the task cannot be made.
-/
theorem totals_counted (id : String) (ranges : List Grid.Range) (startedAt : Timestamp)
    (b : Grid.Bounds) (zooms : List UInt32) (h : ∀ z ∈ zooms, z.toNat < 2 ^ 31) :
    Grid.Counted ranges ((Task.ofRanges? id ranges startedAt).map Task.total) ∧
      Grid.Counted (zooms.map (Grid.Range.covering b))
        ((Grid.totalTiles? b zooms).map UInt64.toNat) := by
  have hgrid : ∀ z ∈ zooms, Grid.hasGrid z := fun z hz => decide_eq_true (h z hz)
  have htask : (Task.ofRanges? id ranges startedAt).map Task.total
      = (Grid.totalCount? ranges).map UInt64.toNat := by
    rw [Task.ofRanges?, Option.map_map]
    rfl
  rw [htask, Grid.totalTiles_eq b hgrid]
  exact ⟨Grid.counted_total ranges, Grid.counted_total _⟩

/-- The world at level zero has one tile by both totals. -/
theorem world_counted :
    (Task.ofRanges? "world" [⟨0, 0, 0, 0, 0⟩] default).map Task.total = some 1 ∧
      (Grid.totalTiles? ⟨-180.0, -90.0, 180.0, 90.0⟩ [0]).map UInt64.toNat = some 1 := by
  obtain ⟨htask, hlevel⟩ := totals_counted "world" [⟨0, 0, 0, 0, 0⟩] default
    ⟨-180.0, -90.0, 180.0, 90.0⟩ [0] (by simp)
  have hlength : ([⟨0, 0, 0, 0, 0⟩].flatMap Grid.Range.toList).length = 1 := rfl
  rw [List.map_singleton, Grid.covering_zero] at hlevel
  have htask := htask.exact (by omega)
  have hlevel := hlevel.exact (by omega)
  rw [hlength] at htask hlevel
  exact ⟨htask, hlevel⟩

/-- A level of `2^32` columns and rows, and one tile more. -/
def brimming : List Grid.Range :=
  [⟨32, 0, 4294967295, 0, 4294967295⟩, ⟨0, 0, 0, 0, 0⟩]

/-- **Two ranges can be too many.** The count of the first range is cut and fits into a word, and
there is no task for it together with the second. -/
theorem brimming_not_counted :
    (∀ r ∈ brimming, (Task.ofRanges? "t" [r] default).map Task.total
      = some (min r.toList.length (2 ^ 64 - 1))) ∧
    (Task.ofRanges? "t" brimming default).map Task.total ≠
      some (min (brimming.flatMap Grid.Range.toList).length (2 ^ 64 - 1)) ∧
    Task.ofRanges? "t" brimming default = none := by
  have hnone : Task.ofRanges? "t" brimming default = none := by decide
  refine ⟨fun r hr => ?_, by simp [hnone], hnone⟩
  rw [Grid.length_toList]
  rcases List.mem_pair.mp hr with rfl | rfl <;> decide

end TileDepot.Warming
