import TileDepot.Proofs.Grid.Stepping

/-!
# The range of any box can be walked

A request names levels whose grids are small. Here the level is any that has a grid, and from level
63 on a grid has more columns than a word can count. Nothing is known of the numbers that an index
is clamped from: a box may have edges that are infinite, or no numbers at all.

So all depends on the last index. It lies one below the width of the grid, as far as a word holds
the width (`lastIndex_saturated`), and hence never at the largest word. A cursor steps one past the
last column and the last row before it looks where it is, and this is the room that it needs
(`covering_steppable`, `after_exact`).
-/

namespace TileDepot.Grid

/-! ## Clamping at any level -/

/-- Zero and the last index are in order, so there is something to clamp to. -/
theorem lastIndex_nonneg (zoom : UInt32) : 0 ≤ lastIndex zoom := by
  have hlast := lastIndex_saturated zoom
  have hpos : (0 : Int) < 2 ^ zoom.toNat := by exact_mod_cast Nat.two_pow_pos zoom.toNat
  have hzero : (0 : Int64).toInt = 0 := by decide
  rw [Int64.le_iff_toInt_le]
  omega

/-- An index that is clamped lies on the grid, and below the largest word. -/
theorem clampIndex_steppable (zoom : UInt32) (i : Int64) :
    0 ≤ (clampIndex (lastIndex zoom) i).toInt ∧
      (clampIndex (lastIndex zoom) i).toInt ≤ 2 ^ zoom.toNat - 1 ∧
      (clampIndex (lastIndex zoom) i).toInt ≤ Int64.maxValue.toInt - 1 := by
  have hlast := lastIndex_saturated zoom
  have hzero : (0 : Int64).toInt = 0 := by decide
  have hmem := @clampIndex_mem (lastIndex zoom) i (lastIndex_nonneg zoom)
  have hlow := Int64.le_iff_toInt_le.mp hmem.1
  have hhigh := Int64.le_iff_toInt_le.mp hmem.2
  rw [Int64.toInt_maxValue]
  omega

/-- Each index of the range that covers a box has been clamped. -/
theorem covering_clamped (b : Bounds) (zoom : UInt32) :
    let r := Range.covering b zoom
    ∀ i ∈ [r.xMin, r.xMax, r.yMin, r.yMax], ∃ j, i = clampIndex (lastIndex zoom) j := by
  intro r i hi
  simp only [List.mem_cons, List.not_mem_nil, or_false] at hi
  rcases hi with rfl | rfl | rfl | rfl
  all_goals exact ⟨_, rfl⟩

/-- A cursor can step past both ends of the range that covers a box. -/
theorem covering_steppable (b : Bounds) (zoom : UInt32) : (Range.covering b zoom).EndsBelow := by
  have hbelow : ∀ i, clampIndex (lastIndex zoom) i < Int64.maxValue := by
    intro i
    have hindex := (clampIndex_steppable zoom i).2.2
    rw [Int64.lt_iff_toInt_lt]
    omega
  exact ⟨hbelow _, hbelow _⟩

/-! ## Every step of a walk -/

/-- A cursor is done when no tile is left. -/
theorem finished_iff_tiles {c : Cursor} (hw : c.Within) : c.finished = true ↔ c.tiles = [] := by
  refine ⟨tiles_finished, fun hnone => ?_⟩
  by_contra hf
  obtain ⟨t, next, hnext⟩ : ∃ t next, c.next? = some (t, next) := by
    unfold Cursor.next?
    rw [if_neg hf]
    exact ⟨_, _, rfl⟩
  rw [(cursor_next_some hw hnext).1] at hnone
  exact absurd hnone (by simp)

/-- A walk is done after as many steps as the range has tiles, and not before. -/
theorem after_finished {r : Range} (h : r.EndsBelow) (n : Nat) :
    ((Cursor.start r).after n).finished = true ↔ r.toList.length ≤ n := by
  obtain ⟨hleft, hwithin⟩ := after_tiles n (cursor_start_within h)
  rw [finished_iff_tiles hwithin, hleft, cursor_start_tiles, List.drop_eq_nil_iff]

/-- **No step of a walk wraps around.** -/
theorem after_exact {r : Range} (h : r.EndsBelow) {n : Nat}
    (hn : ((Cursor.start r).after n).finished = false) :
    (((Cursor.start r).after n).x + 1).toInt = ((Cursor.start r).after n).x.toInt + 1 ∧
      (((Cursor.start r).after n).y + 1).toInt = ((Cursor.start r).after n).y.toInt + 1 := by
  obtain ⟨_, hwithin⟩ := after_tiles n (cursor_start_within h)
  exact cursor_step_exact hwithin (by rw [hn]; exact Bool.false_ne_true)

/--
**The range of any box can be walked**, at every level that has a grid.

The range is there: whatever is clamped for it, latitudes and indices, is clamped to limits that are
in order. Its four indices lie on the grid, and one below the largest word at most. At no place
where the walk still has a tile to visit does the next column or the next row wrap around; so the
walk visits the tiles of the range one after the other and is done after just as many steps.
-/
theorem covering_walked (b : Bounds) {zoom : UInt32} (h : zoom.toNat < 2 ^ 31) :
    minLatitude ≤ maxLatitude ∧ 0 ≤ lastIndex zoom ∧
    ∃ r, Range.covering? b zoom = some r ∧
      (∀ i ∈ [r.xMin, r.xMax, r.yMin, r.yMax], 0 ≤ i.toInt ∧
        i.toInt ≤ max 0 (2 ^ zoom.toNat - 1) ∧ i.toInt ≤ Int64.maxValue.toInt - 1) ∧
      (∀ n, let c := (Cursor.start r).after n
        c.finished = false →
          (c.x + 1).toInt = c.x.toInt + 1 ∧ (c.y + 1).toInt = c.y.toInt + 1) ∧
      (∀ n, ((Cursor.start r).after n).finished = true ↔ r.toList.length ≤ n) ∧
      (Cursor.start r).answers r.toList.length = r.toList.map some := by
  have hends := covering_steppable b zoom
  have hgrid : hasGrid zoom = true := decide_eq_true h
  refine ⟨by decide, lastIndex_nonneg zoom, Range.covering b zoom, if_pos hgrid, ?_,
    fun n => after_exact hends, after_finished hends, ?_⟩
  · intro i hi
    obtain ⟨j, rfl⟩ := covering_clamped b zoom i hi
    have hindex := clampIndex_steppable zoom j
    omega
  · rw [answers_tiles _ (cursor_start_within hends), cursor_start_tiles, List.take_length,
      Nat.sub_self, List.replicate_zero, List.append_nil]

/-- A box without a single number for an edge, at a level whose grid no word can count. -/
theorem numberless_box_walked :
    let nan : Float := 0.0 / 0.0
    ∃ r, Range.covering? ⟨nan, 1.0 / 0.0, -1.0 / 0.0, nan⟩ 1100 = some r ∧
      ∀ n, ((Cursor.start r).after n).finished = false →
        (((Cursor.start r).after n).x + 1).toInt = ((Cursor.start r).after n).x.toInt + 1 := by
  intro nan
  obtain ⟨_, _, r, hr, _, hexact, _⟩ :=
    @covering_walked ⟨nan, 1.0 / 0.0, -1.0 / 0.0, nan⟩ 1100 (by decide)
  exact ⟨r, hr, fun n hn => (hexact n hn).1⟩

end TileDepot.Grid
