import TileDepot.Grid.Range

/-!
# A walk visits what its ranges list

A cursor knows only the tile to visit next. `Cursor.tiles` is what it still has to visit: the rest
of its column, and then the columns east of it. Every step takes the first of these tiles away
(`cursor_next_some`), as long as an index can be stepped past (`Range.EndsBelow`): the cursor goes
one beyond the last column and must not wrap around.

The same for a walk over several ranges (`Walk.tiles`, `walk_next_some`).
-/

namespace TileDepot.Grid

/-- Both ends of the range lie below the largest index. -/
structure Range.EndsBelow (r : Range) : Prop where
  x : r.xMax < Int64.maxValue
  y : r.yMax < Int64.maxValue

/-- `n` tiles of one column, southward from `y`. -/
def columnFrom (zoom : UInt32) (x y : Int) (n : Nat) : List TileId :=
  (List.range n).map fun (j : Nat) => ⟨zoom, Int64.ofInt x, Int64.ofInt (y + j)⟩

/-- `w` columns eastward from `x`, each of `h` tiles southward from `y`. -/
def columnsFrom (zoom : UInt32) (x : Int) (w : Nat) (y : Int) (h : Nat) : List TileId :=
  (List.range w).flatMap fun (i : Nat) => columnFrom zoom (x + i) y h

theorem toList_eq (r : Range) :
    r.toList = columnsFrom r.zoom r.xMin.toInt (extent r.xMin r.xMax)
      r.yMin.toInt (extent r.yMin r.yMax) := rfl

theorem columnFrom_succ (zoom : UInt32) (x y : Int) (n : Nat) :
    columnFrom zoom x y (n + 1)
      = ⟨zoom, Int64.ofInt x, Int64.ofInt y⟩ :: columnFrom zoom x (y + 1) n := by
  unfold columnFrom
  rw [List.range_succ_eq_map, List.map_cons, List.map_map]
  congr 1
  · simp
  · apply List.map_congr_left
    intro j _
    have hj : y + ((j + 1 : Nat) : Int) = y + 1 + (j : Int) := by omega
    show (⟨zoom, Int64.ofInt x, Int64.ofInt (y + ((j + 1 : Nat) : Int))⟩ : TileId) = _
    rw [hj]

theorem columnsFrom_succ (zoom : UInt32) (x : Int) (w : Nat) (y : Int) (h : Nat) :
    columnsFrom zoom x (w + 1) y h
      = columnFrom zoom x y h ++ columnsFrom zoom (x + 1) w y h := by
  unfold columnsFrom
  rw [List.range_succ_eq_map, List.flatMap_cons, List.flatMap_map]
  congr 1
  · simp
  · apply congrArg (fun f => (List.range w).flatMap f)
    funext i
    have hi : x + ((i + 1 : Nat) : Int) = x + 1 + (i : Int) := by omega
    show columnFrom zoom (x + ((i + 1 : Nat) : Int)) y h = _
    rw [hi]

theorem length_columnsFrom (zoom : UInt32) (x : Int) (w : Nat) (y : Int) (h : Nat) :
    (columnsFrom zoom x w y h).length = w * h := by
  induction w generalizing x with
  | zero => simp [columnsFrom]
  | succ w ih =>
      rw [columnsFrom_succ, List.length_append, ih, Nat.succ_mul, Nat.add_comm]
      simp [columnFrom]

/-! ## One cursor -/

/-- Adding one to an index below the largest does not wrap around. -/
theorem toInt_succ {i : Int64} (h : i.toInt < Int64.maxValue.toInt) :
    (i + 1).toInt = i.toInt + 1 := by
  have hlow := i.le_toInt
  rw [Int64.toInt_maxValue] at h
  have hone : (1 : Int64).toInt = 1 := by decide
  rw [Int64.toInt_add, hone]
  exact Int.bmod_eq_of_le (by omega) (by omega)

namespace Cursor

/-- What is left to visit. -/
def tiles (c : Cursor) : List TileId :=
  if c.finished then []
  else columnFrom c.range.zoom c.x.toInt c.y.toInt (extent c.y c.range.yMax) ++
    columnsFrom c.range.zoom (c.x.toInt + 1) (c.range.xMax.toInt - c.x.toInt).toNat
      c.range.yMin.toInt (extent c.range.yMin c.range.yMax)

/-- The place is one of the range's rows, if it has any. -/
structure Within (c : Cursor) : Prop where
  ends : c.range.EndsBelow
  row : c.range.yMin.toInt ≤ c.range.yMax.toInt →
    c.range.yMin.toInt ≤ c.y.toInt ∧ c.y.toInt ≤ c.range.yMax.toInt

end Cursor

theorem finished_iff (c : Cursor) : c.finished = true ↔
    c.range.yMax.toInt < c.range.yMin.toInt ∨ c.range.xMax.toInt < c.x.toInt := by
  unfold Cursor.finished
  rw [Bool.or_eq_true, decide_eq_true_eq, decide_eq_true_eq, Int64.lt_iff_toInt_lt,
    Int64.lt_iff_toInt_lt]

/-- With rows and columns left, there is the rest of a column and what is east of it. -/
theorem tiles_open {c : Cursor} (hrows : c.range.yMin.toInt ≤ c.range.yMax.toInt)
    (hcols : c.x.toInt ≤ c.range.xMax.toInt) :
    c.tiles = columnFrom c.range.zoom c.x.toInt c.y.toInt (extent c.y c.range.yMax) ++
      columnsFrom c.range.zoom (c.x.toInt + 1) (c.range.xMax.toInt - c.x.toInt).toNat
        c.range.yMin.toInt (extent c.range.yMin c.range.yMax) := by
  rw [Cursor.tiles, if_neg]
  intro hf
  rcases (finished_iff c).mp hf with h | h
  · omega
  · omega

theorem tiles_finished {c : Cursor} (h : c.finished = true) : c.tiles = [] := by
  rw [Cursor.tiles, if_pos h]

theorem cursor_start_within {r : Range} (h : r.EndsBelow) : (Cursor.start r).Within :=
  ⟨h, fun hrows => ⟨Int.le_refl _, hrows⟩⟩

/-- The walk over a range begins with all of its tiles ahead. -/
theorem cursor_start_tiles (r : Range) : (Cursor.start r).tiles = r.toList := by
  rw [toList_eq]
  -- a range without rows or without columns lists nothing, and the cursor is done at once
  by_cases hf : (Cursor.start r).finished = true
  · rw [tiles_finished hf]
    rcases (finished_iff _).mp hf with h | h
    · have hrows : extent r.yMin r.yMax = 0 := by
        unfold extent
        simp only [Cursor.start] at h
        omega
      simp [columnsFrom, columnFrom, hrows]
    · have hcols : extent r.xMin r.xMax = 0 := by
        unfold extent
        simp only [Cursor.start] at h
        omega
      simp [columnsFrom, hcols]
  · have hrows : r.yMin.toInt ≤ r.yMax.toInt :=
      Int.not_lt.mp fun hlt => hf ((finished_iff _).mpr (Or.inl hlt))
    have hcols : r.xMin.toInt ≤ r.xMax.toInt :=
      Int.not_lt.mp fun hlt => hf ((finished_iff _).mpr (Or.inr hlt))
    have hwidth : extent r.xMin r.xMax = (r.xMax.toInt - r.xMin.toInt).toNat + 1 := by
      unfold extent
      omega
    rw [tiles_open (c := Cursor.start r) hrows hcols, hwidth, columnsFrom_succ]
    rfl

theorem cursor_next_none {c : Cursor} (h : c.next? = none) : c.tiles = [] := by
  unfold Cursor.next? at h
  split at h
  · rename_i hf
    exact tiles_finished hf
  · exact absurd h (by simp)

/-- With a tile left to visit, the next column and the next row have an index. -/
theorem cursor_step_exact {c : Cursor} (hw : c.Within) (hf : ¬ c.finished = true) :
    (c.x + 1).toInt = c.x.toInt + 1 ∧ (c.y + 1).toInt = c.y.toInt + 1 := by
  have hrows : c.range.yMin.toInt ≤ c.range.yMax.toInt :=
    Int.not_lt.mp fun hlt => hf ((finished_iff c).mpr (Or.inl hlt))
  have hcols : c.x.toInt ≤ c.range.xMax.toInt :=
    Int.not_lt.mp fun hlt => hf ((finished_iff c).mpr (Or.inr hlt))
  have hrow := (hw.row hrows).2
  have hxend := Int64.lt_iff_toInt_lt.mp hw.ends.x
  have hyend := Int64.lt_iff_toInt_lt.mp hw.ends.y
  exact ⟨toInt_succ (by omega), toInt_succ (by omega)⟩

/-- **A step of the cursor visits the first of the tiles that are left.** -/
theorem cursor_next_some {c c' : Cursor} {t : TileId} (hw : c.Within)
    (h : c.next? = some (t, c')) : c.tiles = t :: c'.tiles ∧ c'.Within := by
  unfold Cursor.next? at h
  split at h
  · exact absurd h (by simp)
  rename_i hf
  have hrows : c.range.yMin.toInt ≤ c.range.yMax.toInt :=
    Int.not_lt.mp fun hlt => hf ((finished_iff c).mpr (Or.inl hlt))
  have hcols : c.x.toInt ≤ c.range.xMax.toInt :=
    Int.not_lt.mp fun hlt => hf ((finished_iff c).mpr (Or.inr hlt))
  obtain ⟨hlow, hhigh⟩ := hw.row hrows
  obtain ⟨hxsucc, hysucc⟩ := cursor_step_exact hw hf
  obtain ⟨rfl, hc'⟩ := Prod.mk.inj (Option.some.inj h)
  have hrest : extent c.y c.range.yMax = (c.range.yMax.toInt - c.y.toInt).toNat + 1 := by
    unfold extent
    omega
  rw [tiles_open hrows hcols, hrest, columnFrom_succ, Int64.ofInt_toInt, Int64.ofInt_toInt,
    List.cons_append]
  by_cases hturn : c.range.yMax < c.y + 1
  · -- the column is done: the cursor moves to the top of the next one
    rw [if_pos hturn] at hc'
    subst hc'
    have hlast : c.range.yMax.toInt - c.y.toInt = 0 := by
      have := Int64.lt_iff_toInt_lt.mp hturn
      omega
    refine ⟨congrArg _ ?_, ⟨hw.ends, fun _ => ⟨Int.le_refl _, hrows⟩⟩⟩
    rw [hlast]
    by_cases hend : c.range.xMax.toInt < c.x.toInt + 1
    · -- it was the last one
      have hzero : c.range.xMax.toInt - c.x.toInt = 0 := by omega
      rw [hzero, tiles_finished]
      · rfl
      · exact (finished_iff _).mpr (Or.inr (hxsucc ▸ hend))
    · have hcols' : (c.x + 1).toInt ≤ c.range.xMax.toInt := by omega
      have hwidth : (c.range.xMax.toInt - c.x.toInt).toNat
          = (c.range.xMax.toInt - (c.x + 1).toInt).toNat + 1 := by omega
      rw [tiles_open (c := { c with x := c.x + 1, y := c.range.yMin }) hrows hcols', hwidth,
        columnsFrom_succ, ← hxsucc]
      rfl
  · rw [if_neg hturn] at hc'
    subst hc'
    have hmore : (c.y + 1).toInt ≤ c.range.yMax.toInt :=
      Int.not_lt.mp fun hlt => hturn (Int64.lt_iff_toInt_lt.mpr hlt)
    refine ⟨congrArg _ ?_, ⟨hw.ends, fun _ => ⟨?_, hmore⟩⟩⟩
    · have hlen : extent (c.y + 1) c.range.yMax = (c.range.yMax.toInt - c.y.toInt).toNat := by
        unfold extent
        omega
      rw [tiles_open (c := { c with y := c.y + 1 }) hrows hcols]
      dsimp only
      rw [hlen, hysucc]
    · show c.range.yMin.toInt ≤ (c.y + 1).toInt
      omega

/-! ## Several ranges -/

namespace Walk

/-- What is left to visit. -/
def tiles (w : Walk) : List TileId :=
  (w.current.map Cursor.tiles).getD [] ++ w.rest.flatMap Range.toList

/-- No index of the walk wraps around. -/
structure Within (w : Walk) : Prop where
  current : ∀ c, w.current = some c → c.Within
  rest : ∀ r ∈ w.rest, r.EndsBelow

end Walk

theorem walk_start_within {rs : List Range} (h : ∀ r ∈ rs, r.EndsBelow) :
    (Walk.start rs).Within := ⟨by simp [Walk.start], h⟩

theorem walk_start_tiles (rs : List Range) : (Walk.start rs).tiles = rs.flatMap Range.toList := rfl

theorem enter_none {rs : List Range} (h : Walk.enter rs = none) : rs.flatMap Range.toList = [] := by
  induction rs with
  | nil => rfl
  | cons r rs ih =>
      rw [Walk.enter] at h
      split at h
      · exact absurd h (by simp)
      · rename_i hnone
        rw [List.flatMap_cons, ← cursor_start_tiles, cursor_next_none hnone, ih h]
        rfl

theorem enter_some {rs : List Range} {t : TileId} {w : Walk} (hrs : ∀ r ∈ rs, r.EndsBelow)
    (h : Walk.enter rs = some (t, w)) : rs.flatMap Range.toList = t :: w.tiles ∧ w.Within := by
  induction rs with
  | nil => exact absurd h (by simp [Walk.enter])
  | cons r rs ih =>
      have hr : r.EndsBelow := hrs r (by simp)
      have hrest : ∀ r ∈ rs, r.EndsBelow := fun r hr => hrs r (by simp [hr])
      rw [Walk.enter] at h
      rw [List.flatMap_cons, ← cursor_start_tiles]
      split at h
      · rename_i t' c hsome
        obtain ⟨rfl, rfl⟩ := Prod.mk.inj (Option.some.inj h)
        obtain ⟨htiles, hc⟩ := cursor_next_some (cursor_start_within hr) hsome
        refine ⟨by rw [htiles]; rfl, fun c' hc' => ?_, hrest⟩
        exact Option.some.inj hc' ▸ hc
      · rename_i hnone
        obtain ⟨htiles, hw⟩ := ih hrest h
        exact ⟨by rw [cursor_next_none hnone, htiles]; rfl, hw⟩

theorem walk_next_none {w : Walk} (h : w.next? = none) : w.tiles = [] := by
  unfold Walk.next? at h
  unfold Walk.tiles
  split at h
  · rename_i c hcur
    split at h
    · exact absurd h (by simp)
    · rename_i hnone
      rw [hcur, enter_none h]
      show c.tiles ++ [] = []
      rw [cursor_next_none hnone]
      rfl
  · rename_i hcur
    rw [hcur, enter_none h]
    rfl

/-- **A step of the walk visits the first of the tiles that are left.** -/
theorem walk_next_some {w w' : Walk} {t : TileId} (hw : w.Within)
    (h : w.next? = some (t, w')) : w.tiles = t :: w'.tiles ∧ w'.Within := by
  unfold Walk.next? at h
  unfold Walk.tiles
  split at h
  · rename_i c hcur
    rw [hcur]
    split at h
    · rename_i t' c' hsome
      obtain ⟨rfl, rfl⟩ := Prod.mk.inj (Option.some.inj h)
      obtain ⟨htiles, hc'⟩ := cursor_next_some (hw.current c hcur) hsome
      refine ⟨?_, fun c₂ hc₂ => Option.some.inj hc₂ ▸ hc', hw.rest⟩
      show c.tiles ++ _ = _
      rw [htiles]
      rfl
    · rename_i hnone
      obtain ⟨htiles, hw'⟩ := enter_some hw.rest h
      refine ⟨?_, hw'⟩
      show c.tiles ++ _ = _
      rw [cursor_next_none hnone, htiles]
      rfl
  · rename_i hcur
    rw [hcur]
    exact enter_some hw.rest h

end TileDepot.Grid
