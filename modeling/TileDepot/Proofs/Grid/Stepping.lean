import TileDepot.Proofs.Grid.Coverage

/-!
# Stepping through a range

A cursor may be called as often as one likes. Its calls give the tiles of the range in the order of
the list, and then nothing any more (`answers_tiles`); between any two of them the hint is the
number of tiles to come (`remaining_tiles`). Both come from one step (`call_tiles`) by induction on
the number of calls, with the tiles that are left as the invariant.

The list is the one that has the tiles of the rectangle and no others, columns eastward and rows
southward (`mem_toList`, `toList_ordered`).
-/

namespace TileDepot.Grid

/-! ## Calling a cursor -/

namespace Cursor

/-- What one call gives, and the place after it. A cursor that is done stays where it is. -/
def call (c : Cursor) : Option TileId × Cursor :=
  match c.next? with
  | some (t, next) => (some t, next)
  | none => (none, c)

/-- What `n` calls give. -/
def answers : Nat → Cursor → List (Option TileId)
  | 0, _ => []
  | n + 1, c => c.call.1 :: answers n c.call.2

/-- The place after `n` calls. -/
def after : Nat → Cursor → Cursor
  | 0, c => c
  | n + 1, c => after n c.call.2

end Cursor

/-- **One call takes the first of the tiles that are left.** -/
theorem call_tiles {c : Cursor} (hw : c.Within) :
    c.call.1 = c.tiles.head? ∧ c.call.2.tiles = c.tiles.tail ∧ c.call.2.Within := by
  unfold Cursor.call
  cases hnext : c.next? with
  | none =>
      have hnone := cursor_next_none hnext
      refine ⟨?_, ?_, hw⟩
      · rw [hnone]
        rfl
      · show c.tiles = c.tiles.tail
        rw [hnone]
        rfl
  | some p =>
      obtain ⟨t, next⟩ := p
      obtain ⟨htiles, hnextw⟩ := cursor_next_some hw hnext
      rw [htiles]
      exact ⟨rfl, rfl, hnextw⟩

theorem after_tiles (n : Nat) : ∀ {c : Cursor}, c.Within →
    (c.after n).tiles = c.tiles.drop n ∧ (c.after n).Within := by
  induction n with
  | zero => exact fun hw => ⟨rfl, hw⟩
  | succ n ih =>
      intro c hw
      obtain ⟨_, htail, hcall⟩ := call_tiles hw
      obtain ⟨hdrop, hafter⟩ := ih hcall
      refine ⟨?_, hafter⟩
      show (c.call.2.after n).tiles = c.tiles.drop (n + 1)
      rw [hdrop, htail, List.drop_tail]

/-- **Calls give the tiles that are left, and then nothing.** -/
theorem answers_tiles (n : Nat) : ∀ {c : Cursor}, c.Within →
    c.answers n = (c.tiles.take n).map some ++ List.replicate (n - c.tiles.length) none := by
  induction n with
  | zero => simp [Cursor.answers]
  | succ n ih =>
      intro c hw
      obtain ⟨hhead, htail, hcall⟩ := call_tiles hw
      have hrest := ih hcall
      rw [htail] at hrest
      rw [Cursor.answers, hhead, hrest]
      cases c.tiles with
      | nil => simp [List.replicate_succ]
      | cons t ts => simp

/-! ## What is left to come -/

/-- **What a cursor says is left is the number of tiles that are, cut at the largest word.** -/
theorem remaining_tiles (c : Cursor) :
    c.remaining.toNat = min c.tiles.length (UInt64.size - 1) := by
  unfold Cursor.remaining
  by_cases hf : c.finished = true
  · rw [if_pos hf, tiles_finished hf]
    rfl
  have hrows : c.range.yMin.toInt ≤ c.range.yMax.toInt :=
    Int.not_lt.mp fun hlt => hf ((finished_iff c).mpr (Or.inl hlt))
  have hcols : c.x.toInt ≤ c.range.xMax.toInt :=
    Int.not_lt.mp fun hlt => hf ((finished_iff c).mpr (Or.inr hlt))
  -- no column is left behind the last one, so the distance is how many are to come
  have hwidth : (c.range.xMax.toInt - c.x.toInt).natAbs
      = (c.range.xMax.toInt - c.x.toInt).toNat := by omega
  have hlength : c.tiles.length = (c.range.xMax.toInt - c.x.toInt).toNat
      * extent c.range.yMin c.range.yMax + extent c.y c.range.yMax := by
    rw [tiles_open hrows hcols, List.length_append, length_columnsFrom, Nat.add_comm]
    simp [columnFrom]
  rw [if_neg hf, hlength]
  dsimp only
  rw [hwidth, saturate_toNat, saturate_toNat, saturate_toNat, saturate_toNat,
    min_mul_min]
  omega

/-! ## The whole walk -/

/--
**Stepping through a range is exact**, where both of its ends can be stepped past.

There is one list of its tiles: all of the rectangle, each once, columns eastward and rows southward.
Calls of the cursor give this list and then nothing for ever. The count is the length of the list
and, after any number of calls, both bounds of the hint are the length of what is left of it, each
cut at the largest word; the count is zero if and only if no call gives a tile.
-/
theorem range_stepped_exactly {r : Range} (h : r.EndsBelow) :
    ∃ tiles : List TileId,
      (∀ t, t ∈ tiles ↔ r.Contains t) ∧ tiles.Nodup ∧ tiles.Pairwise TileId.Before ∧
      (∀ n, (Cursor.start r).answers n
        = (tiles.take n).map some ++ List.replicate (n - tiles.length) none) ∧
      tiles.length
        = (r.xMax.toInt - r.xMin.toInt + 1).toNat * (r.yMax.toInt - r.yMin.toInt + 1).toNat ∧
      r.count.toNat = min tiles.length (2 ^ 64 - 1) ∧
      (r.count = 0 ↔ ∀ n, (Cursor.start r).answers n = List.replicate n none) ∧
      ∀ n, ∃ left : UInt64, ((Cursor.start r).after n).sizeHint = (left, some left) ∧
        left.toNat = min (tiles.length - n) (2 ^ 64 - 1) := by
  have hanswers : ∀ n, (Cursor.start r).answers n
      = (r.toList.take n).map some ++ List.replicate (n - r.toList.length) none := by
    intro n
    rw [answers_tiles n (cursor_start_within h), cursor_start_tiles]
  have hzero : r.count = 0 ↔ r.toList = [] := by
    rw [← UInt64.toNat_inj, count_saturates, ← List.length_eq_zero_iff]
    show min r.toList.length (UInt64.size - 1) = 0 ↔ _
    simp only [UInt64.size]
    omega
  refine ⟨r.toList, fun t => mem_toList, nodup_toList r, toList_ordered r, hanswers, ?_,
    count_saturates r, ?_, fun n => ⟨_, rfl, ?_⟩⟩
  · rw [toList_eq, length_columnsFrom]
    rfl
  · rw [hzero]
    constructor
    · intro hnone n
      rw [hanswers, hnone]
      simp
    · intro hnothing
      -- the first call is enough to tell
      have hfirst := hnothing 1
      rw [hanswers] at hfirst
      cases htiles : r.toList with
      | nil => rfl
      | cons t ts =>
          rw [htiles] at hfirst
          exact absurd hfirst (by simp)
  · obtain ⟨hleft, _⟩ := after_tiles n (cursor_start_within h)
    rw [remaining_tiles, hleft, cursor_start_tiles, List.length_drop]
    rfl

/-- The whole of the plane that a cursor can step through. Its count and its hints are at the largest
word for a long time. -/
theorem plane_stepped_exactly :
    let plane : Range := ⟨0, Int64.minValue, Int64.maxValue - 1, Int64.minValue, Int64.maxValue - 1⟩
    plane.EndsBelow ∧ plane.count.toNat = 2 ^ 64 - 1 ∧
      ((Cursor.start plane).after (2 ^ 127)).sizeHint
        = (18446744073709551615, some 18446744073709551615) := by
  intro plane
  have hplane : plane.EndsBelow := ⟨by decide, by decide⟩
  obtain ⟨tiles, _, _, _, _, hlength, hcount, _, hhint⟩ := range_stepped_exactly hplane
  have hmany : tiles.length = (2 ^ 64 - 1) * (2 ^ 64 - 1) := by rw [hlength]; decide
  obtain ⟨left, hsize, hleft⟩ := hhint (2 ^ 127)
  refine ⟨hplane, ?_, ?_⟩
  · rw [hcount, hmany]
    decide
  · have hmax : left = 18446744073709551615 := by
      rw [← UInt64.toNat_inj, hleft, hmany]
      decide
    rw [hsize, hmax]

end TileDepot.Grid
