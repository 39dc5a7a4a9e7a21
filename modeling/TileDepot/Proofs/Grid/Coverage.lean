import Mathlib.Algebra.Group.Int.Defs
import Mathlib.Algebra.Group.Nat.Defs
import TileDepot.Proofs.Grid.Totals

/-!
# What the range of a box covers

A range lists the tiles of its rectangle (`mem_toList`) in order (`toList_ordered`) and so each once
(`nodup_toList`), and a walk over several ranges comes to their lists' end tile by tile
(`walk_take`). The range that covers a box lies on the grid, whatever the box: columns and rows are
clamped, and nothing is said of the numbers that they are clamped from (`covering_onGrid`). As the
grid of a level has at most `2^22` columns and as many rows, no count of its tiles comes near the end
of a word (`tileCount_covering`).
-/

namespace TileDepot.Grid

/-- The tile lies in the rectangle. -/
structure Range.Contains (r : Range) (t : TileId) : Prop where
  zoom : t.zoom = r.zoom
  west : r.xMin ≤ t.x
  east : t.x ≤ r.xMax
  north : r.yMin ≤ t.y
  south : t.y ≤ r.yMax

/-- Columns come eastward, and the tiles of one column southward. -/
def TileId.Before (t t' : TileId) : Prop :=
  t.x < t'.x ∨ t.x = t'.x ∧ t.y < t'.y

/-- The tile is one of the `2^zoom` by `2^zoom` tiles of its level. -/
structure TileId.OnGrid (t : TileId) : Prop where
  west : 0 ≤ t.x.toInt
  east : t.x.toInt < 2 ^ t.zoom.toNat
  north : 0 ≤ t.y.toInt
  south : t.y.toInt < 2 ^ t.zoom.toNat

/-! ## The tiles of a rectangle -/

/-- Counting on from one end does not wrap around before the other. -/
theorem toInt_within {lo hi : Int64} {i : Nat} (h : i < extent lo hi) :
    (Int64.ofInt (lo.toInt + i)).toInt = lo.toInt + i := by
  unfold extent at h
  have hlow := lo.le_toInt
  have hhigh := hi.toInt_lt
  exact Int64.toInt_ofInt_of_le (by omega) (by omega)

theorem mem_toList {r : Range} {t : TileId} : t ∈ r.toList ↔ r.Contains t := by
  unfold Range.toList
  simp only [List.mem_flatMap, List.mem_map, List.mem_range]
  constructor
  · rintro ⟨i, hi, j, hj, rfl⟩
    have hx := toInt_within hi
    have hy := toInt_within hj
    unfold extent at hi hj
    refine ⟨rfl, ?_, ?_, ?_, ?_⟩
    all_goals
      rw [Int64.le_iff_toInt_le]
      dsimp only
      omega
  · intro h
    have hwest := Int64.le_iff_toInt_le.mp h.west
    have heast := Int64.le_iff_toInt_le.mp h.east
    have hnorth := Int64.le_iff_toInt_le.mp h.north
    have hsouth := Int64.le_iff_toInt_le.mp h.south
    refine ⟨(t.x.toInt - r.xMin.toInt).toNat, ?_, (t.y.toInt - r.yMin.toInt).toNat, ?_, ?_⟩
    · unfold extent
      omega
    · unfold extent
      omega
    · rw [Int.toNat_of_nonneg (by omega), Int.toNat_of_nonneg (by omega), ← h.zoom,
        Int.add_comm, Int.sub_add_cancel, Int.add_comm, Int.sub_add_cancel, Int64.ofInt_toInt,
        Int64.ofInt_toInt]

/-- **A range lists its columns eastward, each from north to south.** -/
theorem toList_ordered (r : Range) : r.toList.Pairwise TileId.Before := by
  unfold Range.toList
  rw [List.pairwise_flatMap]
  constructor
  · -- within a column the row grows
    intro i _
    rw [List.pairwise_map]
    refine List.pairwise_lt_range.imp_of_mem fun {j j'} hj hj' hlt => Or.inr ⟨rfl, ?_⟩
    rw [Int64.lt_iff_toInt_lt]
    dsimp only
    rw [toInt_within (List.mem_range.mp hj), toInt_within (List.mem_range.mp hj')]
    omega
  · refine List.pairwise_lt_range.imp_of_mem fun {i i'} hi hi' hlt t ht t' ht' => Or.inl ?_
    obtain ⟨_, _, rfl⟩ := List.mem_map.mp ht
    obtain ⟨_, _, rfl⟩ := List.mem_map.mp ht'
    rw [Int64.lt_iff_toInt_lt]
    dsimp only
    rw [toInt_within (List.mem_range.mp hi), toInt_within (List.mem_range.mp hi')]
    omega

/-- **A range lists no tile twice.** -/
theorem nodup_toList (r : Range) : r.toList.Nodup := by
  refine (toList_ordered r).imp ?_
  rintro t t' (hcolumn | ⟨_, hrow⟩) rfl
  · exact Int64.lt_irrefl hcolumn
  · exact Int64.lt_irrefl hrow

/-- Ranges of different levels have no tile in common. -/
theorem nodup_ranges {rs : List Range} (h : rs.Pairwise fun r r' => r.zoom ≠ r'.zoom) :
    (rs.flatMap Range.toList).Nodup := by
  rw [List.Nodup, List.pairwise_flatMap]
  refine ⟨fun r _ => nodup_toList r, h.imp fun {r r'} hne t ht t' ht' heq => hne ?_⟩
  rw [← (mem_toList.mp ht).zoom, ← (mem_toList.mp ht').zoom, heq]

/-- **A walk gives the tiles of its ranges one after the other, and then it ends.** -/
theorem walk_take {w : Walk} (h : w.Within) (n : Nat) : w.take n = w.tiles.take n := by
  induction n generalizing w with
  | zero => rfl
  | succ n ih =>
      unfold Walk.take
      split
      · rename_i t w' hnext
        obtain ⟨htiles, hw'⟩ := walk_next_some h hnext
        rw [htiles, List.take_succ_cons, ih hw']
      · rename_i hnone
        rw [walk_next_none hnone, List.take_nil]

/-! ## The range of a box -/

/-- The last index of a level is one below the width of its grid, as far as a word holds the width. -/
theorem lastIndex_saturated (zoom : UInt32) :
    (lastIndex zoom).toInt = min (2 ^ zoom.toNat) (2 ^ 63 - 1) - 1 := by
  have hpos : 0 < 2 ^ zoom.toNat := Nat.two_pow_pos _
  have hcast : ((2 ^ zoom.toNat : Nat) : Int) = 2 ^ zoom.toNat := by simp
  unfold lastIndex
  split
  · rename_i hnarrow
    have hpow : 2 ^ zoom.toNat ≤ 2 ^ 62 := Nat.pow_le_pow_right (by decide) (by omega)
    rw [Nat.one_shiftLeft, Int64.toInt_ofNat_of_lt (by omega), Int.ofNat_sub hpos]
    omega
  · rename_i hwide
    have hpow : 2 ^ 63 ≤ 2 ^ zoom.toNat := Nat.pow_le_pow_right (by decide) (by omega)
    have hlast : (Int64.maxValue - 1).toInt = 2 ^ 63 - 2 := by decide
    rw [hlast]
    omega

/-- The last index of a level that a request may name. -/
theorem lastIndex_toInt {zoom : UInt32} (h : zoom ≤ maxZoom) :
    (lastIndex zoom).toInt = 2 ^ zoom.toNat - 1 := by
  have hzoom : zoom.toNat ≤ 22 := UInt32.le_iff_toNat_le.mp h
  have hpow : (2 : Int) ^ zoom.toNat ≤ 2 ^ 22 := by
    exact_mod_cast Nat.pow_le_pow_right (by decide) hzoom
  rw [lastIndex_saturated]
  omega

/-- What is clamped lies on the grid. -/
theorem clampIndex_onGrid {zoom : UInt32} (h : zoom ≤ maxZoom) (i : Int64) :
    0 ≤ (clampIndex (lastIndex zoom) i).toInt ∧
      (clampIndex (lastIndex zoom) i).toInt < 2 ^ zoom.toNat := by
  have hlast := lastIndex_toInt h
  have hpos : (0 : Int) < 2 ^ zoom.toNat := by exact_mod_cast Nat.two_pow_pos zoom.toNat
  have hzero : (0 : Int64).toInt = 0 := by decide
  have hmem := @clampIndex_mem (lastIndex zoom) i (Int64.le_iff_toInt_le.mpr (by omega))
  have hlow := Int64.le_iff_toInt_le.mp hmem.1
  have hhigh := Int64.le_iff_toInt_le.mp hmem.2
  omega

/-- A walk over the tiles that cover a box can step past each end. -/
theorem covering_endsBelow {b : Bounds} {zoom : UInt32} (h : zoom ≤ maxZoom) :
    (Range.covering b zoom).EndsBelow := by
  have hzoom : zoom.toNat ≤ 22 := UInt32.le_iff_toNat_le.mp h
  have hpow : (2 : Int) ^ zoom.toNat ≤ 2 ^ 22 := by
    exact_mod_cast Nat.pow_le_pow_right (by decide) hzoom
  have hlarge : (2 : Int) ^ 22 < Int64.maxValue.toInt := by decide
  have hbelow : ∀ i, clampIndex (lastIndex zoom) i < Int64.maxValue := by
    intro i
    have hindex := (clampIndex_onGrid h i).2
    rw [Int64.lt_iff_toInt_lt]
    omega
  exact ⟨hbelow _, hbelow _⟩

/-- **The tiles that cover a box are on the grid**, whatever the box. -/
theorem covering_onGrid {b : Bounds} {zoom : UInt32} (h : zoom ≤ maxZoom) {t : TileId}
    (ht : (Range.covering b zoom).Contains t) : t.OnGrid := by
  have hwest := Int64.le_iff_toInt_le.mp ht.west
  have heast := Int64.le_iff_toInt_le.mp ht.east
  have hnorth := Int64.le_iff_toInt_le.mp ht.north
  have hsouth := Int64.le_iff_toInt_le.mp ht.south
  have hzoom : t.zoom = zoom := ht.zoom
  refine ⟨?_, ?_, ?_, ?_⟩
  · exact Int.le_trans (clampIndex_onGrid h _).1 hwest
  · exact hzoom ▸ Int.lt_of_le_of_lt heast (clampIndex_onGrid h _).2
  · exact Int.le_trans (clampIndex_onGrid h _).1 hnorth
  · exact hzoom ▸ Int.lt_of_le_of_lt hsouth (clampIndex_onGrid h _).2

/-- At level zero there is one tile for all boxes. -/
theorem covering_zero (b : Bounds) : Range.covering b 0 = ⟨0, 0, 0, 0, 0⟩ := by
  have hindex : ∀ i, clampIndex (lastIndex 0) i = 0 := by
    intro i
    have hgrid := @clampIndex_onGrid 0 (by decide) i
    rw [show (0 : UInt32).toNat = 0 from rfl] at hgrid
    exact Int64.toInt_inj.mp (by rw [show (0 : Int64).toInt = 0 from rfl]; omega)
  unfold Range.covering column row
  dsimp only
  rw [hindex, hindex, hindex, hindex]

/-! ## How many tiles -/

theorem extent_clampIndex {zoom : UInt32} (h : zoom ≤ maxZoom) (i j : Int64) :
    extent (clampIndex (lastIndex zoom) i) (clampIndex (lastIndex zoom) j) ≤ 2 ^ 22 := by
  have hzoom : zoom.toNat ≤ 22 := UInt32.le_iff_toNat_le.mp h
  have hpow : 2 ^ zoom.toNat ≤ 2 ^ 22 := Nat.pow_le_pow_right (by decide) hzoom
  have hcast : ((2 ^ zoom.toNat : Nat) : Int) = 2 ^ zoom.toNat := by simp
  have hi := clampIndex_onGrid h i
  have hj := clampIndex_onGrid h j
  unfold extent
  omega

/-- Levels that a request may name have no more tiles than this. -/
theorem tileCount_covering (b : Bounds) {zooms : List UInt32} (h : ∀ z ∈ zooms, z ≤ maxZoom) :
    tileCount (zooms.map (Range.covering b)) ≤ zooms.length * 2 ^ 44 := by
  induction zooms with
  | nil => exact Nat.le_refl 0
  | cons z zs ih =>
      have hz := h z List.mem_cons_self
      have hrest := ih fun z hz => h z (List.mem_cons_of_mem _ hz)
      have hx : extent (column z b.minLng) (column z b.maxLng) ≤ 2 ^ 22 := extent_clampIndex hz _ _
      have hy : extent (row z b.maxLat) (row z b.minLat) ≤ 2 ^ 22 := extent_clampIndex hz _ _
      have htiles := Nat.mul_le_mul hx hy
      show extent (column z b.minLng) (column z b.maxLng)
          * extent (row z b.maxLat) (row z b.minLat) + tileCount (zs.map (Range.covering b)) ≤ _
      rw [List.length_cons, Nat.succ_mul]
      omega

theorem tileCount_append (rs rs' : List Range) :
    tileCount (rs ++ rs') = tileCount rs + tileCount rs' := by
  rw [← length_tiles, ← length_tiles, ← length_tiles, List.flatMap_append, List.length_append]

/-! ## Zoom levels -/

/-- The levels are those from the smaller to the larger of two. -/
theorem mem_zoomLevels {a b z : UInt32} : z ∈ zoomLevels a b ↔
    min a.toNat b.toNat ≤ z.toNat ∧ z.toNat ≤ max a.toNat b.toNat := by
  unfold zoomLevels
  rw [List.mem_map]
  constructor
  · rintro ⟨n, hn, rfl⟩
    rw [List.mem_range'_1] at hn
    have ha := a.toNat_lt
    have hb := b.toNat_lt
    rw [UInt32.toNat_ofNat_of_lt' (show n < UInt32.size by simp only [UInt32.size]; omega)]
    omega
  · intro h
    exact ⟨z.toNat, List.mem_range'_1.mpr (by omega), UInt32.ofNat_toNat⟩

/-- They ascend. -/
theorem pairwise_zoomLevels (a b : UInt32) : (zoomLevels a b).Pairwise (· < ·) := by
  unfold zoomLevels
  rw [List.pairwise_map]
  refine (List.pairwise_lt_range' 1).imp_of_mem fun {n n'} hn hn' hlt => ?_
  rw [List.mem_range'_1] at hn hn'
  have ha := a.toNat_lt
  have hb := b.toNat_lt
  rw [UInt32.lt_iff_toNat_lt,
    UInt32.toNat_ofNat_of_lt' (show n < UInt32.size by simp only [UInt32.size]; omega),
    UInt32.toNat_ofNat_of_lt' (show n' < UInt32.size by simp only [UInt32.size]; omega)]
  exact hlt

end TileDepot.Grid
