import Mathlib.Algebra.GroupWithZero.Nat
import Mathlib.Algebra.Order.BigOperators.Group.List
import Mathlib.Algebra.Order.Group.Nat
import TileDepot.Proofs.Grid.Walk

/-!
# How many tiles ranges have

The count of one range is the number of its tiles, cut at the largest word (`count_saturates`). The
total of several ranges adds such counts up in words, and this sum is not cut: there is a total only
if a word holds the sum (`totalCount_eq_some_iff`). To cut each count loses nothing against cutting
the number of all the tiles once (`min_countSum`), so a total that is there is what it should be. It
is missing where there are too many tiles for a word, unless they are all in one range
(`counted_total`).
-/

namespace TileDepot.Grid

theorem length_toList (r : Range) :
    r.toList.length = extent r.xMin r.xMax * extent r.yMin r.yMax := by
  rw [toList_eq, length_columnsFrom]

theorem length_tiles (rs : List Range) : (rs.flatMap Range.toList).length = tileCount rs := by
  induction rs with
  | nil => rfl
  | cons r rs ih =>
      rw [List.flatMap_cons, List.length_append, ih, length_toList]
      rfl

/-! ## One range -/

theorem saturate_toNat (n : Nat) : (saturate n).toNat = min n (UInt64.size - 1) := by
  unfold saturate
  have h : min n (UInt64.size - 1) < UInt64.size :=
    Nat.lt_of_le_of_lt (Nat.min_le_right _ _) (by decide)
  exact UInt64.toNat_ofNat_of_lt' h

/-- A product of words that is cut at the largest word is cut only once. -/
theorem min_mul_min (a b m : Nat) : min (a * min b m) m = min (a * b) m := by
  rcases Nat.eq_zero_or_pos a with ha | ha
  · simp [ha]
  by_cases hb : b ≤ m
  · rw [Nat.min_eq_left hb]
  · have hlarge : m ≤ a * m := Nat.le_mul_of_pos_left m ha
    have hmore : a * m ≤ a * b := Nat.mul_le_mul_left a (by omega)
    rw [Nat.min_eq_right (by omega : m ≤ b)]
    omega

/-- **The count of a range is the true one, cut at the largest word.** -/
theorem count_saturates (r : Range) :
    r.count.toNat = min r.toList.length (UInt64.size - 1) := by
  rw [length_toList, Range.count, saturate_toNat, saturate_toNat, saturate_toNat,
    min_mul_min, Nat.mul_comm, min_mul_min, Nat.mul_comm]

/-! ## Several ranges -/

/-- The counts of several ranges together, each of them cut at the largest word. -/
def countSum (rs : List Range) : Nat :=
  (rs.map fun r => min r.toList.length (UInt64.size - 1)).sum

theorem countSum_cons (r : Range) (rs : List Range) :
    countSum (r :: rs) = min r.toList.length (UInt64.size - 1) + countSum rs := by
  rw [countSum, List.map_cons, List.sum_cons, countSum]

theorem addWords_eq_some_iff {a b n : UInt64} :
    addWords? a b = some n ↔ n.toNat = a.toNat + b.toNat := by
  have hword := n.toNat_lt
  have hadd := UInt64.toNat_add a b
  unfold addWords?
  split
  · rename_i hfits
    rw [Nat.mod_eq_of_lt hfits] at hadd
    rw [Option.some.injEq, ← UInt64.toNat_inj, hadd]
    exact eq_comm
  · rename_i hlarge
    exact iff_of_false (by simp) fun hn => hlarge (hn ▸ hword)

/-- The counts are added to any number. -/
theorem foldlM_count (rs : List Range) : ∀ n total : UInt64,
    rs.foldlM (fun n r => addWords? n r.count) n = some total ↔
      total.toNat = n.toNat + countSum rs := by
  induction rs with
  | nil =>
      intro n total
      exact Option.some_inj.trans (UInt64.toNat_inj.symm.trans eq_comm)
  | cons r rs ih =>
      intro n total
      have hword := total.toNat_lt
      rw [List.foldlM_cons, countSum_cons, ← count_saturates]
      constructor
      · intro h
        obtain ⟨m, hm, hrest⟩ := Option.bind_eq_some_iff.mp h
        rw [(ih m total).mp hrest, addWords_eq_some_iff.mp hm, Nat.add_assoc]
      · -- what is added on the way is no more than the total, so a word holds it
        intro h
        have hfits : n.toNat + r.count.toNat < UInt64.size := by
          show n.toNat + r.count.toNat < 2 ^ 64
          omega
        have hm : (UInt64.ofNat (n.toNat + r.count.toNat)).toNat = n.toNat + r.count.toNat :=
          UInt64.toNat_ofNat_of_lt' hfits
        refine Option.bind_eq_some_iff.mpr ⟨_, addWords_eq_some_iff.mpr hm, (ih _ total).mpr ?_⟩
        rw [hm, h, Nat.add_assoc]

/-- **There is a total if a word holds the sum of the counts**, and then it is the sum. -/
theorem totalCount_eq_some_iff {rs : List Range} {total : UInt64} :
    totalCount? rs = some total ↔ total.toNat = countSum rs := by
  rw [totalCount?, foldlM_count, UInt64.toNat_zero, Nat.zero_add]

theorem totalCount_eq_none_iff {rs : List Range} :
    totalCount? rs = none ↔ UInt64.size ≤ countSum rs := by
  constructor
  · intro hnone
    by_contra hfits
    have htotal := totalCount_eq_some_iff.mpr (UInt64.toNat_ofNat_of_lt' (Nat.not_le.mp hfits))
    exact absurd (hnone.symm.trans htotal) (by simp)
  · intro hlarge
    cases htotal : totalCount? rs with
    | none => rfl
    | some total =>
        have hsum := totalCount_eq_some_iff.mp htotal
        exact absurd (hsum ▸ hlarge) (Nat.not_le.mpr total.toNat_lt)

/-- **Cutting every count and then the sum is cutting the number of all the tiles once.** -/
theorem min_countSum (rs : List Range) :
    min (countSum rs) (UInt64.size - 1)
      = min (rs.flatMap Range.toList).length (UInt64.size - 1) := by
  induction rs with
  | nil => rfl
  | cons r rs ih =>
      -- a count that is cut is the largest word by itself, and then both sides are
      rw [countSum_cons, List.flatMap_cons, List.length_append]
      omega

/-- What is cut is never more than there is. -/
theorem countSum_le (rs : List Range) : countSum rs ≤ (rs.flatMap Range.toList).length := by
  induction rs with
  | nil => exact Nat.le_refl 0
  | cons r rs ih =>
      rw [countSum_cons, List.flatMap_cons, List.length_append]
      omega

/-- The sum is no smaller than any of its counts. -/
theorem le_countSum {r : Range} {rs : List Range} (h : r ∈ rs) :
    min r.toList.length (UInt64.size - 1) ≤ countSum rs :=
  List.le_sum_of_mem (List.mem_map_of_mem h)

/-- Nothing is cut if the number of all the tiles fits into a word. -/
theorem countSum_eq {rs : List Range} (h : (rs.flatMap Range.toList).length < UInt64.size) :
    countSum rs = (rs.flatMap Range.toList).length := by
  have hcut := min_countSum rs
  have hle := countSum_le rs
  omega

/-- **A total that fits into a word is there, and exact.** -/
theorem totalCount_eq {rs : List Range} (h : tileCount rs < UInt64.size) :
    ∃ total, totalCount? rs = some total ∧ total.toNat = tileCount rs := by
  have htotal : (UInt64.ofNat (tileCount rs)).toNat = tileCount rs := UInt64.toNat_ofNat_of_lt' h
  rw [← length_tiles] at h
  refine ⟨_, totalCount_eq_some_iff.mpr ?_, htotal⟩
  rw [htotal, countSum_eq h, length_tiles]

/-! ## What a total says -/

/-- All tiles are those of one range. -/
def Alone (rs : List Range) : Prop :=
  ∃ before r after, rs = before ++ r :: after ∧ ∀ r' ∈ before ++ after, r'.toList = []

theorem countSum_eq_zero {rs : List Range} (h : countSum rs = 0) : ∀ r ∈ rs, r.toList = [] := by
  intro r hr
  have hle := le_countSum hr
  rw [h] at hle
  have hsize : 1 ≤ UInt64.size - 1 := by decide
  exact List.length_eq_zero_iff.mp (by omega)

theorem countSum_empty {rs : List Range} (h : ∀ r ∈ rs, r.toList = []) : countSum rs = 0 := by
  induction rs with
  | nil => rfl
  | cons r rs ih =>
      rw [countSum_cons, h r List.mem_cons_self, ih fun r' hr' => h r' (List.mem_cons_of_mem r hr')]
      rfl

theorem countSum_append (rs rs' : List Range) :
    countSum (rs ++ rs') = countSum rs + countSum rs' := by
  rw [countSum, List.map_append, List.sum_append, countSum, countSum]

/-- The counts fit into a word if all tiles are those of one range, as its count is cut. -/
theorem countSum_alone {rs : List Range} (h : Alone rs) : countSum rs < UInt64.size := by
  obtain ⟨before, r, after, rfl, hempty⟩ := h
  have hbefore := countSum_empty fun r' hr' => hempty r' (List.mem_append_left after hr')
  have hafter := countSum_empty fun r' hr' => hempty r' (List.mem_append_right before hr')
  have hsize : 0 < UInt64.size := by decide
  rw [countSum_append, countSum_cons, hbefore, hafter]
  omega

/-- If there are too many tiles for a word and the counts fit all the same, then one count has been
cut, and it leaves no room for another. -/
theorem alone_of_countSum {rs : List Range}
    (hlarge : UInt64.size ≤ (rs.flatMap Range.toList).length) (hfits : countSum rs < UInt64.size) :
    Alone rs := by
  induction rs with
  | nil => exact absurd hlarge (by decide)
  | cons r rs ih =>
      rw [List.flatMap_cons, List.length_append] at hlarge
      rw [countSum_cons] at hfits
      by_cases hcut : UInt64.size ≤ r.toList.length
      · have hothers : countSum rs = 0 := by omega
        exact ⟨[], r, rs, rfl, countSum_eq_zero hothers⟩
      · -- the range has no tiles, because the others leave no room for them
        have hrest : UInt64.size ≤ (rs.flatMap Range.toList).length := by
          by_contra hsmall
          rw [countSum_eq (Nat.not_le.mp hsmall)] at hfits
          omega
        have hothers := min_countSum rs
        have hnone : r.toList = [] := List.length_eq_zero_iff.mp (by omega)
        obtain ⟨before, r', after, rfl, hempty⟩ := ih hrest (by omega)
        refine ⟨r :: before, r', after, rfl, fun q hq => ?_⟩
        rcases List.mem_cons.mp hq with rfl | hq
        · exact hnone
        · exact hempty q hq

/-- What a total of several ranges says of how many tiles they have. -/
structure Counted (rs : List Range) (total : Option Nat) : Prop where
  /-- A number that fits into a word is given as it is. -/
  exact : (rs.flatMap Range.toList).length < 2 ^ 64 →
    total = some (rs.flatMap Range.toList).length
  /-- The number that is given is cut at the largest word. -/
  cut : ∀ n, total = some n → n = min (rs.flatMap Range.toList).length (2 ^ 64 - 1)
  /-- It is no smaller than any count. -/
  covers : ∀ n, total = some n → ∀ r ∈ rs, r.count.toNat ≤ n
  /-- None is given where there is more to add to a count than the largest word has room for. -/
  none_iff : total = none ↔ 2 ^ 64 ≤ (rs.flatMap Range.toList).length ∧ ¬ Alone rs

theorem counted_total (rs : List Range) : Counted rs ((totalCount? rs).map UInt64.toNat) := by
  have hsome : ∀ n, (totalCount? rs).map UInt64.toNat = some n →
      n = countSum rs ∧ countSum rs < UInt64.size := by
    intro n hn
    obtain ⟨total, htotal, rfl⟩ := Option.map_eq_some_iff.mp hn
    have hsum := totalCount_eq_some_iff.mp htotal
    exact ⟨hsum, hsum ▸ total.toNat_lt⟩
  refine ⟨fun hfits => ?_, fun n hn => ?_, fun n hn r hr => ?_, ?_⟩
  · obtain ⟨total, htotal, hcount⟩ := totalCount_eq (length_tiles rs ▸ hfits)
    rw [htotal, Option.map_some, hcount, length_tiles]
  · obtain ⟨rfl, hfits⟩ := hsome n hn
    have hcut := min_countSum rs
    simp only [UInt64.size] at hfits hcut
    omega
  · obtain ⟨rfl, -⟩ := hsome n hn
    rw [count_saturates]
    exact le_countSum hr
  · rw [Option.map_eq_none_iff, totalCount_eq_none_iff]
    constructor
    · intro hlarge
      exact ⟨Nat.le_trans hlarge (countSum_le rs),
        fun h => absurd (countSum_alone h) (Nat.not_lt.mpr hlarge)⟩
    · rintro ⟨hlarge, hnot⟩
      exact Nat.not_lt.mp fun hfits => hnot (alone_of_countSum hlarge hfits)

/-- The total for a box is that of the ranges that cover it. -/
theorem totalTiles_eq (b : Bounds) {zooms : List UInt32} (h : ∀ z ∈ zooms, hasGrid z) :
    totalTiles? b zooms = totalCount? (zooms.map (Range.covering b)) := by
  rw [totalTiles?, if_pos (List.all_eq_true.mpr h)]

end TileDepot.Grid
