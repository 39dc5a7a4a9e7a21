import Mathlib.Algebra.Order.AbsoluteValue.Basic
import Mathlib.Data.Nat.Cast.Order.Field
import TileDepot.Decimal.Shortest
import TileDepot.Proofs.Decimal.Scaling

/-!
# The shortest decimal is in reach

The search for the shortest decimal works on whole numbers that share a denominator. Here they are
read as fractions: its interval is the reach of the double (`holds_iff`). It finds something, as
seventeen digits are a grid finer than the reach of any double (`fine_enough`). So what it gives is
in the reach of the double that it was asked for (`shortest_near`).
-/

namespace TileDepot.Decimal

/-! ## The interval in fractions -/

theorem zpow_split {b : ℚ} (hb : b ≠ 0) (e : ℤ) : b ^ e = b ^ e.toNat / b ^ (-e).toNat := by
  rw [← zpow_natCast, ← zpow_natCast, ← zpow_sub₀ hb]
  congr 1
  omega

/-- The double below is only half a step away. -/
def narrow (m : ℕ) (q : ℤ) : Bool := decide (m = 2 ^ 52 ∧ -1074 < q)

section Interval

variable (m : ℕ) (q : ℤ)

theorem denominator_pos : (0 : ℚ) < (Interval.of m q (narrow m q)).denominator := by
  simp only [Interval.of, Nat.pow_eq]
  positivity

theorem value_of : ((Interval.of m q (narrow m q)).value : ℚ) /
    (Interval.of m q (narrow m q)).denominator = m * 2 ^ q := by
  rw [zpow_split two_ne_zero q]
  simp only [Interval.of, Nat.pow_eq]
  push_cast
  field_simp

theorem high_of : ((Interval.of m q (narrow m q)).high : ℚ) /
    (Interval.of m q (narrow m q)).denominator = (m + 1 / 2) * 2 ^ q := by
  rw [zpow_split two_ne_zero q]
  simp only [Interval.of, Nat.pow_eq]
  push_cast
  field_simp
  ring

theorem low_of {m : ℕ} (hm : 0 < m) : ((Interval.of m q (narrow m q)).low : ℚ) /
    (Interval.of m q (narrow m q)).denominator = (m - below m q) * 2 ^ q := by
  have hcast : ((4 * m - (if narrow m q then 1 else 2) : ℕ) : ℚ) = 4 * (m - below m q) := by
    by_cases h : m = 2 ^ 52 ∧ -1074 < q
    · have hn : narrow m q = true := decide_eq_true h
      rw [hn, below, if_pos h, if_pos rfl, Nat.cast_sub (by omega)]
      push_cast
      ring
    · have hn : narrow m q = false := decide_eq_false h
      rw [hn, below, if_neg h, if_neg (by decide), Nat.cast_sub (by omega)]
      push_cast
      ring
  rw [zpow_split two_ne_zero q]
  simp only [Interval.of, Nat.pow_eq]
  rw [Nat.cast_mul, hcast]
  push_cast
  field_simp

/-- **The interval is the reach.** -/
theorem holds_iff {m : ℕ} (hm : 0 < m) (digits : ℕ) (e : ℤ) :
    (Interval.of m q (narrow m q)).holds digits e = true ↔ Near (digits * 10 ^ e) m q := by
  have hlow := low_of q hm
  have hhigh := high_of m q
  have hden := denominator_pos m q
  have hscale : (0 : ℚ) < 10 ^ (-e).toNat := by positivity
  have hclosed : (Interval.of m q (narrow m q)).closed = (m % 2 == 0) := rfl
  rw [zpow_split (by norm_num) e]
  unfold Interval.holds
  rw [hclosed]
  generalize Interval.of m q (narrow m q) = i at hlow hhigh hden
  simp only [Nat.pow_eq]
  -- both comparisons, cleared of their denominators
  have hle : ∀ a b : ℚ, a / i.denominator ≤ b / 10 ^ (-e).toNat ↔
      a * 10 ^ (-e).toNat ≤ b * i.denominator := fun a b => div_le_div_iff₀ hden hscale
  have hlt : ∀ a b : ℚ, a / i.denominator < b / 10 ^ (-e).toNat ↔
      a * 10 ^ (-e).toNat < b * i.denominator := fun a b => div_lt_div_iff₀ hden hscale
  have hge : ∀ a b : ℚ, b / 10 ^ (-e).toNat ≤ a / i.denominator ↔
      b * i.denominator ≤ a * 10 ^ (-e).toNat := fun a b => div_le_div_iff₀ hscale hden
  have hgt : ∀ a b : ℚ, b / 10 ^ (-e).toNat < a / i.denominator ↔
      b * i.denominator < a * 10 ^ (-e).toNat := fun a b => div_lt_div_iff₀ hscale hden
  rw [← mul_div_assoc]
  rcases Nat.mod_two_eq_zero_or_one m with heven | hodd
  · rw [heven, if_pos (by rfl), Bool.and_eq_true, decide_eq_true_eq, decide_eq_true_eq]
    constructor
    · rintro ⟨h1, h2⟩
      refine ⟨?_, ?_, fun h => by omega⟩
      · rw [← hlow, hle]
        exact_mod_cast h1
      · rw [← hhigh, hge]
        exact_mod_cast h2
    · rintro ⟨h1, h2, -⟩
      rw [← hlow, hle] at h1
      rw [← hhigh, hge] at h2
      exact ⟨by exact_mod_cast h1, by exact_mod_cast h2⟩
  · rw [hodd, if_neg (by decide), Bool.and_eq_true, decide_eq_true_eq, decide_eq_true_eq]
    constructor
    · rintro ⟨h1, h2⟩
      have h3 : (m - below m q) * 2 ^ q < digits * 10 ^ e.toNat / 10 ^ (-e).toNat := by
        rw [← hlow, hlt]
        exact_mod_cast h1
      have h4 : (digits * 10 ^ e.toNat / 10 ^ (-e).toNat : ℚ) < (m + 1 / 2) * 2 ^ q := by
        rw [← hhigh, hgt]
        exact_mod_cast h2
      exact ⟨h3.le, h4.le, fun _ => ⟨h3, h4⟩⟩
    · intro h
      obtain ⟨h1, h2⟩ := h.odd hodd
      rw [← hlow, hlt] at h1
      rw [← hhigh, hgt] at h2
      exact ⟨by exact_mod_cast h1, by exact_mod_cast h2⟩

end Interval

/-! ## The search -/

section Steps

variable {v s : ℕ}

/-- The step below is near when the rest is at most half a step. -/
theorem step_below (hs : (0 : ℚ) < s) (h : compare (2 * (v % s)) s ≠ .gt) :
    |((v / s : ℕ) : ℚ) - v / s| ≤ 1 / 2 := by
  have hhalf : ((v % s : ℕ) : ℚ) / s ≤ 1 / 2 := by
    rw [div_le_iff₀ hs]
    have : (2 : ℚ) * (v % s : ℕ) ≤ s := by exact_mod_cast Nat.compare_ne_gt.1 h
    linarith
  have hpos : (0 : ℚ) ≤ ((v % s : ℕ) : ℚ) / s := by positivity
  rw [div_split v hs, abs_le]
  constructor <;> linarith

/-- The step above is near when the rest is at least half a step. -/
theorem step_above (hs : (0 : ℚ) < s) (h : compare (2 * (v % s)) s ≠ .lt) :
    |((v / s + 1 : ℕ) : ℚ) - v / s| ≤ 1 / 2 := by
  have hhalf : (1 : ℚ) / 2 ≤ ((v % s : ℕ) : ℚ) / s := by
    rw [le_div_iff₀ hs]
    have : (s : ℚ) ≤ 2 * (v % s : ℕ) := by exact_mod_cast Nat.compare_ne_lt.1 h
    linarith
  have hone : ((v % s : ℕ) : ℚ) / s < 1 := by
    rw [div_lt_one hs]
    exact_mod_cast Nat.mod_lt v (by exact_mod_cast hs)
  rw [div_split v hs, abs_le]
  push_cast
  constructor <;> linarith

/-- Whichever of the two steps the comparison prefers is near. Between two equally near ones, either
will do. -/
theorem step_preferred (hs : (0 : ℚ) < s) {up : Bool}
    (hup : up = true → compare (2 * (v % s)) s ≠ .lt)
    (hdown : up = false → compare (2 * (v % s)) s ≠ .gt) :
    |(((if up then (v / s + 1, v / s) else (v / s, v / s + 1)).1 : ℕ) : ℚ) - v / s| ≤ 1 / 2 := by
  cases up with
  | true => exact step_above hs (hup rfl)
  | false => exact step_below hs (hdown rfl)

end Steps

/-- The search tries a grid point at most half a step from the value, and then another. -/
theorem nearest_tries (tie : Tie) (i : Interval) (e : ℤ) (hden : (0 : ℚ) < i.denominator) :
    ∃ first second : ℕ,
      |first * 10 ^ e - (i.value : ℚ) / i.denominator| ≤ 10 ^ e / 2 ∧
      i.nearest? tie e =
        if i.holds first e then some ⟨first, e⟩
        else if i.holds second e then some ⟨second, e⟩
        else none := by
  obtain ⟨scale, hscale⟩ : ∃ s, s = i.denominator * Nat.pow 10 e.toNat := ⟨_, rfl⟩
  obtain ⟨value, hvalue⟩ : ∃ v, v = i.value * Nat.pow 10 (-e).toNat := ⟨_, rfl⟩
  have hp := ten_zpow_pos e
  have hsq : (0 : ℚ) < scale := by
    rw [hscale, Nat.pow_eq]
    push_cast
    positivity
  -- on the grid the value is `value / scale` steps up
  have hsteps : (i.value : ℚ) / i.denominator = value / scale * 10 ^ e := by
    rw [hscale, hvalue, Nat.pow_eq, Nat.pow_eq, zpow_split (by norm_num) e]
    push_cast
    field_simp
  have hgrid : ∀ f : ℚ, |f - value / scale| ≤ 1 / 2 →
      |f * 10 ^ e - (i.value : ℚ) / i.denominator| ≤ 10 ^ e / 2 := by
    intro f hf
    rw [hsteps, ← sub_mul, abs_mul, abs_of_pos hp]
    nlinarith
  unfold Interval.nearest?
  dsimp only
  rw [← hscale, ← hvalue]
  refine ⟨_, _, ?_, rfl⟩
  apply hgrid
  apply step_preferred hsq
  · intro h
    rcases hc : compare (2 * (value % scale)) scale with _ | _ | _ <;> simp [hc] at h ⊢
  · intro h
    rcases hc : compare (2 * (value % scale)) scale with _ | _ | _ <;> simp [hc] at h ⊢

/-- What the search gives is in the interval. -/
theorem nearest_holds {tie : Tie} {i : Interval} {e : ℤ} {d : Scaled}
    (hden : (0 : ℚ) < i.denominator) (h : i.nearest? tie e = some d) :
    i.holds d.digits d.exponent = true := by
  obtain ⟨first, second, -, htries⟩ := nearest_tries tie i e hden
  rw [htries] at h
  split at h
  · rename_i hfirst
    cases h
    exact hfirst
  · split at h
    · rename_i hsecond
      cases h
      exact hsecond
    · cases h

/-- The search succeeds where all grid points near the value are in the interval. -/
theorem nearest_found (tie : Tie) {i : Interval} {e : ℤ} (hden : (0 : ℚ) < i.denominator)
    (hgrid : ∀ digits : ℕ, |digits * 10 ^ e - (i.value : ℚ) / i.denominator| ≤ 10 ^ e / 2 →
      i.holds digits e = true) : ∃ d, i.nearest? tie e = some d := by
  obtain ⟨first, second, hnear, htries⟩ := nearest_tries tie i e hden
  exact ⟨⟨first, e⟩, by rw [htries, if_pos (hgrid first hnear)]⟩

/-- The value has at least as many digits before its point as its magnitude says. -/
theorem magnitude_le {i : Interval} (hvalue : 0 < i.value) (hden : (0 : ℚ) < i.denominator) :
    (10 : ℚ) ^ (i.magnitude - 1) ≤ (i.value : ℚ) / i.denominator := by
  have hden' : 0 < i.denominator := by exact_mod_cast hden
  have hvalue' : (0 : ℚ) < i.value := by exact_mod_cast hvalue
  unfold Interval.magnitude digitCount
  split
  · rename_i hle
    have hquot : 0 < i.value / i.denominator := Nat.div_pos hle hden'
    have hlow := (pow_length_toDigits hquot).1
    have hlen : 0 < (Nat.toDigits 10 (i.value / i.denominator)).length := Nat.length_toDigits_pos
    have hexp : ((Nat.toDigits 10 (i.value / i.denominator)).length : ℤ) - 1 =
        ((Nat.toDigits 10 (i.value / i.denominator)).length - 1 : ℕ) := by omega
    rw [hexp, zpow_natCast]
    calc ((10 : ℚ) ^ ((Nat.toDigits 10 (i.value / i.denominator)).length - 1))
        ≤ (i.value / i.denominator : ℕ) := by exact_mod_cast hlow
      _ ≤ (i.value : ℚ) / i.denominator := Nat.cast_div_le
  · rename_i hlt
    have hquot : 0 < (i.denominator - 1) / i.value := Nat.div_pos (by omega) hvalue
    obtain ⟨k, hk⟩ : ∃ k, k = (Nat.toDigits 10 ((i.denominator - 1) / i.value)).length := ⟨_, rfl⟩
    have hhigh := (pow_length_toDigits hquot).2
    rw [← hk] at hhigh ⊢
    have hprod : i.denominator ≤ 10 ^ k * i.value := by
      have := (Nat.div_lt_iff_lt_mul hvalue).1 hhigh
      omega
    have hexp : (1 - (k : ℤ) - 1) = -(k : ℤ) := by omega
    rw [hexp, zpow_neg, zpow_natCast, le_div_iff₀ hden, inv_mul_le_iff₀ (by positivity)]
    exact_mod_cast hprod

section Search

variable {m : ℕ} {q : ℤ}

/-- **Seventeen digits are enough.** What is at most half a step of a 17-digit grid from a double is
in its reach. -/
theorem fine_enough (hd : IsDouble m q) {k : ℤ} (hk : (10 : ℚ) ^ (k - 1) ≤ m * 2 ^ q) {y : ℚ}
    (hy : |y - m * 2 ^ q| ≤ 10 ^ (k - 17) / 2) : Near y m q := by
  have hp := two_zpow_pos q
  have hm : (m : ℚ) < 2 ^ 53 := by exact_mod_cast hd.bits
  have hstep : (10 : ℚ) ^ (k - 17) * 10 ^ 16 = 10 ^ (k - 1) := by
    rw [← zpow_natCast, ← zpow_add₀ (by norm_num)]
    congr 1
    omega
  -- half a step is less than `2^-54` of the value, and the reach is at least that
  have hhalf : (10 : ℚ) ^ (k - 17) / 2 < below m q * 2 ^ q := by
    have hlt : (10 : ℚ) ^ (k - 17) / 2 < m * 2 ^ q / 2 ^ 54 := by
      have h1 : (10 : ℚ) ^ (k - 17) * 10 ^ 16 ≤ m * 2 ^ q := by rw [hstep]; exact hk
      have h2 : (0 : ℚ) < 10 ^ (k - 17) := ten_zpow_pos _
      rw [lt_div_iff₀ (by norm_num)]
      nlinarith
    refine lt_of_lt_of_le hlt ?_
    unfold below
    split
    · rename_i hnarrow
      rw [hnarrow.1]
      push_cast
      apply le_of_eq
      ring
    · rw [div_le_iff₀ (by norm_num)]
      nlinarith
  have hbelow := below_le m q
  have hclose := abs_le.1 hy
  have hlow : (m - below m q) * 2 ^ q < y := by
    rw [sub_mul]
    linarith [hclose.1]
  have hhigh : y < (m + 1 / 2) * 2 ^ q := by
    have h1 : below m q * 2 ^ q ≤ 1 / 2 * 2 ^ q := mul_le_mul_of_nonneg_right hbelow hp.le
    rw [add_mul]
    linarith [hclose.2]
  exact ⟨hlow.le, hhigh.le, fun _ => ⟨hlow, hhigh⟩⟩

/-- Zeros moved into the exponent leave the decimal as it is. -/
theorem strip_value (fuel : ℕ) (d : Scaled) :
    ((d.strip fuel).digits * 10 ^ (d.strip fuel).exponent : ℚ) = d.digits * 10 ^ d.exponent := by
  induction fuel generalizing d with
  | zero => rfl
  | succ fuel ih =>
      unfold Scaled.strip
      split
      · rename_i hzero
        rw [Bool.and_eq_true, beq_iff_eq] at hzero
        have hten : d.digits = d.digits / 10 * 10 := by omega
        rw [ih]
        dsimp only
        rw [zpow_add₀ (by norm_num), zpow_one, mul_comm ((10 : ℚ) ^ d.exponent), ← mul_assoc]
        congr 1
        exact_mod_cast hten.symm
      · rfl

/-- **The shortest decimal is in reach** of the double, so it reads back as the double. -/
theorem shortest_near (tie : Tie) (hd : IsDouble m q) :
    0 < (shortest tie m q (narrow m q)).digits ∧
      Near ((shortest tie m q (narrow m q)).digits *
        10 ^ (shortest tie m q (narrow m q)).exponent) m q := by
  have hden := denominator_pos m q
  have hvalue := value_of m q
  have hpos : 0 < (Interval.of m q (narrow m q)).value := by
    have h := hd.pos
    simp only [Interval.of, Nat.pow_eq]
    positivity
  have hk := magnitude_le hpos hden
  rw [hvalue] at hk
  have hfound := nearest_found tie (i := Interval.of m q (narrow m q))
    (e := (Interval.of m q (narrow m q)).magnitude - 17) hden (by
      intro digits hy
      rw [hvalue] at hy
      exact (holds_iff q hd.pos digits _).2 (fine_enough hd hk hy))
  unfold shortest
  dsimp only
  split
  · rename_i d hsearch
    obtain ⟨n, -, hn⟩ := List.exists_of_findSome?_eq_some hsearch
    have hnear := (holds_iff q hd.pos _ _).1 (nearest_holds hden hn)
    rw [strip_value]
    refine ⟨?_, hnear⟩
    have h := hnear.pos hd.pos
    rw [← strip_value 20] at h
    by_contra hc
    have hzero : (d.strip 20).digits = 0 := by omega
    rw [hzero] at h
    simp at h
  · rename_i hnone
    obtain ⟨d, hd'⟩ := hfound
    rw [List.findSome?_eq_none_iff] at hnone
    have h16 := hnone 16 (by decide)
    have hexp : (Interval.of m q (narrow m q)).magnitude - ((16 : ℕ) : ℤ) - 1 =
        (Interval.of m q (narrow m q)).magnitude - 17 := by omega
    rw [hexp, hd'] at h16
    cases h16

end Search

end TileDepot.Decimal
