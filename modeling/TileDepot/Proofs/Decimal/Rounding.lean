import Mathlib.Algebra.Order.Field.Power
import Mathlib.Data.Rat.Cast.Order
import Mathlib.Tactic.FieldSimp
import Mathlib.Tactic.Linarith
import Mathlib.Tactic.Positivity
import Mathlib.Tactic.Ring

/-!
# What rounding gives

Rounding to a double keeps the leading bits of a number, a round bit and a sticky bit, and decides
by them. Here the number itself stands beside its bits, as a fraction: `Kept` says which number a
cut-off mantissa is of. The main result is `round_of_near`. Every number in the reach of a double,
which is half a step to both sides and only a quarter step down from a power of two, rounds to that
double, whatever bits it starts from. Nothing is said about numbers out of every reach: those that
are read back are never there.
-/

namespace TileDepot.Decimal

open Float.Model Float.Model.UnpackedFloat

/-! ## Bits that are kept -/

/-- The mantissa with its round bit as one more bit. -/
def halves (em : ExtendedMantissa) : ℕ :=
  2 * em.mantissa + em.roundBit.toNat

/-- `em` is what is kept of the number `z`: all bits down to the round bit, and whether there was
more. -/
structure Kept (em : ExtendedMantissa) (z : ℚ) : Prop where
  low : (halves em : ℚ) ≤ 2 * z
  high : 2 * z < halves em + 1
  sticky : em.stickyBit = false ↔ 2 * z = halves em

theorem kept_exact (m : ℕ) : Kept (.ofMantissaAndAccuracy m .exact) m := by
  constructor <;> simp [halves, ExtendedMantissa.ofMantissaAndAccuracy]

/-- A quotient is its whole part and the remainder's share. -/
theorem div_split (m : ℕ) {d : ℕ} (hd : (0 : ℚ) < d) :
    (m : ℚ) / d = (m / d : ℕ) + ((m % d : ℕ) : ℚ) / d := by
  have h := Nat.div_add_mod m d
  field_simp
  exact_mod_cast h.symm

/-- The round bit and the sticky bit are about what is behind the mantissa. -/
theorem kept_of_rest (m : ℕ) {r s : Bool} {f : ℚ} (hlow : (r.toNat : ℚ) ≤ 2 * f)
    (hhigh : 2 * f < r.toNat + 1) (hsticky : s = false ↔ 2 * f = r.toNat) :
    Kept ⟨m, r, s⟩ (m + f) := by
  constructor <;> simp only [halves] <;> push_cast
  · linarith
  · linarith
  · rw [hsticky]
    constructor <;> intro h <;> linarith

/-- A quotient with the accuracy of its remainder is kept of the fraction. -/
theorem kept_quotient (m : ℕ) {d : ℕ} (hd : 0 < d) :
    Kept (.ofMantissaAndAccuracy (m / d) (accuracyOfFraction (m % d) d)) ((m : ℚ) / d) := by
  have hd' : (0 : ℚ) < d := by exact_mod_cast hd
  have hrest : m % d < d := Nat.mod_lt m hd
  have hone : ((m % d : ℕ) : ℚ) / d < 1 := by
    rw [div_lt_one hd']; exact_mod_cast hrest
  rw [div_split m hd', accuracyOfFraction]
  by_cases hz : m % d = 0
  · have h := kept_exact (m / d)
    simpa [hz] using h
  · have hpos : (0 : ℚ) < ((m % d : ℕ) : ℚ) / d := by
      have : (0 : ℚ) < (m % d : ℕ) := by exact_mod_cast Nat.pos_of_ne_zero hz
      positivity
    rw [if_neg hz]
    -- the round bit is the comparison of the remainder with half the divisor
    rcases hc : compare (2 * (m % d)) d with _ | _ | _
    · have hlt : 2 * (((m % d : ℕ) : ℚ) / d) < 1 := by
        rw [← mul_div_assoc, div_lt_one hd']
        exact_mod_cast Nat.compare_eq_lt.1 hc
      refine kept_of_rest _ ?_ ?_ (iff_of_false (by decide) fun h => ?_) <;>
        simp only [Bool.toNat_false, Nat.cast_zero] at * <;> linarith
    · have heq : 2 * (((m % d : ℕ) : ℚ) / d) = 1 := by
        rw [← mul_div_assoc, div_eq_one_iff_eq hd'.ne']
        exact_mod_cast Nat.compare_eq_eq.1 hc
      refine kept_of_rest _ ?_ ?_ (iff_of_true rfl ?_) <;>
        simp only [Bool.toNat_true, Nat.cast_one] <;> linarith
    · have hgt : 1 < 2 * (((m % d : ℕ) : ℚ) / d) := by
        rw [← mul_div_assoc, one_lt_div hd']
        exact_mod_cast Nat.compare_eq_gt.1 hc
      refine kept_of_rest _ ?_ ?_ (iff_of_false (by decide) fun h => ?_) <;>
        simp only [Bool.toNat_true, Nat.cast_one] at * <;> linarith

theorem mantissa_ofAccuracy (m : ℕ) (acc : Accuracy) :
    (ExtendedMantissa.ofMantissaAndAccuracy m acc).mantissa = m := by
  cases acc with
  | exact => rfl
  | inexact o => cases o <;> rfl

/-- The mantissa is the whole part of the number. -/
theorem Kept.whole {em : ExtendedMantissa} {z : ℚ} (h : Kept em z) :
    (em.mantissa : ℚ) ≤ z ∧ z < em.mantissa + 1 := by
  obtain ⟨m, r, s⟩ := em
  have hlow := h.low
  have hhigh := h.high
  simp only [halves] at hlow hhigh
  push_cast at hlow hhigh
  cases r <;> simp only [Bool.toNat_false, Bool.toNat_true, Nat.cast_zero, Nat.cast_one] at *
  · exact ⟨by linarith, by linarith⟩
  · exact ⟨by linarith, by linarith⟩

/-- Cutting off one more bit keeps half the number. -/
theorem Kept.shiftRightOne {em : ExtendedMantissa} {z : ℚ} (h : Kept em z) :
    Kept em.shiftRightOne (z / 2) := by
  obtain ⟨m, r, s⟩ := em
  obtain ⟨hlow, hhigh, hsticky⟩ := h
  have hbits : 2 * (m / 2) + (m % 2 != 0).toNat = m := by
    rcases Nat.mod_two_eq_zero_or_one m with h | h <;> simp [h] <;> omega
  have hr : (r.toNat : ℚ) ≤ 1 := by cases r <;> simp
  have hr' : (0 : ℚ) ≤ r.toNat := by cases r <;> simp
  simp only [halves] at hlow hhigh hsticky
  push_cast at hlow hhigh hsticky
  constructor <;> simp only [halves, ExtendedMantissa.shiftRightOne, hbits]
  · linarith
  · linarith
  · rw [Bool.or_eq_false_iff, hsticky]
    constructor
    · rintro ⟨hr0, heq⟩
      rw [hr0] at heq
      simp only [Bool.toNat_false, Nat.cast_zero] at heq
      linarith
    · intro heq
      cases r with
      | false =>
        simp only [Bool.toNat_false, Nat.cast_zero, true_and]
        linarith
      | true =>
        simp only [Bool.toNat_true, Nat.cast_one] at hlow
        linarith

theorem Kept.shiftRight {em : ExtendedMantissa} {z : ℚ} (h : Kept em z) (n : ℕ) :
    Kept (em >>> n) (z / 2 ^ n) := by
  change Kept (n.repeat ExtendedMantissa.shiftRightOne em) _
  induction n with
  | zero => simpa [Nat.repeat] using h
  | succ n ih =>
      have hn := ih.shiftRightOne
      rw [div_div, ← pow_succ] at hn
      exact hn

/-- **Nearest, ties to even.** A number at most half a step from `n` rounds to `n`, if `n` is even
or the number is nearer than that. -/
theorem Kept.rounded {em : ExtendedMantissa} {z : ℚ} (h : Kept em z) {n : ℕ}
    (hlow : (n : ℚ) - 1 / 2 ≤ z) (hhigh : z ≤ n + 1 / 2)
    (hodd : n % 2 = 1 → (n : ℚ) - 1 / 2 < z ∧ z < n + 1 / 2) : em.roundedMantissa = n := by
  obtain ⟨m, r, s⟩ := em
  obtain ⟨hl, hh, hs⟩ := h
  simp only [halves] at hl hh hs
  push_cast at hl hh hs
  -- the two bits tell in which quarter of the step from `m` to `m + 1` the number is
  cases r <;> cases s <;>
    simp only [Bool.toNat_false, Bool.toNat_true, Nat.cast_zero, Nat.cast_one, true_iff,
      reduceCtorEq, false_iff] at hl hh hs <;>
    simp only [ExtendedMantissa.roundedMantissa, ExtendedMantissa.accuracy,
      Accuracy.roundToNearestEven]
  · have h1 : (m : ℚ) < n + 1 := by linarith
    have h2 : (n : ℚ) < m + 1 := by linarith
    norm_cast at h1 h2
    omega
  · have hne : 2 * z ≠ 2 * m := by simpa using hs
    have hgt : (m : ℚ) < z := by
      rcases lt_or_eq_of_le hl with h | h
      · linarith
      · exact absurd (by linarith) hne
    have h1 : (m : ℚ) < n + 1 := by linarith
    have h2 : (n : ℚ) < m + 1 := by linarith
    norm_cast at h1 h2
    omega
  · have h1 : (m : ℚ) ≤ n := by linarith
    have h2 : (n : ℚ) ≤ m + 1 := by linarith
    norm_cast at h1 h2
    have heven : n % 2 = 0 := by
      rcases Nat.mod_two_eq_zero_or_one n with h | h
      · exact h
      · exfalso
        obtain ⟨h3, h4⟩ := hodd h
        have h5 : (m : ℚ) < n := by linarith
        have h6 : (n : ℚ) < m + 1 := by linarith
        norm_cast at h5 h6
        omega
    omega
  · have hgt : (2 * m + 1 : ℚ) < 2 * z := lt_of_le_of_ne hl (Ne.symm hs)
    have h1 : (m : ℚ) < n := by linarith
    have h2 : (n : ℚ) < m + 2 := by linarith
    norm_cast at h1 h2
    omega

/-! ## Doubles and their reach -/

/-- `m · 2^q` as a double has it: 53 bits of mantissa, or fewer at the least exponent. -/
structure IsDouble (m : ℕ) (q : ℤ) : Prop where
  pos : 0 < m
  bits : m < 2 ^ 53
  least : -1074 ≤ q
  full : 2 ^ 52 ≤ m ∨ q = -1074

/-- How far the reach of `m · 2^q` goes down, in steps. -/
def below (m : ℕ) (q : ℤ) : ℚ :=
  if m = 2 ^ 52 ∧ -1074 < q then 1 / 4 else 1 / 2

/-- `y` is in the reach of the double `m · 2^q`. The ends are in it when `m` is even. -/
structure Near (y : ℚ) (m : ℕ) (q : ℤ) : Prop where
  low : (m - below m q) * 2 ^ q ≤ y
  high : y ≤ (m + 1 / 2) * 2 ^ q
  odd : m % 2 = 1 → (m - below m q) * 2 ^ q < y ∧ y < (m + 1 / 2) * 2 ^ q

theorem below_pos (m : ℕ) (q : ℤ) : 0 < below m q := by
  unfold below; split <;> norm_num

theorem below_le (m : ℕ) (q : ℤ) : below m q ≤ 1 / 2 := by
  unfold below; split <;> norm_num

theorem two_zpow_pos (q : ℤ) : (0 : ℚ) < 2 ^ q := zpow_pos (by norm_num) q

theorem two_zpow_add (q r : ℤ) : (2 : ℚ) ^ (q + r) = 2 ^ q * 2 ^ r := zpow_add₀ (by norm_num) q r

theorem two_zpow_add_nat (q : ℤ) (k : ℕ) : (2 : ℚ) ^ (q + k) = 2 ^ k * 2 ^ q := by
  rw [two_zpow_add, zpow_natCast, mul_comm]

theorem two_zpow_le {q r : ℤ} (h : q ≤ r) : (2 : ℚ) ^ q ≤ 2 ^ r :=
  zpow_le_zpow_right₀ (by norm_num) h

/-- A double is in its own reach. -/
theorem near_self (m : ℕ) (q : ℤ) : Near (m * 2 ^ q) m q := by
  have hp := two_zpow_pos q
  have hb := below_pos m q
  have h1 : (m - below m q) * 2 ^ q < m * 2 ^ q := by nlinarith
  have h2 : (m : ℚ) * 2 ^ q < (m + 1 / 2) * 2 ^ q := by nlinarith
  exact ⟨h1.le, h2.le, fun _ => ⟨h1, h2⟩⟩

theorem Near.pos {y : ℚ} {m : ℕ} {q : ℤ} (h : Near y m q) (hm : 0 < m) : 0 < y := by
  have hp := two_zpow_pos q
  have hb := below_le m q
  have h1 : (1 : ℚ) ≤ m := by exact_mod_cast hm
  have hpos : 0 < (m - below m q) * 2 ^ q := by
    apply mul_pos _ hp
    linarith
  linarith [h.low]

/-! ## The exponent that rounding aims at -/

theorem targetExponent_eq (t : ℤ) : Format.binary64.targetExponent t = max (t - 53) (-1074) := rfl

theorem totalExponent_eq (m : ℕ) (e : ℤ) : totalExponent m e = m.log2 + 1 + e := rfl

/-- The exponent that a mantissa `m` with exponent `e` is shifted to. -/
def aim (m : ℕ) (e : ℤ) : ℤ := Format.binary64.targetExponent (totalExponent m e)

theorem aim_eq (m : ℕ) (e : ℤ) : aim m e = max (m.log2 + e - 52) (-1074) := by
  rw [aim, targetExponent_eq, totalExponent_eq]
  congr 1
  omega

/-- A double is where rounding aims. -/
theorem IsDouble.aim_eq {m : ℕ} {q : ℤ} (h : IsDouble m q) : aim m q = q := by
  have hlog : m.log2 < 53 := (Nat.log2_lt h.pos.ne').mpr h.bits
  have hleast := h.least
  rw [Decimal.aim_eq]
  rcases h.full with hfull | rfl
  · have : 52 ≤ m.log2 := (Nat.le_log2 h.pos.ne').mpr hfull
    omega
  · omega

/-- The shift goes to the aim, and what is kept there is of the same number. -/
theorem shift_kept {m : ℕ} {e : ℤ} {acc : Accuracy} {y : ℚ} (haim : e ≤ aim m e)
    (hkept : Kept (.ofMantissaAndAccuracy m acc) (y / 2 ^ e)) :
    ∃ em, shiftToTargetExponent Format.binary64 m e acc = (em, aim m e) ∧
      Kept em (y / 2 ^ aim m e) := by
  have hn : (((aim m e - e).toNat : ℕ) : ℤ) = aim m e - e := by omega
  refine ⟨ExtendedMantissa.ofMantissaAndAccuracy m acc >>> (aim m e - e).toNat, ?_, ?_⟩
  · unfold shiftToTargetExponent shiftToExponent
    rw [← aim]
    dsimp only
    rw [hn, add_sub_cancel]
  · have h := hkept.shiftRight (aim m e - e).toNat
    have hexp : (2 : ℚ) ^ aim m e = 2 ^ e * 2 ^ (aim m e - e).toNat := by
      rw [← zpow_natCast, ← two_zpow_add, hn]
      congr 1
      omega
    rwa [hexp, ← div_div]

/-- What rounds to a mantissa of the format needs no second shift. -/
theorem round_settles {em : ExtendedMantissa} {m m' : ℕ} {e e' q : ℤ} {acc : Accuracy}
    (hfirst : shiftToTargetExponent Format.binary64 m e acc = (em, e'))
    (hsecond : shiftToTargetExponent Format.binary64 em.roundedMantissa e' .exact =
      (⟨m', false, false⟩, q)) (hm : 0 < m') (s : Sign) :
    roundWithAccuracy Format.binary64 s m e acc = .finite s m' q hm := by
  unfold roundWithAccuracy
  rw [hfirst]
  dsimp only
  rw [hsecond]
  dsimp only
  rw [dif_neg hm.ne']

theorem shift_double {m : ℕ} {q : ℤ} (h : IsDouble m q) :
    shiftToTargetExponent Format.binary64 m q .exact = (⟨m, false, false⟩, q) := by
  unfold shiftToTargetExponent shiftToExponent
  rw [← aim, h.aim_eq]
  simp [HShiftRight.hShiftRight, Nat.repeat, ExtendedMantissa.ofMantissaAndAccuracy]

/-- A mantissa that rounding has filled up takes one more shift. -/
theorem shift_carry {q : ℤ} (hq : -1074 < q) :
    shiftToTargetExponent Format.binary64 (2 ^ 53) (q - 1) .exact =
      (⟨2 ^ 52, false, false⟩, q) := by
  have haim : aim (2 ^ 53) (q - 1) = q := by
    rw [aim_eq, Nat.log2_two_pow]
    omega
  have hone : (q - (q - 1)).toNat = 1 := by omega
  unfold shiftToTargetExponent shiftToExponent
  rw [← aim, haim]
  dsimp only
  rw [hone]
  simp [HShiftRight.hShiftRight, Nat.repeat, ExtendedMantissa.ofMantissaAndAccuracy,
    ExtendedMantissa.shiftRightOne]

/-! ## Numbers in reach -/

section Reach

variable {m m' : ℕ} {e q : ℤ} {acc : Accuracy} {y : ℚ}

/-- Below the aim there are at most 53 bits. -/
theorem lt_of_kept (hkept : Kept (.ofMantissaAndAccuracy m acc) (y / 2 ^ e)) :
    y < 2 ^ (aim m e + 53) := by
  have hp := two_zpow_pos e
  have hm : m < 2 ^ (m.log2 + 1) := Nat.lt_log2_self
  have hz : y / 2 ^ e < m + 1 := by
    have h := hkept.whole.2
    rwa [mantissa_ofAccuracy] at h
  have hm' : (m + 1 : ℚ) ≤ 2 ^ (m.log2 + 1) := by exact_mod_cast hm
  calc y = y / 2 ^ e * 2 ^ e := by rw [div_mul_cancel₀ _ hp.ne']
    _ < (m + 1) * 2 ^ e := by exact mul_lt_mul_of_pos_right hz hp
    _ ≤ 2 ^ (m.log2 + 1) * 2 ^ e := by exact mul_le_mul_of_nonneg_right hm' hp.le
    _ = 2 ^ ((m.log2 + 1 : ℕ) + e : ℤ) := by rw [two_zpow_add, zpow_natCast]
    _ ≤ 2 ^ (aim m e + 53) := two_zpow_le (by rw [aim_eq]; omega)

/-- Unless the aim is the least exponent, there are 53 bits above it. -/
theorem le_of_kept (haim : e ≤ aim m e) (hkept : Kept (.ofMantissaAndAccuracy m acc) (y / 2 ^ e))
    (hleast : -1074 < aim m e) : 2 ^ (aim m e + 52) ≤ y := by
  have hp := two_zpow_pos e
  have haim' : aim m e = m.log2 + e - 52 := by
    rw [aim_eq] at hleast ⊢
    omega
  have hm0 : m ≠ 0 := by
    rintro rfl
    rw [haim'] at haim
    simp at haim
  have hm : 2 ^ m.log2 ≤ m := Nat.log2_self_le hm0
  have hz : (m : ℚ) ≤ y / 2 ^ e := by
    have h := hkept.whole.1
    rwa [mantissa_ofAccuracy] at h
  have hm' : (2 : ℚ) ^ m.log2 ≤ m := by exact_mod_cast hm
  calc (2 : ℚ) ^ (aim m e + 52) = 2 ^ ((m.log2 : ℕ) + e : ℤ) := by
        rw [haim']
        congr 1
        omega
    _ = 2 ^ m.log2 * 2 ^ e := by rw [two_zpow_add, zpow_natCast]
    _ ≤ m * 2 ^ e := by exact mul_le_mul_of_nonneg_right hm' hp.le
    _ ≤ y / 2 ^ e * 2 ^ e := by exact mul_le_mul_of_nonneg_right hz hp.le
    _ = y := by rw [div_mul_cancel₀ _ hp.ne']

/-- Numbers above every aim of `q` are out of its reach. -/
theorem aim_le_of_near (hd : IsDouble m' q) (hnear : Near y m' q) (haim : e ≤ aim m e)
    (hkept : Kept (.ofMantissaAndAccuracy m acc) (y / 2 ^ e)) : aim m e ≤ q := by
  by_contra hgt
  have hp := two_zpow_pos q
  have hbits : (m' : ℚ) + 1 ≤ 2 ^ 53 := by exact_mod_cast hd.bits
  have hleast : -1074 < aim m e := lt_of_le_of_lt hd.least (not_le.1 hgt)
  have h1 := le_of_kept haim hkept hleast
  have h2 : (2 : ℚ) ^ (q + 53) ≤ 2 ^ (aim m e + 52) := two_zpow_le (by omega)
  have h3 : (2 : ℚ) ^ (q + 53) = 2 ^ 53 * 2 ^ q := by exact_mod_cast two_zpow_add_nat q 53
  have h4 : ((m' : ℚ) + 1 / 2) * 2 ^ q < 2 ^ 53 * 2 ^ q := by
    apply mul_lt_mul_of_pos_right _ hp
    linarith
  linarith [hnear.high]

/-- In reach of `q`, a lower aim is the next one, and the number is just below a power of two. -/
theorem aim_of_lt (hd : IsDouble m' q) (hnear : Near y m' q) (hlt : aim m e < q)
    (hkept : Kept (.ofMantissaAndAccuracy m acc) (y / 2 ^ e)) :
    aim m e = q - 1 ∧ m' = 2 ^ 52 ∧ -1074 < q ∧ y < 2 ^ (q + 52) := by
  have hp := two_zpow_pos q
  have hlt53 := lt_of_kept hkept
  have hbelow := below_le m' q
  have hleast : -1074 ≤ aim m e := by rw [aim_eq]; omega
  have hq : -1074 < q := by omega
  have hm : 2 ^ 52 ≤ m' := hd.full.resolve_right hq.ne'
  have hmq : (2 ^ 52 : ℚ) ≤ m' := by exact_mod_cast hm
  have hup : y < 2 ^ (q + 52) := lt_of_lt_of_le hlt53 (two_zpow_le (by omega))
  have hm' : m' = 2 ^ 52 := by
    have h1 : (m' - below m' q) * 2 ^ q < 2 ^ 52 * 2 ^ q := by
      have hpow : (2 : ℚ) ^ (q + 52) = 2 ^ 52 * 2 ^ q := by exact_mod_cast two_zpow_add_nat q 52
      rw [← hpow]
      exact lt_of_le_of_lt hnear.low hup
    have h2 : (m' : ℚ) - below m' q < 2 ^ 52 := lt_of_mul_lt_mul_right h1 hp.le
    have h3 : (m' : ℚ) < 2 ^ 52 + 1 := by linarith
    have h4 : m' < 2 ^ 52 + 1 := by exact_mod_cast h3
    omega
  refine ⟨?_, hm', hq, hup⟩
  -- the number is above `2^(q + 51)`, which is out of the reach of lower aims
  by_contra hne
  have h1 : y < 2 ^ (q + 51) := lt_of_lt_of_le hlt53 (two_zpow_le (by omega))
  have h2 : (2 : ℚ) ^ (q + 51) = 2 ^ 51 * 2 ^ q := by exact_mod_cast two_zpow_add_nat q 51
  have h3 : (2 ^ 51 : ℚ) * 2 ^ q ≤ (m' - below m' q) * 2 ^ q := by
    apply mul_le_mul_of_nonneg_right _ hp.le
    linarith
  linarith [hnear.low]

/-- A number in reach is aimed at the exponent of its double, or, just below a power of two, at the
exponent below. -/
theorem aim_of_near (hd : IsDouble m' q) (hnear : Near y m' q) (haim : e ≤ aim m e)
    (hkept : Kept (.ofMantissaAndAccuracy m acc) (y / 2 ^ e)) :
    aim m e = q ∨ (aim m e = q - 1 ∧ m' = 2 ^ 52 ∧ -1074 < q ∧ y < 2 ^ (q + 52)) := by
  rcases lt_or_eq_of_le (aim_le_of_near hd hnear haim hkept) with hlt | heq
  · exact .inr (aim_of_lt hd hnear hlt hkept)
  · exact .inl heq

/-- **What is in reach rounds there.** Of a number in the reach of a double, let a mantissa be kept
with its accuracy, at an exponent not above the aim. Then rounding gives the double. -/
theorem round_of_near (hd : IsDouble m' q) (hnear : Near y m' q) (haim : e ≤ aim m e)
    (hkept : Kept (.ofMantissaAndAccuracy m acc) (y / 2 ^ e)) (s : Sign) :
    roundWithAccuracy Format.binary64 s m e acc = .finite s m' q hd.pos := by
  have hp := two_zpow_pos q
  have hbelow := below_le m' q
  obtain ⟨em, hshift, hem⟩ := shift_kept haim hkept
  rcases aim_of_near hd hnear haim hkept with heq | ⟨heq, rfl, hq, hup⟩
  · rw [heq] at hshift hem
    have hlow : (m' : ℚ) - below m' q ≤ y / 2 ^ q := (le_div_iff₀ hp).2 hnear.low
    have hhigh : y / 2 ^ q ≤ (m' : ℚ) + 1 / 2 := (div_le_iff₀ hp).2 hnear.high
    have hround : em.roundedMantissa = m' := by
      refine hem.rounded (by linarith) hhigh ?_
      intro hodd
      obtain ⟨h1, h2⟩ := hnear.odd hodd
      have h3 : (m' : ℚ) - below m' q < y / 2 ^ q := (lt_div_iff₀ hp).2 h1
      have h4 : y / 2 ^ q < (m' : ℚ) + 1 / 2 := (div_lt_iff₀ hp).2 h2
      exact ⟨by linarith, h4⟩
    refine round_settles hshift ?_ hd.pos s
    rw [hround]
    exact shift_double hd
  · -- with one bit more the mantissa rounds up to `2^53`, and the carry shifts it back
    rw [heq] at hshift hem
    have hp' := two_zpow_pos (q - 1)
    have hdouble : (2 : ℚ) ^ q = 2 * 2 ^ (q - 1) := by
      have h := two_zpow_add (q - 1) 1
      rw [sub_add_cancel] at h
      rw [h, zpow_one, mul_comm]
    have hquarter : below (2 ^ 52) q = 1 / 4 := by
      unfold below
      rw [if_pos ⟨rfl, hq⟩]
    have hlow : ((2 ^ 53 : ℕ) : ℚ) - 1 / 2 ≤ y / 2 ^ (q - 1) := by
      rw [le_div_iff₀ hp']
      have h := hnear.low
      rw [hquarter, hdouble] at h
      push_cast at h ⊢
      linarith
    have hhigh : y / 2 ^ (q - 1) ≤ ((2 ^ 53 : ℕ) : ℚ) + 1 / 2 := by
      rw [div_le_iff₀ hp']
      have h : (2 : ℚ) ^ (q + 52) = 2 ^ 53 * 2 ^ (q - 1) := by
        rw [two_zpow_add, hdouble]
        norm_num
        ring
      rw [h] at hup
      push_cast
      linarith
    have hround : em.roundedMantissa = 2 ^ 53 := by
      refine hem.rounded hlow hhigh ?_
      intro hodd
      exact absurd hodd (by decide)
    refine round_settles hshift ?_ hd.pos s
    rw [hround]
    exact shift_carry hq

end Reach

end TileDepot.Decimal
