import Mathlib.Tactic.IntervalCases
import TileDepot.Decimal.Reading
import TileDepot.Proofs.Decimal.Doubles

/-!
# Decimals are read correctly

A decimal `digits · 10^exponent` is read by one product or one quotient. `scaleFloat_of_near` says
that this is correct rounding, for every positive decimal in the reach of a double: small digits
with a small exponent go through two doubles that are exact, all others through whole numbers of any
size, and both ways the one rounding at the end meets the decimal itself.
-/

namespace TileDepot.Decimal

open Float.Model Float.Model.UnpackedFloat

theorem ten_zpow_pos (e : ℤ) : (0 : ℚ) < 10 ^ e := zpow_pos (by norm_num) e

/-! ## Products and quotients -/

section Operations

variable {m₁ m₂ m : ℕ} {e₁ e₂ q : ℤ}

theorem mul_of_near (h₁ : 0 < m₁) (h₂ : 0 < m₂) (hbits : 2 ^ 52 ≤ m₁ * m₂) (hd : IsDouble m q)
    (hnear : Near (m₁ * 2 ^ e₁ * (m₂ * 2 ^ e₂)) m q) :
    mul Format.binary64 (.finite .positive m₁ e₁ h₁) (.finite .positive m₂ e₂ h₂) =
      .finite .positive m q hd.pos := by
  have hp := two_zpow_pos (e₁ + e₂)
  have hlog : 52 ≤ (m₁ * m₂).log2 := (Nat.le_log2 (by positivity)).2 hbits
  have haim : e₁ + e₂ ≤ aim (m₁ * m₂) (e₁ + e₂) := by
    rw [aim_eq]
    omega
  have hvalue : (m₁ * 2 ^ e₁ * (m₂ * 2 ^ e₂) : ℚ) / 2 ^ (e₁ + e₂) = ((m₁ * m₂ : ℕ) : ℚ) := by
    rw [div_eq_iff hp.ne', two_zpow_add]
    push_cast
    ring
  refine round_of_near hd hnear haim ?_ .positive
  rw [hvalue]
  exact kept_exact _

theorem div_of_near (h₁ : 0 < m₁) (h₂ : 0 < m₂) (hd : IsDouble m q)
    (hnear : Near (m₁ * 2 ^ e₁ / (m₂ * 2 ^ e₂)) m q) :
    div Format.binary64 (.finite .positive m₁ e₁ h₁) (.finite .positive m₂ e₂ h₂) =
      .finite .positive m q hd.pos := by
  have h₂' : (0 : ℚ) < m₂ := by exact_mod_cast h₂
  -- the exponent of the quotient, and by how much the dividend is shifted for it
  obtain ⟨t, ht⟩ : ∃ t, t = min (e₁ - e₂)
      (Format.binary64.targetExponent (totalExponent m₁ e₁ - totalExponent m₂ e₂)) := ⟨_, rfl⟩
  obtain ⟨k, hk⟩ : ∃ k, k = (e₁ - e₂ - t).toNat := ⟨_, rfl⟩
  have hcore : divCore Format.binary64 m₁ e₁ m₂ e₂ =
      (m₁ * 2 ^ k / m₂, t, accuracyOfFraction (m₁ * 2 ^ k % m₂) m₂) := by
    unfold divCore
    rw [← ht]
    dsimp only
    rw [← hk, Nat.shiftLeft_eq]
  have hkt : (k : ℤ) = e₁ - e₂ - t := by omega
  rw [targetExponent_eq, totalExponent_eq, totalExponent_eq] at ht
  have hvalue : (m₁ * 2 ^ e₁ / (m₂ * 2 ^ e₂) : ℚ) / 2 ^ t = ((m₁ * 2 ^ k : ℕ) : ℚ) / m₂ := by
    have hexp : (2 : ℚ) ^ e₁ = 2 ^ k * 2 ^ t * 2 ^ e₂ := by
      rw [← zpow_natCast, ← two_zpow_add, ← two_zpow_add, hkt]
      congr 1
      omega
    have hpt := two_zpow_pos t
    have hp₂ := two_zpow_pos e₂
    rw [hexp]
    push_cast
    field_simp
  -- a quotient above the least exponent has at least 53 bits
  have haim : t ≤ aim (m₁ * 2 ^ k / m₂) t := by
    rw [aim_eq]
    by_cases hleast : t ≤ -1074
    · omega
    · have hshift : m₂.log2 + 53 ≤ m₁.log2 + k := by omega
      have hm₁ : 2 ^ m₁.log2 ≤ m₁ := Nat.log2_self_le h₁.ne'
      have hm₂ : m₂ < 2 ^ (m₂.log2 + 1) := Nat.lt_log2_self
      have hquot : 2 ^ 52 ≤ m₁ * 2 ^ k / m₂ := by
        rw [Nat.le_div_iff_mul_le h₂]
        calc 2 ^ 52 * m₂ ≤ 2 ^ 52 * 2 ^ (m₂.log2 + 1) := Nat.mul_le_mul_left _ hm₂.le
          _ = 2 ^ (m₂.log2 + 53) := by rw [← pow_add]; congr 1; omega
          _ ≤ 2 ^ (m₁.log2 + k) := Nat.pow_le_pow_right (by decide) hshift
          _ = 2 ^ m₁.log2 * 2 ^ k := by rw [pow_add]
          _ ≤ m₁ * 2 ^ k := Nat.mul_le_mul_right _ hm₁
      have hlog : 52 ≤ (m₁ * 2 ^ k / m₂).log2 := (Nat.le_log2 (by omega)).2 hquot
      omega
  change (let (m, e, acc) := divCore Format.binary64 m₁ e₁ m₂ e₂
    roundWithAccuracy Format.binary64 .positive m e acc) = _
  rw [hcore]
  refine round_of_near hd hnear haim ?_ .positive
  rw [hvalue]
  exact kept_quotient _ h₂

/-- The product of two doubles is the one that it is in reach of. -/
theorem Stands.mul {x₁ x₂ : Float} (hx₁ : Stands x₁ m₁ e₁) (hx₂ : Stands x₂ m₂ e₂)
    (hbits : 2 ^ 52 ≤ m₁ * m₂) (hd : IsDouble m q)
    (hnear : Near (m₁ * 2 ^ e₁ * (m₂ * 2 ^ e₂)) m q) : x₁ * x₂ = double m q hd.pos := by
  obtain ⟨h₁, hu₁⟩ := hx₁
  obtain ⟨h₂, hu₂⟩ := hx₂
  change Float.ofModel (Float.Model.pack
    (UnpackedFloat.mul Format.binary64 x₁.toModel.unpack x₂.toModel.unpack)) = _
  rw [hu₁, hu₂, mul_of_near h₁ h₂ hbits hd hnear]
  rfl

theorem Stands.div {x₁ x₂ : Float} (hx₁ : Stands x₁ m₁ e₁) (hx₂ : Stands x₂ m₂ e₂)
    (hd : IsDouble m q) (hnear : Near (m₁ * 2 ^ e₁ / (m₂ * 2 ^ e₂)) m q) :
    x₁ / x₂ = double m q hd.pos := by
  obtain ⟨h₁, hu₁⟩ := hx₁
  obtain ⟨h₂, hu₂⟩ := hx₂
  change Float.ofModel (Float.Model.pack
    (UnpackedFloat.div Format.binary64 x₁.toModel.unpack x₂.toModel.unpack)) = _
  rw [hu₁, hu₂, div_of_near h₁ h₂ hd hnear]
  rfl

end Operations

/-! ## Whole numbers that are doubles -/

/-- The mantissa of a whole number, and the exponent that goes with it. -/
def mantissa (n : ℕ) : ℕ := n * 2 ^ 52 / 2 ^ n.log2

def exponent (n : ℕ) : ℤ := n.log2 - 52

/-- A whole number that loses no bits in its mantissa is a double. -/
theorem whole_double {n : ℕ} (hn : 0 < n) (hlog : n.log2 < 1024)
    (hexact : mantissa n * 2 ^ n.log2 = n * 2 ^ 52) :
    (IsDouble (mantissa n) (exponent n) ∧ exponent n ≤ 971) ∧ 2 ^ 52 ≤ mantissa n ∧
      (mantissa n * 2 ^ exponent n : ℚ) = n := by
  have hp : 0 < 2 ^ n.log2 := by positivity
  have hlow : 2 ^ n.log2 ≤ n := Nat.log2_self_le hn.ne'
  have hhigh : n < 2 ^ (n.log2 + 1) := Nat.lt_log2_self
  have hfull : 2 ^ 52 ≤ mantissa n := by
    rw [mantissa, Nat.le_div_iff_mul_le hp, mul_comm]
    exact Nat.mul_le_mul_right _ hlow
  have hbits : mantissa n < 2 ^ 53 := by
    rw [mantissa, Nat.div_lt_iff_lt_mul hp]
    rw [pow_succ] at hhigh
    omega
  have hvalue : (mantissa n * 2 ^ exponent n : ℚ) = n := by
    have h : (mantissa n : ℚ) * 2 ^ n.log2 = n * 2 ^ 52 := by exact_mod_cast hexact
    rw [exponent, zpow_sub₀ (by norm_num), zpow_natCast, ← mul_div_assoc, h]
    norm_num
  refine ⟨⟨⟨by omega, hbits, ?_, .inl hfull⟩, ?_⟩, hfull, hvalue⟩
  · unfold exponent; omega
  · unfold exponent; omega

theorem mantissa_small {n : ℕ} (hlog : n.log2 < 53) : mantissa n = n * 2 ^ (52 - n.log2) := by
  have hsplit : 2 ^ 52 = 2 ^ (52 - n.log2) * 2 ^ n.log2 := by
    rw [← pow_add]
    congr 1
    omega
  rw [mantissa, hsplit, ← mul_assoc, Nat.mul_div_cancel _ (by positivity)]

/-- A whole number of at most 53 bits becomes the double that it is. -/
theorem stands_ofNat {n : ℕ} (hn : 0 < n) (hbits : n < 2 ^ 53) :
    Stands n.toUInt64.toFloat (mantissa n) (exponent n) ∧ 2 ^ 52 ≤ mantissa n ∧
      (mantissa n * 2 ^ exponent n : ℚ) = n := by
  have hlog : n.log2 < 53 := (Nat.log2_lt hn.ne').2 hbits
  have hexact : mantissa n * 2 ^ n.log2 = n * 2 ^ 52 := by
    rw [mantissa_small hlog, mul_assoc, ← pow_add]
    congr 2
    omega
  obtain ⟨⟨hd, hq⟩, hfull, hvalue⟩ := whole_double hn (by omega) hexact
  have hword : n.toUInt64.toNat = n := by
    rw [Nat.toUInt64_eq, UInt64.toNat_ofNat']
    omega
  have hround : UnpackedFloat.ofUInt64 Format.binary64 n.toUInt64 =
      .finite .positive (mantissa n) (exponent n) hd.pos := by
    have hsign : compare (n : ℤ) 0 = .gt := Int.compare_eq_gt.2 (by omega)
    have haim : Format.binary64.targetExponent (totalExponent n 0) = exponent n := by
      rw [← aim, aim_eq, exponent]
      omega
    have hshift : (0 - exponent n).toNat = 52 - n.log2 := by unfold exponent; omega
    have hexp : (0 : ℤ) - ((52 - n.log2 : ℕ) : ℤ) = exponent n := by unfold exponent; omega
    simp only [UnpackedFloat.ofUInt64, UnpackedFloat.ofNat, UnpackedFloat.ofInt,
      UnpackedFloat.normalize, UnpackedFloat.round, hword, hsign, Int.toNat_natCast, haim,
      decreaseExponent, hshift, hexp, Nat.shiftLeft_eq]
    rw [← mantissa_small hlog]
    refine round_of_near hd (near_self _ _) hd.aim_eq.ge ?_ .positive
    rw [mul_div_cancel_right₀ _ (two_zpow_pos _).ne']
    exact kept_exact _
  refine ⟨?_, hfull, hvalue⟩
  have hfloat : n.toUInt64.toFloat = double (mantissa n) (exponent n) hd.pos := by
    change Float.ofModel (Float.Model.pack (UnpackedFloat.ofUInt64 Format.binary64 n.toUInt64)) = _
    rw [hround]
    rfl
  rw [hfloat]
  exact stands_double hd hq

/-- The words in the table of powers of ten, and that these powers lose no bits. -/
theorem powers_exact : ∀ e : Fin 23,
    mantissa (10 ^ e.val) * 2 ^ (10 ^ e.val).log2 = 10 ^ e.val * 2 ^ 52 ∧
      (10 ^ e.val).log2 < 1024 ∧
      ∃ h : 0 < mantissa (10 ^ e.val), Float.exactlyRepresentablePowersOfTen[e].toModel =
        (double (mantissa (10 ^ e.val)) (exponent (10 ^ e.val)) h).toModel := by
  decide +kernel

theorem stands_power {e : ℕ} (h : e < Float.exactlyRepresentablePowersOfTen.size) :
    Stands Float.exactlyRepresentablePowersOfTen[e] (mantissa (10 ^ e)) (exponent (10 ^ e)) ∧
      2 ^ 52 ≤ mantissa (10 ^ e) ∧ (mantissa (10 ^ e) * 2 ^ exponent (10 ^ e) : ℚ) = 10 ^ e := by
  obtain ⟨hexact, hlog, hpos, hword⟩ := powers_exact ⟨e, h⟩
  obtain ⟨⟨hd, hq⟩, hfull, hvalue⟩ := whole_double (by positivity) hlog hexact
  refine ⟨?_, hfull, by exact_mod_cast hvalue⟩
  have hfloat : Float.exactlyRepresentablePowersOfTen[e] =
      double (mantissa (10 ^ e)) (exponent (10 ^ e)) hpos := congrArg Float.ofModel hword
  rw [hfloat]
  exact stands_double hd hq

/-! ## Reading a decimal -/

/-- The number of digits tells the size. -/
theorem pow_length_toDigits {n : ℕ} (hn : 0 < n) :
    10 ^ ((Nat.toDigits 10 n).length - 1) ≤ n ∧ n < 10 ^ (Nat.toDigits 10 n).length := by
  have hpos : 0 < (Nat.toDigits 10 n).length := Nat.length_toDigits_pos
  refine ⟨?_, (Nat.length_toDigits_le_iff (by decide) hpos).1 le_rfl⟩
  by_contra hc
  rw [not_le] at hc
  by_cases hone : (Nat.toDigits 10 n).length - 1 = 0
  · rw [hone] at hc
    omega
  · have := (Nat.length_toDigits_le_iff (by decide) (Nat.pos_of_ne_zero hone)).2 hc
    omega

/-- Above all doubles. -/
theorem top_lt : (2 : ℚ) ^ (1024 : ℤ) < 10 ^ (309 : ℤ) := by
  have h : 2 ^ 1024 < 10 ^ 309 := by decide +kernel
  exact_mod_cast h

/-- Below the reach of all doubles. -/
theorem lt_bottom : (10 : ℚ) ^ (-324 : ℤ) < 2 ^ (-1075 : ℤ) := by
  have h : 2 ^ 1075 < 10 ^ 324 := by decide +kernel
  have h' : (2 : ℚ) ^ (1075 : ℤ) < 10 ^ (324 : ℤ) := by exact_mod_cast h
  rw [zpow_neg, zpow_neg]
  exact inv_strictAnti₀ (two_zpow_pos _) h'

section Reading

variable {digits m : ℕ} {e q : ℤ}

/-- The size of a decimal in the reach of a double. -/
theorem Near.magnitude (hpos : 0 < digits) (hd : IsDouble m q) (hq : q ≤ 971)
    (hnear : Near (digits * 10 ^ e) m q) :
    -324 < e + (Nat.toDigits 10 digits).length ∧ e + (Nat.toDigits 10 digits).length ≤ 309 := by
  obtain ⟨hlow, hhigh⟩ := pow_length_toDigits hpos
  obtain ⟨k, hk⟩ : ∃ k, k = (Nat.toDigits 10 digits).length := ⟨_, rfl⟩
  have hk0 : 0 < k := hk ▸ Nat.length_toDigits_pos
  rw [← hk] at hlow hhigh ⊢
  have hp := ten_zpow_pos e
  have hp2 := two_zpow_pos q
  have htop : (digits * 10 ^ e : ℚ) < 10 ^ (309 : ℤ) := by
    have hbits : (m : ℚ) + 1 / 2 ≤ 2 ^ 53 := by
      have : (m : ℚ) + 1 ≤ 2 ^ 53 := by exact_mod_cast hd.bits
      linarith
    calc (digits * 10 ^ e : ℚ) ≤ (m + 1 / 2) * 2 ^ q := hnear.high
      _ ≤ 2 ^ 53 * 2 ^ q := mul_le_mul_of_nonneg_right hbits hp2.le
      _ ≤ 2 ^ 53 * 2 ^ (971 : ℤ) :=
        mul_le_mul_of_nonneg_left (zpow_le_zpow_right₀ (by norm_num) hq) (by positivity)
      _ = 2 ^ (1024 : ℤ) := by rw [← zpow_natCast, ← two_zpow_add]; rfl
      _ < 10 ^ (309 : ℤ) := top_lt
  have hbottom : (10 : ℚ) ^ (-324 : ℤ) < digits * 10 ^ e := by
    have hm : (1 : ℚ) / 2 ≤ m - below m q := by
      have h1 : (1 : ℚ) ≤ m := by exact_mod_cast hd.pos
      have h2 := below_le m q
      linarith
    calc (10 : ℚ) ^ (-324 : ℤ) < 2 ^ (-1075 : ℤ) := lt_bottom
      _ = 1 / 2 * 2 ^ (-1074 : ℤ) := by
        rw [show (-1075 : ℤ) = -1 + -1074 by rfl, two_zpow_add, zpow_neg_one, one_div]
      _ ≤ 1 / 2 * 2 ^ q :=
        mul_le_mul_of_nonneg_left (zpow_le_zpow_right₀ (by norm_num) hd.least) (by norm_num)
      _ ≤ (m - below m q) * 2 ^ q := mul_le_mul_of_nonneg_right hm hp2.le
      _ ≤ digits * 10 ^ e := hnear.low
  constructor
  · have h : (10 : ℚ) ^ (-324 : ℤ) < 10 ^ (e + k) := by
      refine lt_trans hbottom ?_
      rw [zpow_add₀ (by norm_num), zpow_natCast, mul_comm]
      exact mul_lt_mul_of_pos_left (by exact_mod_cast hhigh) hp
    exact (zpow_lt_zpow_iff_right₀ (by norm_num)).1 h
  · have h : (10 : ℚ) ^ (e + k - 1) < 10 ^ (309 : ℤ) := by
      refine lt_of_le_of_lt ?_ htop
      have hexp : e + k - 1 = e + ((k - 1 : ℕ) : ℤ) := by omega
      rw [hexp, zpow_add₀ (by norm_num), zpow_natCast, mul_comm]
      exact mul_le_mul_of_nonneg_right (by exact_mod_cast hlow) hp.le
    have := (zpow_lt_zpow_iff_right₀ (by norm_num : (1 : ℚ) < 10)).1 h
    omega

/-- Through whole numbers of any size. -/
theorem ofScientific_of_near (hpos : 0 < digits) (hd : IsDouble m q) (hq : q ≤ 971)
    (hnear : Near (digits * 10 ^ e) m q) :
    UnpackedFloat.ofScientific Format.binary64 digits e = .finite .positive m q hd.pos := by
  obtain ⟨hlow, hhigh⟩ := hnear.magnitude hpos hd hq
  have hlen : (Nat.toDigits 10 digits).length - 1 ≤ digits.log2 := by
    rw [Nat.le_log2 hpos.ne']
    exact le_trans (Nat.pow_le_pow_left (by decide) _) (pow_length_toDigits hpos).1
  have hguard : ¬ e > 2 ^ Format.binary64.exponentBits := by
    change ¬ e > 2048
    omega
  have hguard' : ¬ e < -((2 ^ Format.binary64.exponentBits : ℤ) + digits.log2) := by
    change ¬ e < -(2048 + (digits.log2 : ℤ))
    omega
  unfold UnpackedFloat.ofScientific
  rw [dif_neg hpos.ne', if_neg hguard, if_neg hguard']
  split
  · rename_i he
    refine mul_of_near _ _ ?_ hd ?_
    · have h1 : 0 < 10 ^ e.toNat := by positivity
      rw [Nat.shiftLeft_eq]
      change 2 ^ 52 ≤ digits * 2 ^ 53 * 10 ^ e.toNat
      nlinarith [Nat.mul_le_mul hpos h1]
    · have hexp : (10 : ℚ) ^ e = 10 ^ e.toNat := by
        rw [← zpow_natCast, Int.toNat_of_nonneg he]
      have hshift : ((digits <<< 53 : ℕ) : ℚ) * 2 ^ (-(53 : ℕ) : ℤ) = digits := by
        rw [Nat.shiftLeft_eq, zpow_neg, zpow_natCast]
        push_cast
        exact mul_inv_cancel_right₀ (by norm_num) _
      change Near (((digits <<< 53 : ℕ) : ℚ) * 2 ^ (-(53 : ℕ) : ℤ) * _) m q
      rw [hshift]
      push_cast
      rw [mul_one, ← hexp]
      exact hnear
  · rename_i he
    refine div_of_near _ _ hd ?_
    have hexp : (10 : ℚ) ^ e = (10 ^ (-e).toNat)⁻¹ := by
      rw [← zpow_natCast, Int.toNat_of_nonneg (by omega), ← zpow_neg, neg_neg]
    push_cast
    rw [mul_one, mul_one, div_eq_mul_inv, ← hexp]
    exact hnear

/-- Either way, exact doubles or whole numbers of any size. -/
theorem floatOfScientific_of_near (hpos : 0 < digits) (hd : IsDouble m q) (hq : q ≤ 971)
    (hnear : Near (digits * 10 ^ e) m q) {down : Bool} (hdown : down = true ↔ e < 0) :
    Float.ofScientific digits down e.natAbs = double m q hd.pos := by
  unfold Float.ofScientific
  split
  · rename_i hsmall
    obtain ⟨hs₁, hm₁, hv₁⟩ := stands_ofNat hpos hsmall.1
    have hsize : e.natAbs < Float.exactlyRepresentablePowersOfTen.size := by
      change e.natAbs < 23
      omega
    obtain ⟨hs₂, hm₂, hv₂⟩ := stands_power hsize
    cases down with
    | false =>
      have he : ¬ e < 0 := by simpa using hdown
      have hexp : (10 : ℚ) ^ e = 10 ^ e.natAbs := by
        rw [← zpow_natCast, Int.natAbs_of_nonneg (by omega)]
      refine hs₁.mul hs₂ (by nlinarith) hd ?_
      rw [hv₁, hv₂, ← hexp]
      exact hnear
    | true =>
      have he : e < 0 := by simpa using hdown
      have hexp : (10 : ℚ) ^ e = (10 ^ e.natAbs)⁻¹ := by
        rw [← zpow_natCast, ← zpow_neg]
        congr 1
        omega
      refine hs₁.div hs₂ hd ?_
      rw [hv₁, hv₂, div_eq_mul_inv, ← hexp]
      exact hnear
  · have hexp : (if down then Int.negOfNat e.natAbs else Int.ofNat e.natAbs) = e := by
      cases down with
      | false =>
        have he : ¬ e < 0 := by simpa using hdown
        change (e.natAbs : ℤ) = e
        omega
      | true =>
        have he : e < 0 := by simpa using hdown
        rw [if_pos rfl, Int.negOfNat_eq]
        change -(e.natAbs : ℤ) = e
        omega
    dsimp only
    rw [hexp]
    change Float.ofModel (Float.Model.pack
      (UnpackedFloat.ofScientific Format.binary64 digits e)) = _
    rw [ofScientific_of_near hpos hd hq hnear]
    rfl

/-- **Reading is correct rounding.** A positive decimal in the reach of a double is read as it. -/
theorem scaleFloat_of_near {x : Float} (hpos : 0 < digits) (hx : Stands x m q)
    (hnear : Near (digits * 10 ^ e) m q) : scaleFloat digits e = x := by
  obtain ⟨hd, hq⟩ := hx.isDouble
  obtain ⟨hlow, hhigh⟩ := hnear.magnitude hpos hd hq
  rw [hx.eq_double hd.pos]
  have hzero : (digits == 0) = false := beq_eq_false_iff_ne.2 hpos.ne'
  unfold scaleFloat
  rw [hzero]
  dsimp only
  rw [if_neg (by decide), if_neg (by omega), if_neg (by omega)]
  split
  · rename_i he
    exact floatOfScientific_of_near hpos hd hq hnear (by simpa using he)
  · rename_i he
    exact floatOfScientific_of_near hpos hd hq hnear (by simpa using he)

end Reading

end TileDepot.Decimal
