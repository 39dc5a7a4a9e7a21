import Mathlib
import TileDepot.Decimal.Binary64
import TileDepot.Proofs.Decimal.Rounding

/-!
# Doubles and their words

A double is a word of 64 bits: a sign, eleven bits of exponent and 52 bits of fraction. `Stands`
says which number `m · 2^q` a positive double is. Such a double is determined by `m` and `q`
(`Stands.eq_double`), and taking its word apart gives them back (`Stands.ofFloat`).
-/

namespace TileDepot.Decimal

open Float.Model Float.Model.UnpackedFloat

/-- The double `x` is `m · 2^q`. -/
def Stands (x : Float) (m : ℕ) (q : ℤ) : Prop :=
  ∃ h : 0 < m, x.toModel.unpack = .finite .positive m q h

/-- The double `m · 2^q`. -/
def double (m : ℕ) (q : ℤ) (h : 0 < m) : Float :=
  .ofModel (.pack (.finite .positive m q h))

/-! ## Fields of a word -/

section Fields

variable (b : BitVec 64) (s : Sign) (e : BitVec 11) (f : BitVec 52)

theorem mantissa_toNat : (@unpackMantissa Format.binary64 b).toNat = b.toNat % 2 ^ 52 := by
  simp [unpackMantissa, BitVec.extractLsb]

theorem exponent_toNat :
    (@unpackExponent Format.binary64 b).toNat = b.toNat / 2 ^ 52 % 2 ^ 11 := by
  simp [unpackExponent, BitVec.extractLsb, Nat.shiftRight_eq_div_pow]

theorem sign_toNat : (@unpackSign Format.binary64 b).toNat = b.toNat / 2 ^ 63 := by
  have hb : b.toNat < 2 ^ 64 := b.isLt
  simp [unpackSign, BitVec.extractLsb, Nat.shiftRight_eq_div_pow]
  omega

theorem components_toNat : (packComponents Format.binary64 s e f).toNat =
    s.toBitVec.toNat * 2 ^ 63 + e.toNat * 2 ^ 52 + f.toNat := by
  have hs : s.toBitVec.toNat < 2 := s.toBitVec.isLt
  have he : e.toNat < 2 ^ 11 := e.isLt
  have hf : f.toNat < 2 ^ 52 := f.isLt
  change (s.toBitVec ++ e ++ f).toNat = _
  rw [BitVec.toNat_append, BitVec.toNat_append, ← Nat.shiftLeft_add_eq_or_of_lt hf,
    ← Nat.shiftLeft_add_eq_or_of_lt he, Nat.shiftLeft_eq, Nat.shiftLeft_eq]
  ring

theorem sign_components : unpackSign (packComponents Format.binary64 s e f) = s.toBitVec := by
  have hs : s.toBitVec.toNat < 2 := s.toBitVec.isLt
  have he : e.toNat < 2 ^ 11 := e.isLt
  have hf : f.toNat < 2 ^ 52 := f.isLt
  apply BitVec.eq_of_toNat_eq
  rw [sign_toNat, components_toNat]
  omega

/-- A mantissa with its leading bit, which the word leaves out. -/
theorem leading_toNat : (1#1 ++ f).toNat = 2 ^ 52 + f.toNat := by
  rw [BitVec.toNat_append, ← Nat.shiftLeft_add_eq_or_of_lt f.isLt]
  simp [Nat.shiftLeft_eq]

end Fields

/-! ## Packing and unpacking -/

theorem log2_full {m : ℕ} (hm : 2 ^ 52 ≤ m) (hm' : m < 2 ^ 53) : m.log2 = 52 :=
  (Nat.log2_eq_iff (by omega)).2 ⟨hm, hm'⟩

/-- The word of a double with all its bits. -/
theorem pack_full {m : ℕ} {q : ℤ} (h : IsDouble m q) (hq : q ≤ 971) (hm : 2 ^ 52 ≤ m) (s : Sign) :
    pack Format.binary64 (.finite s m q h.pos) =
      packComponents Format.binary64 s (BitVec.ofNat 11 (q + 1075).toNat) (BitVec.ofNat 52 m) := by
  have hleast := h.least
  have hbias : (q + (Format.binary64.exponentBias : ℤ) + (52 : ℕ)) = q + 1075 := by
    change q + 1023 + 52 = q + 1075
    omega
  simp only [UnpackedFloat.pack, hbias, log2_full hm h.bits]
  rw [if_neg (by omega), if_pos (by rfl)]

/-- The word of a double below all others of its bits. -/
theorem pack_small {m : ℕ} (hm : 0 < m) (hm' : m < 2 ^ 52) (s : Sign) :
    pack Format.binary64 (.finite s m (-1074) hm) =
      packComponents Format.binary64 s 0#11 (BitVec.ofNat 52 m) := by
  have hlog : m.log2 < 52 := (Nat.log2_lt hm.ne').2 hm'
  have hbias : (-1074 + (Format.binary64.exponentBias : ℤ) + (52 : ℕ)) = 1 := rfl
  simp only [UnpackedFloat.pack, hbias]
  rw [if_neg (by decide), if_neg]
  intro h
  have : m.log2 + 1 = 53 := h
  omega

/-- **A double survives its word.** -/
theorem stands_double {m : ℕ} {q : ℤ} (h : IsDouble m q) (hq : q ≤ 971) :
    Stands (double m q h.pos) m q := by
  have hleast := h.least
  have hbits := h.bits
  refine ⟨h.pos, ?_⟩
  change unpack Format.binary64 (pack Format.binary64 (.finite .positive m q h.pos)) = _
  by_cases hm : 2 ^ 52 ≤ m
  · rw [pack_full h hq hm]
    have he : (BitVec.ofNat 11 (q + 1075).toNat).toNat = (q + 1075).toNat := by
      rw [BitVec.toNat_ofNat]
      omega
    have hones : BitVec.ofNat 11 (q + 1075).toNat ≠ -1#11 := by
      intro hc
      have := congrArg BitVec.toNat hc
      rw [he] at this
      simp at this
      omega
    have hzero : BitVec.ofNat 11 (q + 1075).toNat ≠ 0#11 := by
      intro hc
      have := congrArg BitVec.toNat hc
      rw [he] at this
      simp at this
      omega
    have hmant : (1#1 ++ BitVec.ofNat 52 m).toNat = m := by
      rw [leading_toNat, BitVec.toNat_ofNat]
      omega
    have hexp : (((q + 1075).toNat : ℕ) : ℤ) - ((Format.binary64.exponentBias : ℤ) + (52 : ℕ)) =
        q := by
      change (((q + 1075).toNat : ℕ) : ℤ) - (1023 + 52) = q
      omega
    simp only [UnpackedFloat.unpack, unpackMantissa_packComponents, unpackExponent_packComponents,
      sign_components, if_neg hones, if_neg hzero, he, hmant, hexp]
    rfl
  · obtain rfl : q = -1074 := h.full.resolve_left hm
    rw [pack_small h.pos (by omega)]
    have hmant : (BitVec.ofNat 52 m).toNat = m := by
      rw [BitVec.toNat_ofNat]
      omega
    have hnonzero : BitVec.ofNat 52 m ≠ 0#52 := by
      intro hc
      have := congrArg BitVec.toNat hc
      rw [hmant] at this
      exact absurd this h.pos.ne'
    have hones : (0#11 : BitVec 11) ≠ -1#11 := by decide
    simp only [UnpackedFloat.unpack, unpackMantissa_packComponents, unpackExponent_packComponents,
      sign_components, if_neg hones, if_true, dif_neg hnonzero, hmant]
    rfl

/-- The sign bit is clear, since a set one reads as negative. -/
theorem lt_of_positive {b : BitVec 64}
    (hsign : Sign.ofBitVec (@unpackSign Format.binary64 b) = .positive) : b.toNat < 2 ^ 63 := by
  have hs := sign_toNat b
  have hb : b.toNat < 2 ^ 64 := b.isLt
  by_contra hc
  have hone : @unpackSign Format.binary64 b = 1#1 := by
    apply BitVec.eq_of_toNat_eq
    rw [hs]
    simp
    omega
  rw [hone] at hsign
  cases hsign

/-- What unpacking a word to a positive number says of its fields. -/
theorem unpack_fields {b : BitVec 64} {m : ℕ} {q : ℤ} {h : 0 < m}
    (hu : unpack Format.binary64 b = .finite .positive m q h) :
    b.toNat < 2 ^ 63 ∧
      ((b.toNat / 2 ^ 52 = 0 ∧ m = b.toNat % 2 ^ 52 ∧ q = -1074) ∨
        (0 < b.toNat / 2 ^ 52 ∧ b.toNat / 2 ^ 52 < 2047 ∧ m = 2 ^ 52 + b.toNat % 2 ^ 52 ∧
          q = (b.toNat / 2 ^ 52 : ℕ) - 1075)) := by
  have he := exponent_toNat b
  have hf := mantissa_toNat b
  unfold UnpackedFloat.unpack at hu
  dsimp only at hu
  split at hu
  · split at hu <;> cases hu
  · rename_i hones
    have hne : b.toNat / 2 ^ 52 % 2 ^ 11 ≠ 2047 := by
      intro hc
      apply hones
      apply BitVec.eq_of_toNat_eq
      rw [he, hc]
      rfl
    split at hu
    · rename_i hzero
      split at hu
      · cases hu
      · injection hu with hsign hm hq
        have hlt := lt_of_positive hsign
        have hzero' : b.toNat / 2 ^ 52 % 2 ^ 11 = 0 := by
          rw [← he, hzero]
          rfl
        refine ⟨hlt, .inl ⟨by omega, by omega, ?_⟩⟩
        rw [← hq, hzero]
        rfl
    · rename_i hzero
      injection hu with hsign hm hq
      have hlt := lt_of_positive hsign
      have hne' : b.toNat / 2 ^ 52 % 2 ^ 11 ≠ 0 := by
        intro hc
        apply hzero
        apply BitVec.eq_of_toNat_eq
        rw [he, hc]
        rfl
      rw [leading_toNat, hf] at hm
      rw [he] at hq
      refine ⟨hlt, .inr ⟨by omega, by omega, hm.symm, ?_⟩⟩
      rw [← hq]
      change ((b.toNat / 2 ^ 52 % 2 ^ 11 : ℕ) : ℤ) - (1023 + 52) = _
      omega

section Stands

variable {x : Float} {m : ℕ} {q : ℤ}

theorem Stands.isDouble (h : Stands x m q) : IsDouble m q ∧ q ≤ 971 := by
  obtain ⟨hm, hu⟩ := h
  obtain ⟨hlt, ⟨h1, h2, h3⟩ | ⟨h1, h2, h3, h4⟩⟩ := unpack_fields hu
  · exact ⟨⟨hm, by omega, by omega, .inr h3⟩, by omega⟩
  · exact ⟨⟨hm, by omega, by omega, .inl (by omega)⟩, by omega⟩

/-- **A double is its number.** -/
theorem Stands.eq_double (h : Stands x m q) (hm : 0 < m) : x = double m q hm := by
  obtain ⟨hd, hq⟩ := h.isDouble
  obtain ⟨_, hu⟩ := h
  have hfields := unpack_fields hu
  suffices hword : x.toModel.toBits.toBitVec = pack Format.binary64 (.finite .positive m q hm) by
    obtain ⟨⟨bits, valid⟩⟩ := x
    have hbits : bits = UInt64.ofBitVec (pack Format.binary64 (.finite .positive m q hm)) := by
      rw [← hword]
    subst hbits
    rfl
  apply BitVec.eq_of_toNat_eq
  have hsign : Sign.positive.toBitVec.toNat = 0 := rfl
  obtain ⟨hlt, ⟨h1, h2, rfl⟩ | ⟨h1, h2, h3, h4⟩⟩ := hfields
  · rw [pack_small hm (by omega), components_toNat, hsign, BitVec.toNat_ofNat, BitVec.toNat_ofNat]
    omega
  · rw [pack_full hd hq (by omega), components_toNat, hsign, BitVec.toNat_ofNat,
      BitVec.toNat_ofNat]
    omega

/-- Taking a double apart gives its number. -/
theorem Stands.ofFloat (h : Stands x m q) :
    Binary64.ofFloat x = .finite false m q (decide (m = 2 ^ 52 ∧ -1074 < q)) := by
  obtain ⟨_, hu⟩ := h
  obtain ⟨hlt, hparts⟩ := unpack_fields hu
  have hbits : x.toBits.toNat = x.toModel.toBits.toBitVec.toNat := rfl
  unfold Binary64.ofFloat
  rw [hbits]
  generalize x.toModel.toBits.toBitVec.toNat = b at hlt hparts
  have hsign : (b / 0x8000000000000000 == 1) = false := by
    rw [beq_eq_false_iff_ne]
    omega
  dsimp only
  rw [hsign]
  obtain ⟨h1, h2, h3⟩ | ⟨h1, h2, h3, h4⟩ := hparts
  · have he : b / 0x10000000000000 % 2048 = 0 := by omega
    rw [he]
    have hnarrow : decide (m = 2 ^ 52 ∧ -1074 < q) = false := by
      rw [decide_eq_false_iff_not]
      omega
    rw [hnarrow, h2, h3]
    rfl
  · have he : b / 0x10000000000000 % 2048 = b / 2 ^ 52 := by omega
    have hnarrow : (b % 0x10000000000000 == 0 && decide (b / 2 ^ 52 > 1)) =
        decide (m = 2 ^ 52 ∧ -1074 < q) := by
      rw [Bool.eq_iff_iff, Bool.and_eq_true, beq_iff_eq, decide_eq_true_eq, decide_eq_true_eq]
      omega
    have hne : (b / 2 ^ 52 == 2047) = false := by
      rw [beq_eq_false_iff_ne]
      omega
    have hne' : (b / 2 ^ 52 == 0) = false := by
      rw [beq_eq_false_iff_ne]
      omega
    rw [he, hnarrow, hne, hne', h3, h4]
    rfl

end Stands

end TileDepot.Decimal
