import TileDepot.Decimal.Layout
import TileDepot.Proofs.Decimal.Shortest

/-!
# The plain layout reads back

The plain layout of a decimal has digits, perhaps a point and digits behind it, and stands for the
same number (`positional_form`). Reading takes such a numeral apart where the layout put it
together, so a positive double survives being written and read (`float_plain`).
-/

namespace TileDepot.Decimal

open Text

/-! ## Digits -/

theorem digitsValue_append (n : ℕ) (xs ys : List Char) :
    digitsValue n (xs ++ ys) = digitsValue (digitsValue n xs) ys := by
  simp [digitsValue]

theorem digitsValue_zeros (n k : ℕ) : digitsValue n (zeros k) = n * 10 ^ k := by
  induction k generalizing n with
  | zero => simp [zeros, digitsValue]
  | succ k ih =>
      have hstep : digitsValue n (zeros (k + 1)) = digitsValue (10 * n) (zeros k) := rfl
      rw [hstep, ih, pow_succ]
      ring

theorem digitsValue_digitChars (n : ℕ) : digitsValue 0 (digitChars n) = n :=
  Nat.ofDigitChars_toDigits (by decide) (by decide)

/-- All characters are digits. -/
def AllDigits (cs : List Char) : Prop :=
  ∀ c ∈ cs, c.isDigit = true

theorem allDigits_digitChars (n : ℕ) : AllDigits (digitChars n) :=
  fun _ hc => Nat.isDigit_of_mem_toDigits (by decide) (by decide) hc

theorem allDigits_zeros (k : ℕ) : AllDigits (zeros k) := by
  intro c hc
  rw [List.eq_of_mem_replicate hc]
  rfl

theorem AllDigits.append {xs ys : List Char} (hx : AllDigits xs) (hy : AllDigits ys) :
    AllDigits (xs ++ ys) := by
  intro c hc
  rcases List.mem_append.1 hc with h | h
  · exact hx c h
  · exact hy c h

/-! ## The form of a numeral -/

/-- `cs` is the numeral `whole` with `fraction` behind a point, if there is any fraction. -/
def IsNumeral (cs whole fraction : List Char) : Prop :=
  whole ≠ [] ∧ AllDigits whole ∧ AllDigits fraction ∧
    cs = whole ++ (if fraction.isEmpty then [] else '.' :: fraction)

/-- **The plain layout keeps the number.** -/
theorem positional_form (d : Scaled) : ∃ whole fraction, IsNumeral (positional d []) whole fraction ∧
    ((digitsValue 0 (whole ++ fraction) : ℕ) : ℚ) * 10 ^ (-(fraction.length : ℤ)) =
      d.digits * 10 ^ d.exponent := by
  have hdigits := allDigits_digitChars d.digits
  have hvalue := digitsValue_digitChars d.digits
  have hnil : digitChars d.digits ≠ [] := Nat.toDigits_ne_nil
  unfold positional
  dsimp only
  split
  · rename_i he
    refine ⟨digitChars d.digits ++ zeros d.exponent.toNat, [], ⟨?_, ?_, ?_, ?_⟩, ?_⟩
    · simp [hnil]
    · exact hdigits.append (allDigits_zeros _)
    · intro c hc
      cases hc
    · simp
    · rw [List.append_nil, digitsValue_append, hvalue, digitsValue_zeros, zpow_split (by norm_num)
        d.exponent]
      have hzero : (-d.exponent).toNat = 0 := by omega
      rw [hzero]
      simp
  · rename_i he
    have hexp : -(((-d.exponent).toNat : ℕ) : ℤ) = d.exponent := by omega
    have hpos : 0 < (-d.exponent).toNat := by omega
    generalize (-d.exponent).toNat = fraction at hexp hpos
    split
    · -- the point falls between the digits
      rename_i hlt
      obtain ⟨k, hk⟩ : ∃ k, k = (digitChars d.digits).length - fraction := ⟨_, rfl⟩
      rw [← hk]
      have hlen : ((digitChars d.digits).drop k).length = fraction := by
        rw [List.length_drop]
        omega
      refine ⟨(digitChars d.digits).take k, (digitChars d.digits).drop k, ⟨?_, ?_, ?_, ?_⟩, ?_⟩
      · rw [← List.length_pos_iff, List.length_take]
        omega
      · exact fun c hc => hdigits c (List.mem_of_mem_take hc)
      · exact fun c hc => hdigits c (List.mem_of_mem_drop hc)
      · have hne : ((digitChars d.digits).drop k).isEmpty = false := by
          rw [List.isEmpty_eq_false_iff, ← List.length_pos_iff]
          omega
        simp [hne]
      · rw [List.take_append_drop, hvalue, hlen, hexp]
    · -- the digits begin behind the point
      rename_i hge
      have hlen : (zeros (fraction - (digitChars d.digits).length) ++
          digitChars d.digits).length = fraction := by
        rw [List.length_append, zeros, List.length_replicate]
        omega
      refine ⟨['0'], zeros (fraction - (digitChars d.digits).length) ++ digitChars d.digits,
        ⟨?_, ?_, ?_, ?_⟩, ?_⟩
      · simp
      · intro c hc
        rw [List.mem_singleton.1 hc]
        rfl
      · exact (allDigits_zeros _).append hdigits
      · simp [hnil]
      · have hlead : digitsValue 0 (['0'] ++ (zeros (fraction - (digitChars d.digits).length) ++
            digitChars d.digits)) = d.digits := by
          rw [digitsValue_append, digitsValue_append, digitsValue_zeros]
          have hzero : digitsValue 0 ['0'] = 0 := rfl
          rw [hzero, zero_mul, hvalue]
        rw [hlead, hlen, hexp]

/-! ## Reading a numeral -/

theorem takeWhile_digits {ds r : List Char} (hds : AllDigits ds)
    (hr : ∀ c ∈ r.head?, c.isDigit = false) :
    (ds ++ r).takeWhile Char.isDigit = ds ∧ (ds ++ r).dropWhile Char.isDigit = r := by
  induction ds with
  | nil =>
      cases r with
      | nil => exact ⟨rfl, rfl⟩
      | cons c r =>
        have hc := hr c rfl
        simp [hc]
  | cons d ds ih =>
      have hd := hds d List.mem_cons_self
      have htail := ih fun c hc => hds c (List.mem_cons_of_mem _ hc)
      simp [hd, htail]

/-- A digit is none of the letters that the words for numbers begin with. -/
theorem toLower_digit {c : Char} (hc : c.isDigit = true) : c.toLower = c := by
  have h : 48 ≤ c.val.toNat ∧ c.val.toNat ≤ 57 := by
    simpa [Char.isDigit, UInt32.le_iff_toNat_le] using hc
  have hupper : ¬ (c.val ≥ 'A'.val ∧ c.val ≤ 'Z'.val) := by
    rw [ge_iff_le, UInt32.le_iff_toNat_le, UInt32.le_iff_toNat_le]
    change ¬ (65 ≤ c.val.toNat ∧ c.val.toNat ≤ 90)
    omega
  unfold Char.toLower
  rw [dif_neg hupper]

theorem magnitude_numeral {cs whole fraction : List Char} (h : IsNumeral cs whole fraction) :
    magnitude? cs =
      some (scaleFloat (digitsValue 0 (whole ++ fraction)) (-(fraction.length : ℤ))) := by
  obtain ⟨hne, hwhole, hfraction, rfl⟩ := h
  obtain ⟨c, r, rfl⟩ := List.exists_cons_of_ne_nil hne
  have hc := hwhole c List.mem_cons_self
  have hword : ∀ w : Char, w.isDigit = false → ∀ ws : List Char,
      (((c :: r) ++ (if fraction.isEmpty then [] else '.' :: fraction)).map Char.toLower ==
        w :: ws) = false := by
    intro w hw ws
    rw [beq_eq_false_iff_ne]
    intro heq
    rw [List.cons_append, List.map_cons, toLower_digit hc] at heq
    have := (List.cons.inj heq).1
    rw [this, hw] at hc
    cases hc
  have hinf := hword 'i' (by decide) ['n', 'f']
  have hinfinity := hword 'i' (by decide) ['n', 'f', 'i', 'n', 'i', 't', 'y']
  have hnan := hword 'n' (by decide) ['a', 'n']
  have h1 : "inf".toList = ['i', 'n', 'f'] := by decide
  have h2 : "infinity".toList = ['i', 'n', 'f', 'i', 'n', 'i', 't', 'y'] := by decide
  have h3 : "nan".toList = ['n', 'a', 'n'] := by decide
  unfold magnitude?
  rw [h1, h2, h3]
  dsimp only
  rw [hinf, hinfinity, hnan]
  cases fraction with
  | nil =>
      obtain ⟨htake, hdrop⟩ := takeWhile_digits (r := []) hwhole (by simp)
      simp only [List.isEmpty_nil, if_true, spanDigits, htake, hdrop]
      simp [exponentPart?]
  | cons f fs =>
      obtain ⟨htake, hdrop⟩ := takeWhile_digits (r := '.' :: f :: fs) hwhole (by simp)
      obtain ⟨htake', hdrop'⟩ := takeWhile_digits (r := []) hfraction (by simp)
      rw [List.append_nil] at htake' hdrop'
      simp only [List.isEmpty_cons, Bool.false_eq_true, if_false, spanDigits, htake, hdrop, htake',
        hdrop']
      simp [exponentPart?]

/-- The characters of a numeral. -/
theorem IsNumeral.chars {cs whole fraction : List Char} (h : IsNumeral cs whole fraction) :
    (∃ c r, cs = c :: r ∧ c.isDigit = true) ∧ ∀ c ∈ cs, c.isDigit = true ∨ c = '.' := by
  obtain ⟨hne, hwhole, hfraction, rfl⟩ := h
  obtain ⟨c, r, rfl⟩ := List.exists_cons_of_ne_nil hne
  refine ⟨⟨c, _, rfl, hwhole c List.mem_cons_self⟩, ?_⟩
  intro d hd
  rcases List.mem_append.1 hd with h | h
  · exact .inl (hwhole d h)
  · split at h
    · cases h
    · rcases List.mem_cons.1 h with rfl | h
      · exact .inr rfl
      · exact .inl (hfraction d h)

section Plain

variable {x : Float} {m : ℕ} {q : ℤ}

/-- A positive double is written as a numeral in its reach. -/
theorem plain_form (hx : Stands x m q) : ∃ whole fraction,
    IsNumeral (plain x).toList whole fraction ∧
      Near ((digitsValue 0 (whole ++ fraction) : ℕ) * 10 ^ (-(fraction.length : ℤ))) m q := by
  obtain ⟨hd, hq⟩ := hx.isDouble
  have hnear := (shortest_near .up hd).2
  obtain ⟨whole, fraction, hform, hvalue⟩ := positional_form (shortest .up m q (narrow m q))
  have hzero : (m == 0) = false := beq_eq_false_iff_ne.2 hd.pos.ne'
  have hplain : (plain x).toList = positional (shortest .up m q (narrow m q)) [] := by
    unfold plain
    rw [hx.ofFloat]
    dsimp only
    rw [hzero]
    simp [sign, narrow]
  refine ⟨whole, fraction, hplain ▸ hform, ?_⟩
  rw [hvalue]
  exact hnear

/-- **A positive double survives being written and read.** -/
theorem float_plain (hx : Stands x m q) : float? (plain x) = some x := by
  obtain ⟨hd, hq⟩ := hx.isDouble
  obtain ⟨whole, fraction, hform, hnear⟩ := plain_form hx
  have hpos : 0 < digitsValue 0 (whole ++ fraction) := by
    have h := hnear.pos hd.pos
    by_contra hc
    have hzero : digitsValue 0 (whole ++ fraction) = 0 := by omega
    rw [hzero] at h
    simp at h
  have hread : magnitude? (plain x).toList = some x := by
    rw [magnitude_numeral hform, scaleFloat_of_near hpos hx hnear]
  obtain ⟨⟨c, r, hcs, hc⟩, -⟩ := hform.chars
  unfold float?
  split
  · rename_i heq
    rw [hcs] at heq
    rw [(List.cons.inj heq).1] at hc
    cases hc
  · rename_i heq
    rw [hcs] at heq
    rw [(List.cons.inj heq).1] at hc
    cases hc
  · exact hread

end Plain

end TileDepot.Decimal
