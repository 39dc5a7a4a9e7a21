import TileDepot.Text.Integer

/-!
# Numerals

Reading a numeral undoes writing it, for the words that tile addresses are made of
(`uint32?_toString`, `int64?_toString`). So different numbers have different numerals, and what
stands between two numerals can be told from them: there are only digits in them, and a sign in
front (`isDigit_of_mem_repr`).

More is read than is written: signs and zeros in front. `Unsigned` and `Signed` say what, and reading
accepts just this, as far as the number fits the word (`uint32?_eq_some_iff`, `int64?_eq_some_iff`).
-/

namespace TileDepot.Text

theorem digits?_toDigits (n : Nat) : digits? (Nat.toDigits 10 n) = some n := by
  have hall : (Nat.toDigits 10 n).all Char.isDigit = true :=
    List.all_eq_true.mpr fun c hc => Nat.isDigit_of_mem_toDigits (by decide) (by decide) hc
  have hvalue : digitsValue 0 (Nat.toDigits 10 n) = n :=
    Nat.ofDigitChars_toDigits (by decide) (by decide)
  unfold digits?
  rw [if_neg, hvalue]
  simp [hall, Nat.toDigits_ne_nil]

/-- A numeral does not begin with a sign. -/
theorem toDigits_cons (n : Nat) : ∃ c cs, Nat.toDigits 10 n = c :: cs ∧ c ≠ '+' ∧ c ≠ '-' := by
  cases hdigits : Nat.toDigits 10 n with
  | nil => exact absurd hdigits Nat.toDigits_ne_nil
  | cons c cs =>
      have hc : c.isDigit = true :=
        Nat.isDigit_of_mem_toDigits (by decide) (by decide) (hdigits ▸ List.mem_cons_self)
      refine ⟨c, cs, rfl, ?_, ?_⟩
      all_goals
        rintro rfl
        exact absurd hc (by decide)

theorem natural?_toDigits {n limit : Nat} (h : n < limit) :
    natural? limit (Nat.toDigits 10 n) = some n := by
  obtain ⟨c, cs, hdigits, hplus, _⟩ := toDigits_cons n
  have hread := digits?_toDigits n
  rw [hdigits] at hread ⊢
  unfold natural?
  split
  · rename_i heq
    exact absurd (List.cons.inj heq).1 hplus
  · dsimp only
    rw [hread]
    simp [Option.filter, h]

theorem integer?_repr (n : Int) : integer? n.repr.toList = some n := by
  cases n with
  | ofNat n =>
      obtain ⟨c, cs, hdigits, hplus, hminus⟩ := toDigits_cons n
      have hread := digits?_toDigits n
      have htext : (Int.ofNat n).repr.toList = Nat.toDigits 10 n := Nat.toList_repr
      rw [htext]
      rw [hdigits] at hread ⊢
      unfold integer?
      split
      · rename_i heq
        exact absurd (List.cons.inj heq).1 hplus
      · rename_i heq
        exact absurd (List.cons.inj heq).1 hminus
      · rw [hread]
        rfl
  | negSucc n =>
      have htext : (Int.negSucc n).repr.toList = '-' :: Nat.toDigits 10 (n + 1) := by
        show ("-" ++ (n + 1).repr).toList = _
        rw [String.toList_append, Nat.toList_repr]
        rfl
      rw [htext]
      show (digits? (Nat.toDigits 10 (n + 1))).map (fun n => -Int.ofNat n) = _
      rw [digits?_toDigits]
      rfl

/-- A numeral has digits only, but for a sign. -/
theorem isDigit_of_mem_repr {n : Int} {c : Char} (h : c ∈ n.repr.toList) :
    c.isDigit = true ∨ c = '-' := by
  have hdigits : ∀ k, c ∈ Nat.toDigits 10 k → c.isDigit = true :=
    fun k => Nat.isDigit_of_mem_toDigits (by decide) (by decide)
  cases n with
  | ofNat k =>
      have htext : (Int.ofNat k).repr.toList = Nat.toDigits 10 k := Nat.toList_repr
      exact Or.inl (hdigits k (htext ▸ h))
  | negSucc k =>
      have htext : (Int.negSucc k).repr = "-" ++ (k + 1).repr := rfl
      rw [htext, String.toList_append, Nat.toList_repr] at h
      rcases List.mem_append.mp h with h | h
      · exact Or.inr (List.mem_singleton.mp h)
      · exact Or.inl (hdigits (k + 1) h)

/-! ## Words -/

theorem uint32?_toString (n : UInt32) : uint32? (toString n) = some n := by
  have htext : (toString n).toList = Nat.toDigits 10 n.toNat := Nat.toList_repr
  unfold uint32?
  rw [htext, natural?_toDigits n.toNat_lt]
  simp

theorem int64?_toString (n : Int64) : int64? (toString n) = some n := by
  have htext : (toString n).toList = n.toInt.repr.toList := rfl
  have hlow := n.le_toInt
  have hhigh := n.toInt_lt
  have hmin : Int64.minValue.toInt = -2 ^ 63 := by decide
  have hmax : Int64.maxValue.toInt = 2 ^ 63 - 1 := by decide
  unfold int64?
  rw [htext, integer?_repr, Option.bind_some, if_pos, Int64.ofInt_toInt]
  simp only [Bool.and_eq_true, decide_eq_true_eq]
  omega

theorem uint32_toString_inj {n m : UInt32} (h : toString n = toString m) : n = m := by
  have hread := uint32?_toString n
  rw [h, uint32?_toString] at hread
  exact (Option.some.inj hread).symm

theorem int64_toString_inj {n m : Int64} (h : toString n = toString m) : n = m := by
  have hread := int64?_toString n
  rw [h, int64?_toString] at hread
  exact (Option.some.inj hread).symm

/-! ## What a numeral is -/

/-- These are decimal digits, at least one, of this number. -/
structure Digits (cs : List Char) (n : Nat) : Prop where
  nonempty : cs ≠ []
  digits : ∀ c ∈ cs, '0' ≤ c ∧ c ≤ '9'
  value : Nat.ofDigitChars 10 cs 0 = n

/-- Digits of this number, perhaps with a plus sign. -/
inductive Unsigned (n : Nat) : List Char → Prop where
  | bare {cs : List Char} (digits : Digits cs n) : Unsigned n cs
  | plus {cs : List Char} (digits : Digits cs n) : Unsigned n ('+' :: cs)

/-- Digits with a sign or without one, of this integer. -/
inductive Signed : Int → List Char → Prop where
  | bare {cs : List Char} {n : Nat} (digits : Digits cs n) : Signed n cs
  | plus {cs : List Char} {n : Nat} (digits : Digits cs n) : Signed n ('+' :: cs)
  | minus {cs : List Char} {n : Nat} (digits : Digits cs n) : Signed (-n) ('-' :: cs)

theorem isDigit_iff (c : Char) : c.isDigit = true ↔ '0' ≤ c ∧ c ≤ '9' := by
  simp only [Char.isDigit, Bool.and_eq_true, decide_eq_true_eq]
  exact Iff.rfl

theorem digits?_eq_some_iff {cs : List Char} {n : Nat} : digits? cs = some n ↔ Digits cs n := by
  unfold digits?
  constructor
  · intro h
    split at h
    · cases h
    · rename_i hnot
      rw [Bool.or_eq_true, not_or, List.isEmpty_iff, Bool.not_eq_true, Bool.not_eq_false',
        List.all_eq_true] at hnot
      exact ⟨hnot.1, fun c hc => (isDigit_iff c).mp (hnot.2 c hc), Option.some.inj h⟩
  · rintro ⟨hnonempty, hdigits, hvalue⟩
    have hall : cs.all Char.isDigit = true :=
      List.all_eq_true.mpr fun c hc => (isDigit_iff c).mpr (hdigits c hc)
    rw [if_neg (by simp [hnonempty, hall])]
    exact congrArg some hvalue

/-- Digits do not begin with a sign. -/
theorem Digits.head {c : Char} {cs : List Char} {n : Nat} (h : Digits (c :: cs) n) :
    c ≠ '+' ∧ c ≠ '-' := by
  have hc := h.digits c List.mem_cons_self
  constructor
  · rintro rfl
    exact absurd hc (by decide)
  · rintro rfl
    exact absurd hc (by decide)

theorem natural?_eq_some_iff {limit n : Nat} {cs : List Char} :
    natural? limit cs = some n ↔ Unsigned n cs ∧ n < limit := by
  unfold natural?
  rw [Option.filter_eq_some_iff, decide_eq_true_eq, digits?_eq_some_iff]
  refine and_congr_left fun _ => ?_
  split
  · rename_i r
    constructor
    · exact .plus
    · rintro (hbare | hplus)
      · exact absurd rfl hbare.head.1
      · exact hplus
  · rename_i hno
    constructor
    · exact .bare
    · rintro (hbare | hplus)
      · exact hbare
      · exact absurd rfl (hno _)

theorem integer?_eq_some_iff {i : Int} {cs : List Char} : integer? cs = some i ↔ Signed i cs := by
  unfold integer?
  split
  · rw [Option.map_eq_some_iff]
    simp only [digits?_eq_some_iff]
    constructor
    · rintro ⟨n, hn, rfl⟩
      exact .plus hn
    · rintro (hbare | hplus)
      · exact absurd rfl hbare.head.1
      · exact ⟨_, hplus, rfl⟩
  · rw [Option.map_eq_some_iff]
    simp only [digits?_eq_some_iff]
    constructor
    · rintro ⟨n, hn, rfl⟩
      exact .minus hn
    · intro h
      cases h with
      | bare hbare => exact absurd rfl hbare.head.2
      | minus hminus => exact ⟨_, hminus, rfl⟩
  · rename_i hplus hminus
    rw [Option.map_eq_some_iff]
    simp only [digits?_eq_some_iff]
    constructor
    · rintro ⟨n, hn, rfl⟩
      exact .bare hn
    · intro h
      cases h with
      | bare hbare => exact ⟨_, hbare, rfl⟩
      | plus _ => exact absurd rfl (hplus _)
      | minus _ => exact absurd rfl (hminus _)

theorem uint32?_eq_some_iff {s : String} {n : UInt32} :
    uint32? s = some n ↔ Unsigned n.toNat s.toList := by
  unfold uint32?
  rw [Option.map_eq_some_iff]
  simp only [natural?_eq_some_iff]
  constructor
  · rintro ⟨k, ⟨hk, hlimit⟩, rfl⟩
    rw [UInt32.toNat_ofNat_of_lt' hlimit]
    exact hk
  · exact fun h => ⟨n.toNat, ⟨h, n.toNat_lt⟩, UInt32.ofNat_toNat⟩

theorem int64?_eq_some_iff {s : String} {n : Int64} :
    int64? s = some n ↔ Signed n.toInt s.toList := by
  have hmin : Int64.minValue.toInt = -2 ^ 63 := by decide
  have hmax : Int64.maxValue.toInt = 2 ^ 63 - 1 := by decide
  unfold int64?
  rw [Option.bind_eq_some_iff]
  simp only [integer?_eq_some_iff, hmin, hmax, Bool.and_eq_true, decide_eq_true_eq]
  constructor
  · rintro ⟨i, hi, hif⟩
    split at hif
    · rename_i hrange
      rw [← Option.some.inj hif, Int64.toInt_ofInt_of_le hrange.1 (by omega)]
      exact hi
    · cases hif
  · intro h
    have hlow := n.le_toInt
    have hhigh := n.toInt_lt
    exact ⟨n.toInt, h, by rw [if_pos (by omega), Int64.ofInt_toInt]⟩

end TileDepot.Text
