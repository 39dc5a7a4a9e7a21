import TileDepot.Proofs.Config.Values
import TileDepot.Proofs.Text.Trimming

/-!
# What a size is

A size is written in digits, behind which there may be blanks and a unit in any case. `SaysSize` is
this grammar with the number of bytes that a text stands for. Reading accepts just these texts, as
far as 64 bits hold the number, and gives just this number (`parseSize_eq_some_iff`). A text says one
number at most, so reading cannot give the rest of a number that is too large.

What is written is in this grammar as well, with the largest unit that leaves no rest
(`ofBytes_largest`), and reading undoes it (`sizes_keep_number`).
-/

namespace TileDepot.Config

/-- How a unit may be written, in upper case. -/
def SizeUnit.spellings : SizeUnit → List String
  | .byte => ["", "B"]
  | .kilo => ["K", "KB"]
  | .mega => ["M", "MB"]
  | .giga => ["G", "GB"]

/-- The text says this number of bytes. -/
inductive SaysSize : List Char → Nat → Prop where
  | intro {digits gap suffix : List Char} {k : Nat} {u : SizeUnit} : Text.Digits digits k →
      (∀ c ∈ gap, Text.isBlank c = true) →
      String.ofList (suffix.map Char.toUpper) ∈ u.spellings →
      SaysSize (digits ++ (gap ++ suffix)) (k * u.bytes)

theorem ofSuffix_eq_some_iff {s : String} {u : SizeUnit} :
    SizeUnit.ofSuffix? s = some u ↔ s ∈ u.spellings := by
  have hspelled : ∀ v : SizeUnit, s ∈ v.spellings → SizeUnit.ofSuffix? s = some v := by
    intro v hs
    cases v <;> rcases List.mem_pair.mp hs with rfl | rfl <;> rfl
  refine ⟨fun h => ?_, hspelled u⟩
  unfold SizeUnit.ofSuffix? at h
  repeat' split at h
  case isFalse => cases h
  all_goals
    rename_i hs
    cases h
    simpa [SizeUnit.spellings] using hs

/-! ## Upper case -/

/-- Only small letters change, and they become capital letters. -/
theorem toUpper_cases (c : Char) : c.toUpper = c ∨
    97 ≤ c.toNat ∧ c.toNat ≤ 122 ∧ c.toUpper.toNat = c.toNat - 32 := by
  by_cases h : 'a'.val ≤ c.val ∧ c.val ≤ 'z'.val
  · have hrange : 97 ≤ c.val.toNat ∧ c.val.toNat ≤ 122 := by
      simpa [UInt32.le_iff_toNat_le] using h
    refine Or.inr ⟨hrange.1, hrange.2, ?_⟩
    unfold Char.toUpper
    rw [dif_pos h]
    show (c.val + ('A'.val - 'a'.val)).toNat = c.val.toNat - 32
    rw [UInt32.toNat_add]
    show (c.val.toNat + 4294967264) % 4294967296 = _
    omega
  · exact Or.inl (dif_neg h)

theorem isDigit_eq_range (c : Char) : c.isDigit = decide (48 ≤ c.toNat ∧ c.toNat ≤ 57) := by
  simp only [Char.isDigit, ge_iff_le, UInt32.le_iff_toNat_le, Bool.decide_and]
  rfl

theorem isDigit_toUpper (c : Char) : c.toUpper.isDigit = c.isDigit := by
  rcases toUpper_cases c with h | ⟨hlow, hhigh, h⟩
  · rw [h]
  · rw [isDigit_eq_range, isDigit_eq_range, h, decide_eq_decide]
    omega

theorem not_isDigit_of_isBlank {c : Char} (h : Text.isBlank c = true) : c.isDigit = false := by
  have hnot : ¬ (48 ≤ c.toNat ∧ c.toNat ≤ 57) := by
    simp only [Text.isBlank, Bool.or_eq_true, Bool.and_eq_true, decide_eq_true_eq, beq_iff_eq] at h
    omega
  rw [isDigit_eq_range, decide_eq_false hnot]

theorem isBlank_toUpper (c : Char) : Text.isBlank c.toUpper = Text.isBlank c := by
  rcases toUpper_cases c with h | ⟨hlow, hhigh, h⟩
  · rw [h]
  · have hletter : ∀ n : Nat, 65 ≤ n → n ≤ 122 → ∀ d : Char, d.toNat = n →
        Text.isBlank d = false := by
      intro n hn hn' d hd
      simp only [Text.isBlank, Bool.or_eq_false_iff, Bool.and_eq_false_iff,
        decide_eq_false_iff_not, beq_eq_false_iff_ne]
      omega
    rw [hletter _ (by omega) (by omega) c rfl, hletter _ (by omega) (by omega) _ h]

theorem trimChars_toUpper (cs : List Char) :
    Text.trimChars (cs.map Char.toUpper) = (Text.trimChars cs).map Char.toUpper := by
  have hsame : Text.isBlank ∘ Char.toUpper = Text.isBlank := funext isBlank_toUpper
  simp only [Text.trimChars, Text.dropBlanksEnd, Text.dropBlanks, List.dropWhile_map,
    hsame, ← List.map_reverse]

/-! ## Reading -/

/-- A unit has neither blanks nor digits. -/
theorem unit_letters {suffix : List Char} {u : SizeUnit}
    (h : String.ofList (suffix.map Char.toUpper) ∈ u.spellings) :
    ∀ c ∈ suffix, Text.isBlank c = false ∧ c.isDigit = false := by
  have hspelled : ∀ v : SizeUnit, ∀ s ∈ v.spellings, ∀ c ∈ s.toList,
      Text.isBlank c = false ∧ c.isDigit = false := by
    intro v
    cases v <;> simp [SizeUnit.spellings] <;> decide
  intro c hc
  have hupper := hspelled u _ h c.toUpper
    (by rw [String.toList_ofList]; exact List.mem_map_of_mem hc)
  rwa [isBlank_toUpper, isDigit_toUpper] at hupper

/-- Blanks in front of a unit are trimmed off it. -/
theorem trimChars_unit {gap suffix : List Char} {u : SizeUnit}
    (hgap : ∀ c ∈ gap, Text.isBlank c = true)
    (h : String.ofList (suffix.map Char.toUpper) ∈ u.spellings) :
    Text.trimChars (gap ++ suffix) = suffix := by
  refine Text.trimmed_iff.mpr ⟨⟨gap, [], (List.append_nil _).symm, hgap, by simp⟩, ?_, ?_⟩
  · exact fun c hc => (unit_letters h c (List.mem_of_mem_head? hc)).1
  · exact fun c hc => (unit_letters h c (List.mem_of_getLast? hc)).1

/-- Upper case matters for the unit only. -/
theorem parseSize_eq {v : String} {t : List Char} (ht : Text.trimChars v.toList = t) :
    parseSize? v = (Text.digits? (t.takeWhile Char.isDigit)).bind fun n =>
      (SizeUnit.ofSuffix? (String.ofList
        ((Text.trimChars (t.dropWhile Char.isDigit)).map Char.toUpper))).bind fun unit =>
        if n * unit.bytes < UInt64.size then some (UInt64.ofNat (n * unit.bytes)) else none := by
  have hsame : Char.isDigit ∘ Char.toUpper = Char.isDigit := funext isDigit_toUpper
  have hdigits : Decimal.AllDigits (t.takeWhile Char.isDigit) :=
    fun c hc => List.all_eq_true.mp List.all_takeWhile c hc
  unfold parseSize?
  dsimp only
  rw [ht, List.takeWhile_map, List.dropWhile_map, hsame, toUpper_digits hdigits, trimChars_toUpper]
  rfl

/-- What is cut out of a text that says a size: its digits, and its unit in upper case. -/
theorem SaysSize.parts {t : List Char} {size : Nat} (h : SaysSize t size) :
    ∃ k u, Text.digits? (t.takeWhile Char.isDigit) = some k ∧
      SizeUnit.ofSuffix? (String.ofList
        ((Text.trimChars (t.dropWhile Char.isDigit)).map Char.toUpper)) = some u ∧
      size = k * u.bytes := by
  cases h with
  | @intro digits gap suffix k u hdigits hgap hsuffix =>
    have hletter : ∀ c ∈ (gap ++ suffix).head?, c.isDigit = false := by
      intro c hc
      rcases List.mem_append.mp (List.mem_of_mem_head? hc) with hc | hc
      · exact not_isDigit_of_isBlank (hgap c hc)
      · exact (unit_letters hsuffix c hc).2
    have hall : Decimal.AllDigits digits :=
      fun c hc => (Text.isDigit_iff c).mpr (hdigits.digits c hc)
    obtain ⟨htake, hdrop⟩ := Decimal.takeWhile_digits hall hletter
    rw [htake, hdrop, trimChars_unit hgap hsuffix]
    exact ⟨k, u, Text.digits?_eq_some_iff.mpr hdigits, ofSuffix_eq_some_iff.mpr hsuffix, rfl⟩

/-- A text says one size at most: digits and unit cannot be told apart in two ways. -/
theorem SaysSize.unique {t : List Char} {size size' : Nat} (h : SaysSize t size)
    (h' : SaysSize t size') : size = size' := by
  obtain ⟨k, u, hk, hu, rfl⟩ := h.parts
  obtain ⟨k', u', hk', hu', rfl⟩ := h'.parts
  cases hk.symm.trans hk'
  cases hu.symm.trans hu'
  rfl

/-- Behind the digits of a trimmed text blanks can only stand in front of the unit. -/
theorem blanks_before_unit {t : List Char} (ht : ∀ c ∈ t.getLast?, Text.isBlank c = false) :
    ∃ gap, t.dropWhile Char.isDigit = gap ++ Text.trimChars (t.dropWhile Char.isDigit) ∧
      ∀ c ∈ gap, Text.isBlank c = true := by
  obtain ⟨⟨gap, back, hrest, hgap, hback⟩, _⟩ :=
    Text.trimmed_iff.mp (Eq.refl (Text.trimChars (t.dropWhile Char.isDigit)))
  have hnone : back = [] := by
    by_contra hsome
    obtain ⟨c, hc⟩ := Option.ne_none_iff_exists'.mp (mt List.getLast?_eq_none_iff.mp hsome)
    have hlast : c ∈ t.getLast? := by
      rw [← List.takeWhile_append_dropWhile (p := Char.isDigit) (l := t), hrest,
        List.getLast?_append, List.getLast?_append, hc]
      rfl
    exact absurd (hback c (List.mem_of_getLast? hc)) (by simp [ht c hlast])
  rw [hnone, List.append_nil] at hrest
  exact ⟨gap, hrest, hgap⟩

/-- **What is read as a size**: the texts that say one, with the number that they say, if 64 bits
hold it. -/
theorem parseSize_eq_some_iff {v : String} {n : UInt64} :
    parseSize? v = some n ↔ SaysSize (Text.trimChars v.toList) n.toNat := by
  obtain ⟨t, ht⟩ : ∃ t, Text.trimChars v.toList = t := ⟨_, rfl⟩
  rw [parseSize_eq ht, ht]
  constructor
  · intro h
    obtain ⟨k, hk, h⟩ := Option.bind_eq_some_iff.mp h
    obtain ⟨u, hu, h⟩ := Option.bind_eq_some_iff.mp h
    split at h
    · rename_i hfits
      cases h
      obtain ⟨gap, hrest, hgap⟩ := blanks_before_unit (ht ▸ (Text.edges_trimChars v.toList).2)
      rw [UInt64.toNat_ofNat_of_lt' hfits,
        ← List.takeWhile_append_dropWhile (p := Char.isDigit) (l := t), hrest]
      exact .intro (Text.digits?_eq_some_iff.mp hk) hgap (ofSuffix_eq_some_iff.mp hu)
    · cases h
  · intro h
    obtain ⟨k, u, hk, hu, hsize⟩ := h.parts
    rw [hk, hu]
    show (if k * u.bytes < UInt64.size then some (UInt64.ofNat (k * u.bytes)) else none) = some n
    rw [← hsize, if_pos n.toNat_lt, UInt64.ofNat_toNat]

/-- A size that 64 bits do not hold is not read, rather than read as its rest. -/
theorem parseSize_too_large {v : String} {size : Nat}
    (h : SaysSize (Text.trimChars v.toList) size) (hlarge : 2 ^ 64 ≤ size) :
    parseSize? v = none := by
  cases hread : parseSize? v with
  | none => rfl
  | some n =>
    have hsame := (parseSize_eq_some_iff.mp hread).unique h
    have hfits := n.toNat_lt
    omega

/-! ## Writing -/

/-- The unit of a size other than zero is the largest that divides it. -/
theorem ofBytes_largest {n : Nat} (hn : n ≠ 0) {v : SizeUnit} (hv : v.bytes ∣ n) :
    v.bytes ≤ (SizeUnit.ofBytes n).bytes := by
  have hfits : ∀ u : SizeUnit, (decide (u.bytes ≤ n) && n % u.bytes == 0) = true ↔ u.bytes ∣ n := by
    intro u
    rw [Bool.and_eq_true, decide_eq_true_eq, beq_iff_eq, ← Nat.dvd_iff_mod_eq_zero]
    exact and_iff_right_of_imp (Nat.le_of_dvd (Nat.pos_of_ne_zero hn))
  have hbytes : SizeUnit.byte.bytes ≤ SizeUnit.kilo.bytes ∧
      SizeUnit.kilo.bytes ≤ SizeUnit.mega.bytes ∧ SizeUnit.mega.bytes ≤ SizeUnit.giga.bytes := by
    decide
  unfold SizeUnit.ofBytes
  dsimp only
  simp only [hfits]
  -- the units are tried from the largest down, so those before the one taken do not divide
  split_ifs with hgiga hmega hkilo
  · cases v <;> omega
  · cases v <;> first | exact absurd hv hgiga | omega
  · cases v <;> first | exact absurd hv hgiga | exact absurd hv hmega | omega
  · cases v <;>
      first | exact absurd hv hgiga | exact absurd hv hmega | exact absurd hv hkilo | omega

/-- No unit is written behind zero, though every unit divides it. -/
theorem ofBytes_zero : SizeUnit.ofBytes 0 = .byte := rfl

/-- **Sizes keep their number.** Each number of bytes is written in the largest unit that divides
it, zero without one, and read back as it was. Of all texts, those that say a number of 64 bits
when they are trimmed are read, as just this number; one that says more is refused and not cut
down to 64 bits. -/
theorem sizes_keep_number :
    (∀ n : UInt64, parseSize? (formatSize n) = some n ∧
      ∃ u : SizeUnit, formatSize n = toString (n.toNat / u.bytes) ++ u.suffix ∧
        u.bytes ∣ n.toNat ∧ (n = 0 → u = .byte) ∧
        (n ≠ 0 → ∀ v : SizeUnit, v.bytes ∣ n.toNat → v.bytes ≤ u.bytes)) ∧
    ∀ s : String,
      ((parseSize? s).isSome ↔ ∃ size < 2 ^ 64, SaysSize (Text.trimChars s.toList) size) ∧
      (∀ n : UInt64, parseSize? s = some n ↔ SaysSize (Text.trimChars s.toList) n.toNat) ∧
      (∀ size, SaysSize (Text.trimChars s.toList) size → 2 ^ 64 ≤ size → parseSize? s = none) := by
  refine ⟨fun n => ⟨parseSize_format n, SizeUnit.ofBytes n.toNat, rfl, ?_, ?_, ?_⟩,
    fun s => ⟨⟨?_, ?_⟩, fun n => parseSize_eq_some_iff, fun size => parseSize_too_large⟩⟩
  · exact Dvd.intro_left _ (ofBytes_divides n.toNat)
  · rintro rfl
    exact ofBytes_zero
  · intro hn v hv
    have hpos : n.toNat ≠ 0 := fun h => hn (UInt64.toNat_inj.mp h)
    exact ofBytes_largest hpos hv
  · intro h
    obtain ⟨n, hn⟩ := Option.isSome_iff_exists.mp h
    exact ⟨n.toNat, n.toNat_lt, parseSize_eq_some_iff.mp hn⟩
  · rintro ⟨size, hfits, h⟩
    have hread : parseSize? s = some (UInt64.ofNat size) := by
      rw [parseSize_eq_some_iff, UInt64.toNat_ofNat_of_lt' hfits]
      exact h
    rw [hread]
    rfl

end TileDepot.Config
