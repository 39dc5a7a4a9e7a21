import Mathlib.Tactic.IntervalCases
import TileDepot.Text.Bytes

/-!
# The bytes of texts

Texts with the same bytes are the same, and the bytes of two texts in a row are those of the first
and then those of the second. Reading the bytes of a text gives back the text
(`toTextLossy_ofText`): each character is read from its own bytes, whatever comes after them
(`scan_encodeChar`).
-/

namespace TileDepot.Bytes

theorem toList_loop (bs : ByteArray) (i : Nat) (r : List UInt8) :
    ByteArray.toList.loop bs i r = r.reverse ++ bs.data.toList.drop i := by
  have hsize : bs.data.toList.length = bs.size := rfl
  induction h : bs.size - i generalizing i r with
  | zero =>
      unfold ByteArray.toList.loop
      rw [if_neg (by omega), List.drop_eq_nil_of_le (by omega), List.append_nil]
  | succ n ih =>
      have hlt : i < bs.size := by omega
      unfold ByteArray.toList.loop
      have hlt' : i < bs.data.toList.length := hlt
      rw [if_pos hlt, ih (i + 1) _ (by omega), List.drop_eq_getElem_cons hlt', List.reverse_cons,
        List.append_assoc]
      congr 2
      simp [ByteArray.get!, hlt]

theorem ofText_eq (s : String) : ofText s = s.toUTF8.data.toList := by
  unfold ofText ByteArray.toList
  rw [toList_loop]
  rfl

/-- Texts with the same bytes are the same. -/
theorem ofText_inj {a b : String} (h : ofText a = ofText b) : a = b := by
  rw [ofText_eq, ofText_eq] at h
  exact String.toByteArray_inj.mp (ByteArray.ext (Array.toList_inj.mp h))

theorem ofText_eq_iff {a b : String} : ofText a = ofText b ↔ a = b :=
  ⟨ofText_inj, congrArg ofText⟩

/-! ## Reading what was written -/

theorem ofText_ofList (cs : List Char) :
    ofText (String.ofList cs) = cs.flatMap String.utf8EncodeChar := by
  rw [ofText_eq]
  show (String.ofList cs).toByteArray.data.toList = _
  rw [String.toByteArray_ofList]
  unfold List.utf8Encode
  simp

theorem lead_one {n : Nat} (h : n < 128) : lead (UInt8.ofNat n) = .char (Char.ofNat n) := by
  interval_cases n <;> rfl

theorem lead_two {n : Nat} (h : 2 ≤ n) (h' : n < 32) :
    lead (UInt8.ofNat (n + 192)) = .unfinished ⟨1, n, 0x80, 0xBF⟩ := by
  interval_cases n <;> rfl

theorem lead_three {n : Nat} (h : n < 16) :
    lead (UInt8.ofNat (n + 224)) = .unfinished
      ⟨2, n, if n = 0 then 0xA0 else 0x80, if n = 13 then 0x9F else 0xBF⟩ := by
  interval_cases n <;> rfl

theorem lead_four {n : Nat} (h : n < 5) :
    lead (UInt8.ofNat (n + 240)) = .unfinished
      ⟨3, n, if n = 0 then 0x90 else 0x80, if n = 4 then 0x8F else 0xBF⟩ := by
  interval_cases n <;> rfl

/-- A byte of the form `10xxxxxx` that may stand in its place goes on with the character. -/
theorem scan_more {missing value n : Nat} {low high : UInt8} (hn : n < 64)
    (hlow : low.toNat ≤ n + 128) (hhigh : n + 128 ≤ high.toNat) (bs : Bytes) :
    scan (some ⟨missing, value, low, high⟩) (UInt8.ofNat (n + 128) :: bs) =
      if missing ≤ 1 then some (Char.ofNat (64 * value + n)) :: scan none bs
      else scan (some ⟨missing - 1, 64 * value + n, 0x80, 0xBF⟩) bs := by
  have hbyte : (UInt8.ofNat (n + 128)).toNat = n + 128 :=
    UInt8.toNat_ofNat_of_lt' (Nat.lt_of_lt_of_le (Nat.add_lt_add_right hn 128) (by decide))
  have hin : (decide (low ≤ UInt8.ofNat (n + 128)) && decide (UInt8.ofNat (n + 128) ≤ high))
      = true := by
    rw [Bool.and_eq_true, decide_eq_true_eq, decide_eq_true_eq, UInt8.le_iff_toNat_le,
      UInt8.le_iff_toNat_le, hbyte]
    exact ⟨hlow, hhigh⟩
  rw [scan]
  dsimp only
  rw [if_pos hin, hbyte, Nat.add_sub_cancel]

theorem scan_next {missing value n : Nat} (hn : n < 64) (bs : Bytes) :
    scan (some ⟨missing, value, 0x80, 0xBF⟩) (UInt8.ofNat (n + 128) :: bs) =
      if missing ≤ 1 then some (Char.ofNat (64 * value + n)) :: scan none bs
      else scan (some ⟨missing - 1, 64 * value + n, 0x80, 0xBF⟩) bs :=
  @scan_more missing value n 0x80 0xBF hn (show 128 ≤ _ by omega) (show _ ≤ 191 by omega) bs

/-- **What was written for a character is read as that character.** -/
theorem scan_encodeChar (c : Char) (bs : Bytes) :
    scan none (String.utf8EncodeChar c ++ bs) = some c :: scan none bs := by
  have hvalid : c.val.toNat < 0xD800 ∨ 0xDFFF < c.val.toNat ∧ c.val.toNat < 0x110000 := c.valid
  have hchar : Char.ofNat c.val.toNat = c := Char.ofNat_toNat c
  unfold String.utf8EncodeChar
  dsimp only
  generalize c.val.toNat = n at hvalid hchar ⊢
  subst hchar
  split
  · rw [List.singleton_append, scan, lead_one (by omega)]
  split
  · show scan none (UInt8.ofNat (n / 64 % 32 + 192) :: UInt8.ofNat (n % 64 + 128) :: bs) = _
    rw [scan, lead_two (by omega) (by omega)]
    dsimp only
    rw [scan_next (Nat.mod_lt n (by decide)), if_pos (Nat.le_refl 1),
      show 64 * (n / 64 % 32) + n % 64 = n by omega]
  split
  · -- the second byte is not any: there are no overlong forms, and no surrogates
    have hlow : (if n / 4096 % 16 = 0 then 0xA0 else 0x80 : UInt8).toNat ≤ n / 64 % 64 + 128 := by
      split
      · show 160 ≤ _
        omega
      · show 128 ≤ _
        omega
    have hhigh : n / 64 % 64 + 128 ≤ (if n / 4096 % 16 = 13 then 0x9F else 0xBF : UInt8).toNat := by
      split
      · show _ ≤ 159
        omega
      · show _ ≤ 191
        omega
    show scan none (UInt8.ofNat (n / 4096 % 16 + 224) :: UInt8.ofNat (n / 64 % 64 + 128) ::
      UInt8.ofNat (n % 64 + 128) :: bs) = _
    rw [scan, lead_three (by omega)]
    dsimp only
    rw [scan_more (Nat.mod_lt _ (by decide)) hlow hhigh, if_neg (by decide),
      scan_next (Nat.mod_lt n (by decide)), if_pos (by decide),
      show 64 * (64 * (n / 4096 % 16) + n / 64 % 64) + n % 64 = n by omega]
  · -- nor are there characters beyond the last one
    have hlow : (if n / 262144 % 8 = 0 then 0x90 else 0x80 : UInt8).toNat
        ≤ n / 4096 % 64 + 128 := by
      split
      · show 144 ≤ _
        omega
      · show 128 ≤ _
        omega
    have hhigh : n / 4096 % 64 + 128
        ≤ (if n / 262144 % 8 = 4 then 0x8F else 0xBF : UInt8).toNat := by
      split
      · show _ ≤ 143
        omega
      · show _ ≤ 191
        omega
    show scan none (UInt8.ofNat (n / 262144 % 8 + 240) :: UInt8.ofNat (n / 4096 % 64 + 128) ::
      UInt8.ofNat (n / 64 % 64 + 128) :: UInt8.ofNat (n % 64 + 128) :: bs) = _
    rw [scan, lead_four (by omega)]
    dsimp only
    rw [scan_more (Nat.mod_lt _ (by decide)) hlow hhigh, if_neg (by decide),
      scan_next (Nat.mod_lt _ (by decide)), if_neg (by decide),
      scan_next (Nat.mod_lt n (by decide)), if_pos (by decide),
      show 64 * (64 * (64 * (n / 262144 % 8) + n / 4096 % 64) + n / 64 % 64) + n % 64 = n by omega]

/-- **A text that was written as bytes is read from them.** -/
theorem toTextLossy_ofText (s : String) : toTextLossy (ofText s) = s := by
  have hscan : ∀ cs : List Char, scan none (cs.flatMap String.utf8EncodeChar) = cs.map some := by
    intro cs
    induction cs with
    | nil => rfl
    | cons c cs ih => rw [List.flatMap_cons, scan_encodeChar, ih, List.map_cons]
  have hchars : decodeLossy (s.toList.flatMap String.utf8EncodeChar) = s.toList := by
    unfold decodeLossy
    rw [hscan, List.map_map]
    exact List.map_id _
  unfold toTextLossy
  rw [← String.ofList_toList (s := s), ofText_ofList, hchars]

end TileDepot.Bytes
