import Mathlib.Tactic.IntervalCases
import TileDepot.Proofs.Text.Encoding
import TileDepot.Url.Form

/-!
# Form-encoded queries

What a form writes is read back as it was (`formPairs_formQuery`), whatever the texts are. The bytes
of the writing are looked at one by one: a byte is written as itself, as a plus sign, or as a percent
sign with two digits, and none of these has a separator in it.
-/

namespace TileDepot.Url

/-! ## One byte -/

/-- The bytes of what a form writes for one byte. -/
def formBytes (b : UInt8) : Bytes :=
  (formEncodeBytes [b]).flatMap String.utf8EncodeChar

/-- A plus sign stands for a blank. -/
def readPlus (b : UInt8) : UInt8 :=
  if b == 0x2B then 0x20 else b

theorem forall_byte {p : UInt8 → Prop} (h : ∀ n < 256, p (UInt8.ofNat n)) (b : UInt8) : p b := by
  rw [← UInt8.ofNat_toNat (x := b)]
  exact h _ (UInt8.toNat_lt b)

theorem separators_not_mem (b : UInt8) : 0x26 ∉ formBytes b ∧ 0x3D ∉ formBytes b := by
  revert b
  refine forall_byte ?_
  decide +kernel

/-- A byte is written as one byte, which says it by itself, or as three, which say its digits. -/
theorem formBytes_cases (b : UInt8) :
    (formBytes b).map readPlus = [b] ∧ b ≠ 0x25 ∨
      (formBytes b).map readPlus = [0x25, UInt8.ofNat (Bytes.upperDigit (b.toNat / 16)).toNat,
        UInt8.ofNat (Bytes.upperDigit (b.toNat % 16)).toNat] := by
  revert b
  refine forall_byte ?_
  decide +kernel

theorem hexValue_upperDigit {n : Nat} (h : n < 16) :
    Bytes.hexValue? (Char.ofNat (UInt8.ofNat (Bytes.upperDigit n).toNat).toNat) = some n := by
  interval_cases n <;> rfl

theorem percentDecode_cons {b : UInt8} (h : b ≠ 0x25) (bs : Bytes) :
    percentDecode (b :: bs) = b :: percentDecode bs := by
  match bs with
  | [] => rfl
  | [_] => rfl
  | _ :: _ :: _ => rw [percentDecode, if_neg (by simpa using h)]

/-- **What is written for a byte is read as that byte**, whatever comes after it. -/
theorem percentDecode_formBytes (b : UInt8) (bs : Bytes) :
    percentDecode ((formBytes b).map readPlus ++ bs) = b :: percentDecode bs := by
  rcases formBytes_cases b with ⟨hself, hb⟩ | hdigits
  · rw [hself, List.singleton_append, percentDecode_cons hb]
  · have hlt : b.toNat < 256 := UInt8.toNat_lt b
    rw [hdigits, List.cons_append, List.cons_append, List.cons_append, List.nil_append,
      percentDecode, if_pos (by decide), hexValue_upperDigit (by omega),
      hexValue_upperDigit (Nat.mod_lt _ (by decide))]
    dsimp only
    rw [Nat.div_add_mod, UInt8.ofNat_toNat]

/-! ## One text -/

theorem utf8_formEncode (s : String) :
    (formEncode s).flatMap String.utf8EncodeChar = (Bytes.ofText s).flatMap formBytes := by
  unfold formEncode formEncodeBytes formBytes
  rw [List.flatMap_assoc]
  simp [formEncodeBytes]

theorem separators_not_mem_text (s : String) :
    0x26 ∉ (Bytes.ofText s).flatMap formBytes ∧ 0x3D ∉ (Bytes.ofText s).flatMap formBytes := by
  rw [List.mem_flatMap, List.mem_flatMap]
  constructor
  · rintro ⟨b, _, hmem⟩
    exact (separators_not_mem b).1 hmem
  · rintro ⟨b, _, hmem⟩
    exact (separators_not_mem b).2 hmem

theorem formDecode_formBytes (s : String) :
    formDecode ((Bytes.ofText s).flatMap formBytes) = s := by
  have hdecode : ∀ bs : Bytes, percentDecode ((bs.flatMap formBytes).map readPlus) = bs := by
    intro bs
    induction bs with
    | nil => rfl
    | cons b bs ih => rw [List.flatMap_cons, List.map_append, percentDecode_formBytes, ih]
  show Bytes.toTextLossy (percentDecode (((Bytes.ofText s).flatMap formBytes).map readPlus)) = s
  rw [hdecode, Bytes.toTextLossy_ofText]

/-! ## One pair -/

theorem splitAt_single {separator : UInt8} {bs : Bytes} (h : separator ∉ bs) :
    splitAt separator bs = [bs] := by
  induction bs with
  | nil => rfl
  | cons b bs ih =>
      rw [List.mem_cons, not_or] at h
      rw [splitAt, if_neg (by simpa using Ne.symm h.1), ih h.2]

theorem ofText_formQuery (name value : String) :
    Bytes.ofText (formQuery name value) = (Bytes.ofText name).flatMap formBytes ++
      0x3D :: (Bytes.ofText value).flatMap formBytes := by
  unfold formQuery
  rw [Bytes.ofText_ofList, List.flatMap_append, List.flatMap_cons, utf8_formEncode,
    utf8_formEncode]
  rfl

theorem formPair_cut {name : Bytes} (h : 0x3D ∉ name) (value : Bytes) :
    formPair (name ++ 0x3D :: value) = (formDecode name, formDecode value) := by
  have hother : ∀ b ∈ name, (b != 0x3D) = true := by
    intro b hb
    rw [bne_iff_ne]
    exact fun heq => h (heq ▸ hb)
  unfold formPair
  rw [List.takeWhile_append_of_pos hother, List.takeWhile_cons_of_neg (by decide),
    List.dropWhile_append_of_pos hother, List.dropWhile_cons_of_neg (by decide), List.append_nil]
  rfl

/-- **A query of one pair is read as that pair.** -/
theorem formPairs_formQuery (name value : String) :
    formPairs (formQuery name value) = [(name, value)] := by
  obtain ⟨hname, hequals⟩ := separators_not_mem_text name
  have hvalue := (separators_not_mem_text value).1
  have hseparator : 0x26 ∉ (Bytes.ofText name).flatMap formBytes ++
      0x3D :: (Bytes.ofText value).flatMap formBytes := by
    rw [List.mem_append, List.mem_cons]
    rintro (hin | hin | hin)
    · exact hname hin
    · exact absurd hin (by decide)
    · exact hvalue hin
  unfold formPairs
  rw [ofText_formQuery, splitAt_single hseparator, List.filter_cons_of_pos (by simp),
    List.filter_nil, List.map_singleton, formPair_cut hequals, formDecode_formBytes,
    formDecode_formBytes]

/-- The text that every query of a run begins with. -/
theorem formQuery_task (value : String) :
    formQuery "task_id" value = "task_id=" ++ String.ofList (formEncode value) := by
  have hname : formEncode "task_id" = "task_id".toList := by
    unfold formEncode
    rw [Bytes.ofText_eq]
    decide
  unfold formQuery
  refine String.toList_inj.mp ?_
  rw [hname, String.toList_append]
  simp only [String.toList_ofList]
  rfl

end TileDepot.Url
