import TileDepot.Proofs.Text.Encoding

/-!
# How many characters bytes have

Bytes that are no text are read, too, with a replacement for each broken piece. A byte more is never
more than one character more (`length_scan_cons`), whatever it breaks or completes, and two pieces
have no more characters together than one by one (`length_scan_append`). So the replacements do not
make a text longer than it has bytes.
-/

namespace TileDepot.Bytes

/-- The next byte can only be one that begins no character. -/
def Unfinished.Sane (p : Unfinished) : Prop :=
  0x80 ≤ p.low ∧ p.high ≤ 0xBF

theorem lead_broken {b : UInt8} (hlow : 0x80 ≤ b) (hhigh : b ≤ 0xBF) : lead b = .broken := by
  rw [UInt8.le_iff_toNat_le] at hlow hhigh
  have hascii : ¬ b < 0x80 := by
    rw [UInt8.lt_iff_toNat_lt]
    exact Nat.not_lt_of_le hlow
  have hbroken : b < 0xC2 := by
    rw [UInt8.lt_iff_toNat_lt]
    exact Nat.lt_of_le_of_lt hhigh (by decide)
  unfold lead
  rw [if_neg hascii, if_pos hbroken]

theorem lead_sane {b : UInt8} {p : Unfinished} (h : lead b = .unfinished p) : p.Sane := by
  unfold lead at h
  repeat' split at h
  all_goals cases h
  all_goals
    unfold Unfinished.Sane
    dsimp only
    decide

/-- A byte goes on with the character before it, or breaks that character and is read anew. -/
theorem scan_unfinished_cons (p : Unfinished) (b : UInt8) (bs : Bytes) :
    scan (some p) (b :: bs) =
      if (p.low ≤ b && b ≤ p.high) = true then
        if p.missing ≤ 1 then some (Char.ofNat (64 * p.value + (b.toNat - 0x80))) :: scan none bs
        else scan (some ⟨p.missing - 1, 64 * p.value + (b.toNat - 0x80), 0x80, 0xBF⟩) bs
      else none :: scan none (b :: bs) := by
  rw [scan, scan]

theorem sane_next (missing value : Nat) : Unfinished.Sane ⟨missing, value, 0x80, 0xBF⟩ :=
  ⟨UInt8.le_refl _, UInt8.le_refl _⟩

/-- A character that is not complete is one broken piece at most. -/
theorem length_scan_unfinished {p : Unfinished} (hp : p.Sane) (bs : Bytes) :
    (scan (some p) bs).length ≤ (scan none bs).length + 1 := by
  induction bs generalizing p with
  | nil => exact Nat.le_refl 1
  | cons b bs ih =>
      rw [scan_unfinished_cons]
      split
      · -- the byte goes on with the character, so by itself it is broken
        rename_i hin
        rw [Bool.and_eq_true, decide_eq_true_eq, decide_eq_true_eq] at hin
        have hlead := lead_broken (UInt8.le_trans hp.1 hin.1) (UInt8.le_trans hin.2 hp.2)
        have hself : scan none (b :: bs) = none :: scan none bs := by
          rw [scan, hlead]
        rw [hself, List.length_cons]
        split
        · exact Nat.le_succ _
        · exact Nat.le_succ_of_le (ih (sane_next _ _))
      · exact Nat.le_refl _

/-- **A byte more is one character more at most.** -/
theorem length_scan_cons (b : UInt8) (bs : Bytes) :
    (scan none (b :: bs)).length ≤ (scan none bs).length + 1 := by
  rw [scan]
  split
  · exact Nat.le_refl _
  · exact Nat.le_refl _
  · rename_i p hlead
    exact length_scan_unfinished (lead_sane hlead) bs

/-- **Two pieces have no more characters together than one by one.** -/
theorem length_scan_append {o : Option Unfinished} (ho : ∀ p ∈ o, p.Sane) (bs rest : Bytes) :
    (scan o (bs ++ rest)).length ≤ (scan o bs).length + (scan none rest).length := by
  induction bs generalizing o with
  | nil =>
      cases o with
      | none => exact Nat.le_add_left _ _
      | some p =>
          rw [List.nil_append, Nat.add_comm]
          exact length_scan_unfinished (ho p rfl) rest
  | cons b bs ih =>
      have hnone := @ih none (by simp)
      have hanew : (scan none (b :: (bs ++ rest))).length
          ≤ (scan none (b :: bs)).length + (scan none rest).length := by
        rw [scan, scan]
        cases hlead : lead b with
        | char | broken =>
            dsimp only
            rw [List.length_cons, List.length_cons]
            omega
        | unfinished p => exact ih (by simpa using lead_sane hlead)
      cases o with
      | none => exact hanew
      | some p =>
          rw [List.cons_append, scan_unfinished_cons, scan_unfinished_cons]
          split
          · split
            · rw [List.length_cons, List.length_cons]
              omega
            · exact ih (by simpa using sane_next _ _)
          · rw [List.length_cons, List.length_cons]
            omega

/-- A slash at the end is the last character, whatever is broken before it. -/
theorem scan_slash {o : Option Unfinished} (ho : ∀ p ∈ o, p.Sane) (bs : Bytes) :
    (scan o (bs ++ [0x2F])).getLast? = some (some '/') := by
  induction bs generalizing o with
  | nil =>
      cases o with
      | none => rfl
      | some p =>
          have hout : ¬ (p.low ≤ 0x2F && 0x2F ≤ p.high) = true := by
            rw [Bool.and_eq_true, decide_eq_true_eq]
            exact fun hin => absurd (UInt8.le_trans (ho p rfl).1 hin.1) (by decide)
          rw [List.nil_append, scan_unfinished_cons, if_neg hout]
          rfl
  | cons b bs ih =>
      have hlast : ∀ c, (c :: scan none (bs ++ [0x2F])).getLast? = some (some '/') := by
        intro c
        rw [List.getLast?_cons, @ih none (by simp)]
        rfl
      have hanew : (scan none (b :: (bs ++ [0x2F]))).getLast? = some (some '/') := by
        rw [scan]
        cases hlead : lead b with
        | char | broken => exact hlast _
        | unfinished p => exact ih (by simpa using lead_sane hlead)
      cases o with
      | none => exact hanew
      | some p =>
          rw [List.cons_append, scan_unfinished_cons]
          split
          · split
            · exact hlast _
            · exact ih (by simpa using sane_next _ _)
          · rw [List.getLast?_cons, hanew]
            rfl

theorem length_toTextLossy (bs : Bytes) : (toTextLossy bs).toList.length = (scan none bs).length := by
  unfold toTextLossy decodeLossy
  rw [String.toList_ofList, List.length_map]

end TileDepot.Bytes
