import TileDepot.Config.Loading
import TileDepot.Proofs.Config.Lines
import TileDepot.Proofs.Decimal.Layout
import TileDepot.Proofs.Text.Numeral

/-!
# Written values are read as they were

Each kind of value beside the text that is written for it: numbers, sizes, switches, names, shares
and lists. The text is tidy and its rule reads the value back. Texts of one's own are written as
they are, so of them it has to be assumed that they are plain.
-/

namespace TileDepot.Config

open Text (Solid)

/-! ## Words -/

/-- A word of letters, digits, points and hyphens. -/
def IsWord (v : String) : Prop :=
  ∀ c ∈ v.toList, (c.isAlphanum || c == '.' || c == '-') = true

instance (v : String) : Decidable (IsWord v) :=
  List.decidableBAll _ v.toList

theorem wordChar_range {c : Char} (h : (c.isAlphanum || c == '.' || c == '-') = true) :
    45 ≤ c.toNat ∧ c.toNat ≤ 122 ∧ c.toNat ≠ 92 := by
  have hval : c.toNat = c.val.toNat := rfl
  rcases Bool.or_eq_true _ _ ▸ h with h | h
  · rcases Bool.or_eq_true _ _ ▸ h with h | h
    · simp [Char.isAlphanum, Char.isAlpha, Char.isUpper, Char.isLower, Char.isDigit,
        UInt32.le_iff_toNat_le] at h
      omega
    · rw [beq_iff_eq.1 h]
      decide
  · rw [beq_iff_eq.1 h]
    decide

theorem IsWord.tidy {v : String} (h : IsWord v) : Tidy v := by
  have hvisible : ∀ c ∈ v.toList, Text.isBlank c = false := by
    intro c hc
    have := wordChar_range (h c hc)
    simp only [Text.isBlank, Bool.or_eq_false_iff, Bool.and_eq_false_iff, decide_eq_false_iff_not,
      beq_eq_false_iff_ne]
    omega
  have hne : ∀ c ∈ v.toList, ∀ d : Char, (d.toNat < 45 ∨ d.toNat = 92) → c ≠ d := by
    rintro c hc d hd rfl
    have := wordChar_range (h c hc)
    omega
  refine ⟨⟨?_, ?_⟩, Text.trim_eq_self_iff.2 ⟨?_, ?_⟩⟩
  · intro c hc
    exact ⟨hne c hc _ (by decide), hne c hc _ (by decide), hne c hc _ (by decide)⟩
  · intro c hc
    have hc' := List.mem_of_mem_head? hc
    exact ⟨hne c hc' _ (by decide), hne c hc' _ (by decide)⟩
  · exact fun c hc => hvisible c (List.mem_of_mem_head? hc)
  · exact fun c hc => hvisible c (List.mem_of_getLast? hc)

theorem wordChar_of_digit {c : Char} (h : c.isDigit = true) :
    (c.isAlphanum || c == '.' || c == '-') = true := by
  simp [Char.isAlphanum, h]

theorem tidy_empty : Tidy "" := IsWord.tidy (by decide)

/-- A text that is there is tidy if it is plain. -/
theorem tidy_solid {v : String} (h : Solid v) (hplain : Plain v) : Tidy v := ⟨hplain, h.trim⟩

/-! ## Numbers -/

theorem isWord_toString (n : Nat) : IsWord (toString n) := by
  intro c hc
  have htext : (toString n).toList = Nat.toDigits 10 n := Nat.toList_repr
  rw [htext] at hc
  exact wordChar_of_digit (Nat.isDigit_of_mem_toDigits (by decide) (by decide) hc)

theorem trimChars_toList {v : String} (h : Text.trim v = v) :
    Text.trimChars v.toList = v.toList := by
  have := congrArg String.toList h
  rwa [Text.trim, String.toList_ofList] at this

theorem natural_toString {n limit : Nat} (h : n < limit) :
    Rule.natural? limit (toString n) = some n := by
  have htext : (toString n).toList = Nat.toDigits 10 n := Nat.toList_repr
  rw [Rule.natural?, trimChars_toList (isWord_toString n).tidy.trim, htext]
  exact Text.natural?_toDigits h

theorem positive_toString {n limit : Nat} (hpos : 0 < n) (h : n < limit) :
    Rule.positive? limit (toString n) = some n := by
  rw [Rule.positive?, natural_toString h]
  simp [Option.filter, hpos]

theorem isWord_int (n : Int64) : IsWord (toString n.toInt) := by
  intro c hc
  rcases Text.isDigit_of_mem_repr (n := n.toInt) hc with h | rfl
  · exact wordChar_of_digit h
  · decide

theorem int64_toString (n : Int64) : Text.int64? (Text.trim (toString n.toInt)) = some n := by
  rw [(isWord_int n).tidy.trim]
  exact Text.int64?_toString n

/-! ## Sizes -/

/-- A size is the multiple of its unit that is written. -/
theorem ofBytes_divides (n : Nat) :
    n / (SizeUnit.ofBytes n).bytes * (SizeUnit.ofBytes n).bytes = n := by
  have hfits : ∀ u : SizeUnit, (decide (u.bytes ≤ n) && n % u.bytes == 0) = true →
      n / u.bytes * u.bytes = n := by
    intro u hu
    have hrest := beq_iff_eq.1 (Bool.and_eq_true _ _ ▸ hu).2
    exact Nat.div_mul_cancel (Nat.dvd_of_mod_eq_zero hrest)
  unfold SizeUnit.ofBytes
  dsimp only
  split
  · rename_i h
    exact hfits .giga h
  · split
    · rename_i h
      exact hfits .mega h
    · split
      · rename_i h
        exact hfits .kilo h
      · exact Nat.div_mul_cancel (Nat.one_dvd n)

theorem isWord_size (n : UInt64) : IsWord (formatSize n) := by
  intro c hc
  rw [formatSize, String.toList_append] at hc
  rcases List.mem_append.1 hc with hc | hc
  · exact isWord_toString _ c hc
  · have hsuffix : ∀ u : SizeUnit, IsWord u.suffix := by
      intro u
      cases u <;> decide
    exact hsuffix _ c hc

theorem toUpper_digits {ds : List Char} (h : Decimal.AllDigits ds) : ds.map Char.toUpper = ds := by
  have hkeep : ∀ c ∈ ds, c.toUpper = c := by
    intro c hc
    have hdigit : 48 ≤ c.val.toNat ∧ c.val.toNat ≤ 57 := by
      simpa [Char.isDigit, UInt32.le_iff_toNat_le] using h c hc
    have hlower : ¬ (c.val ≥ 'a'.val ∧ c.val ≤ 'z'.val) := by
      rw [ge_iff_le, UInt32.le_iff_toNat_le, UInt32.le_iff_toNat_le]
      change ¬ (97 ≤ c.val.toNat ∧ c.val.toNat ≤ 122)
      omega
    unfold Char.toUpper
    rw [dif_neg hlower]
  rw [List.map_congr_left hkeep, List.map_id']

theorem parseSize_format (n : UInt64) : parseSize? (formatSize n) = some n := by
  obtain ⟨u, hu⟩ : ∃ u, u = SizeUnit.ofBytes n.toNat := ⟨_, rfl⟩
  have hvalue := ofBytes_divides n.toNat
  rw [← hu] at hvalue
  have hdigits : Decimal.AllDigits (Nat.toDigits 10 (n.toNat / u.bytes)) :=
    Decimal.allDigits_digitChars _
  have htext : (formatSize n).toList =
      Nat.toDigits 10 (n.toNat / u.bytes) ++ u.suffix.toList := by
    rw [formatSize, String.toList_append, ← hu]
    exact congrArg (· ++ u.suffix.toList) Nat.toList_repr
  have hletter : ∀ c ∈ u.suffix.toList.head?, c.isDigit = false := by
    intro c hc
    cases u <;> cases hc <;> rfl
  have hsuffix : u.suffix.toList.map Char.toUpper = u.suffix.toList ∧
      SizeUnit.ofSuffix? (String.ofList (Text.trimChars u.suffix.toList)) = some u := by
    cases u <;> decide
  obtain ⟨hupper, hunit⟩ := hsuffix
  obtain ⟨htake, hdrop⟩ := Decimal.takeWhile_digits hdigits hletter
  have hbound : n.toNat < UInt64.size := n.toNat_lt
  unfold parseSize?
  rw [trimChars_toList (isWord_size n).tidy.trim, htext, List.map_append, toUpper_digits hdigits,
    hupper]
  dsimp only
  rw [htake, hdrop, Text.digits?_toDigits, hunit]
  change (if n.toNat / u.bytes * u.bytes < UInt64.size then
    some (UInt64.ofNat (n.toNat / u.bytes * u.bytes)) else none) = some n
  rw [hvalue, if_pos hbound, UInt64.ofNat_toNat]

/-! ## Shares -/

theorem isWord_plain {x : Float} {m : ℕ} {q : ℤ} (hx : Decimal.Stands x m q) :
    IsWord (Decimal.plain x) := by
  obtain ⟨whole, fraction, hform, -⟩ := Decimal.plain_form hx
  intro c hc
  rcases hform.chars.2 c hc with h | rfl
  · exact wordChar_of_digit h
  · decide

/-- A share is a positive double. -/
theorem stands_of_share {x : Float} (h : (decide (x > 0.0) && decide (x ≤ 100.0)) = true) :
    ∃ m q, Decimal.Stands x m q := by
  rw [Bool.and_eq_true, decide_eq_true_eq, decide_eq_true_eq] at h
  obtain ⟨hpos, htop⟩ := h
  have hzero : (0.0 : Float).toModel.unpack = .zero .positive := rfl
  have hhundred : (100.0 : Float).toModel.unpack =
      .finite .positive 7036874417766400 (-46) (by decide) := rfl
  have hpos' : (0.0 : Float).toModel.unpack.lt x.toModel.unpack = true := of_decide_eq_true hpos
  have htop' : x.toModel.unpack.le (100.0 : Float).toModel.unpack = true := of_decide_eq_true htop
  rw [hzero] at hpos'
  rw [hhundred] at htop'
  unfold Decimal.Stands
  cases hu : x.toModel.unpack with
  | finite s m q hm =>
    rw [hu] at hpos'
    cases s with
    | positive => exact ⟨m, q, hm, rfl⟩
    | negative => cases hpos'
  | infinity s =>
    rw [hu] at hpos' htop'
    cases s with
    | positive => cases htop'
    | negative => cases hpos'
  | notANumber =>
    rw [hu] at hpos'
    cases hpos'
  | zero s =>
    rw [hu] at hpos'
    cases hpos'

/-- A share survives being written and read. -/
theorem percentStep_plain {x : Float} (h : (decide (x > 0.0) && decide (x ≤ 100.0)) = true) :
    percentStep (Decimal.plain x) = .ok x := by
  obtain ⟨m, q, hx⟩ := stands_of_share h
  unfold percentStep
  rw [(isWord_plain hx).tidy.trim, Decimal.float_plain hx]
  dsimp only
  rw [if_pos h]

/-! ## Lists -/

/-- An item of a list with commas. -/
structure IsItem (i : String) : Prop extends Solid i where
  single : ',' ∉ i.toList

/-- The item that a piece of a list is, if it is not blank. -/
def item? (piece : List Char) : Option String :=
  let item := Text.trimChars piece
  if item.isEmpty then none else some (String.ofList item)

theorem splitList_eq (s : String) : splitList s = (Text.pieces ',' s.toList).filterMap item? := by
  rw [splitList, List.filterMap_map]
  rfl

/-- What a list is cut into are items. -/
theorem isItem_of_mem {s i : String} (h : i ∈ splitList s) : IsItem i := by
  rw [splitList_eq] at h
  obtain ⟨piece, hpiece, hi⟩ := List.mem_filterMap.1 h
  have hcomma := Text.not_mem_of_mem_pieces hpiece
  unfold item? at hi
  dsimp only at hi
  split at hi
  · cases hi
  · rename_i hne
    cases hi
    refine ⟨⟨?_, ?_⟩, ?_⟩
    · rw [Text.trim_eq_self_iff, String.toList_ofList]
      exact Text.edges_trimChars piece
    · intro hempty
      apply hne
      rw [List.isEmpty_iff, ← String.toList_ofList (l := Text.trimChars piece), hempty]
      rfl
    · rw [String.toList_ofList]
      intro hm
      have hsub : (Text.trimChars piece).Sublist piece :=
        (Text.dropBlanksEnd_prefix _).sublist.trans (List.dropWhile_sublist _)
      exact hcomma (hsub.subset hm)

/-- A piece of a joined list is an item with at most one blank before it. -/
theorem item_lead {lead : List Char} (hlead : lead = [] ∨ lead = [' ']) {i : String}
    (hi : IsItem i) : item? (lead ++ i.toList) = some i := by
  have hsame : Text.trimChars (lead ++ i.toList) = Text.trimChars i.toList := by
    rcases hlead with rfl | rfl
    · rfl
    · rw [Text.trimChars, Text.dropBlanks, List.singleton_append,
        List.dropWhile_cons_of_pos (by decide)]
      rfl
  have hne : i.toList.isEmpty = false := List.isEmpty_eq_false_iff.2 hi.toList_ne_nil
  unfold item?
  rw [hsame, trimChars_toList hi.trim]
  dsimp only
  rw [hne, String.ofList_toList]
  rfl

theorem splitList_lead {items : List String} (h : ∀ i ∈ items, IsItem i) {lead : List Char}
    (hlead : lead = [] ∨ lead = [' ']) :
    (Text.pieces ',' (lead ++ (joined items).toList)).filterMap item? = items := by
  have hcomma : ',' ∉ lead := by rcases hlead with rfl | rfl <;> decide
  induction items generalizing lead with
  | nil => rcases hlead with rfl | rfl <;> decide
  | cons i items ih =>
      have hi := h i List.mem_cons_self
      have hitems := fun i' hi' => h i' (List.mem_cons_of_mem _ hi')
      have hpiece := item_lead hlead hi
      have hsingle : ',' ∉ lead ++ i.toList := by simp [hcomma, hi.single]
      cases items with
      | nil =>
        have htext : (joined [i]).toList = i.toList := by simp [joined]
        rw [htext, Text.pieces_last hsingle]
        simp [hpiece]
      | cons i' items =>
        have htext : lead ++ (joined (i :: i' :: items)).toList =
            (lead ++ i.toList) ++ ',' :: ([' '] ++ (joined (i' :: items)).toList) := by
          simp [joined, String.intercalate_cons_cons]
        rw [htext, Text.pieces_cons hsingle, List.filterMap_cons, hpiece,
          ih hitems (.inr rfl) (by decide)]

/-- **A list survives being joined and cut.** -/
theorem splitList_joined {items : List String} (h : ∀ i ∈ items, IsItem i) :
    splitList (joined items) = items := by
  rw [splitList_eq]
  exact splitList_lead h (.inl rfl)

/-- A joined list has nothing to trim. -/
theorem trim_joined {items : List String} (h : ∀ i ∈ items, IsItem i) :
    Text.trim (joined items) = joined items := by
  rw [Text.trim_eq_self_iff]
  induction items with
  | nil =>
      refine ⟨?_, ?_⟩
      all_goals
        intro c hc
        cases hc
  | cons i items ih =>
      have hi := Text.trim_eq_self_iff.1 (h i List.mem_cons_self).trim
      cases items with
      | nil => simpa [joined] using hi
      | cons i' items =>
        obtain ⟨-, hlast⟩ := ih fun i' hi' => h i' (List.mem_cons_of_mem _ hi')
        have hvisible := (h i' (by simp)).visible
        obtain ⟨d, ds, hds⟩ : ∃ d ds, (joined (i' :: items)).toList = d :: ds := by
          apply List.exists_cons_of_ne_nil
          intro hnil
          apply hvisible
          cases items <;> simp_all [joined, String.intercalate_cons_cons]
        have htext : (joined (i :: i' :: items)).toList =
            (i.toList ++ [',', ' ']) ++ (joined (i' :: items)).toList := by
          simp [joined, String.intercalate_cons_cons]
        obtain ⟨c, cs, hcs⟩ :=
          List.exists_cons_of_ne_nil (h i List.mem_cons_self).toList_ne_nil
        rw [htext]
        refine ⟨?_, ?_⟩
        · rw [hcs]
          intro e he
          exact hi.1 e (by rw [hcs]; exact he)
        · intro e he
          apply hlast e
          rw [hds] at he ⊢
          rwa [List.getLast?_append_cons] at he

end TileDepot.Config
