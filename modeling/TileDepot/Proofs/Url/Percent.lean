import TileDepot.Proofs.Text.Counting
import TileDepot.Proofs.Url.Form
import TileDepot.Url.Percent

/-!
# Percent encoding undone

What is encoded for a part of a URL is read as the part itself would have been read
(`percentDecode_encoded`): encoded bytes come back, and a percent sign that stands before two digits
did so before, too. What a text is encoded to has characters of its own and those of `%XX`, and no
others (`mem_encodeText`).
-/

namespace TileDepot

namespace Bytes

/-! ## Characters of one byte -/

theorem utf8_ascii {c : Char} (h : c.toNat < 0x80) :
    String.utf8EncodeChar c = [UInt8.ofNat c.toNat] := by
  unfold String.utf8EncodeChar
  have hval : c.val.toNat ≤ 0x7F := Nat.le_of_lt_succ h
  dsimp only
  rw [if_pos hval]
  rfl

/-- A byte below 128 is a character, and not a part of one. -/
theorem of_mem_utf8 {c : Char} {b : UInt8} (hb : b ∈ String.utf8EncodeChar c)
    (hlow : b.toNat < 0x80) : c = Char.ofNat b.toNat := by
  by_cases hascii : c.toNat < 0x80
  · rw [utf8_ascii hascii, List.mem_singleton] at hb
    rw [hb, UInt8.toNat_ofNat_of_lt' (Nat.lt_trans hascii (by decide)), Char.ofNat_toNat]
  · -- all bytes of a longer form are 128 and more
    have hhigh : ∀ m : Nat, 128 ≤ m → m < 256 → b ≠ UInt8.ofNat m := by
      rintro m hm hm' rfl
      rw [UInt8.toNat_ofNat_of_lt' hm'] at hlow
      omega
    have hval : ¬ c.val.toNat ≤ 0x7F := fun hle => hascii (Nat.lt_succ_of_le hle)
    unfold String.utf8EncodeChar at hb
    dsimp only at hb
    rw [if_neg hval] at hb
    split at hb
    · simp only [List.mem_cons, List.not_mem_nil, or_false] at hb
      rcases hb with hb | hb <;> exact absurd hb (hhigh _ (by omega) (by omega))
    split at hb
    · simp only [List.mem_cons, List.not_mem_nil, or_false] at hb
      rcases hb with hb | hb | hb <;> exact absurd hb (hhigh _ (by omega) (by omega))
    · simp only [List.mem_cons, List.not_mem_nil, or_false] at hb
      rcases hb with hb | hb | hb | hb <;> exact absurd hb (hhigh _ (by omega) (by omega))

theorem toNat_char (b : UInt8) : (Char.ofNat b.toNat).toNat = b.toNat := by
  revert b
  exact Url.forall_byte (by decide +kernel)

theorem utf8_byte {b : UInt8} (h : b.toNat < 0x80) :
    String.utf8EncodeChar (Char.ofNat b.toNat) = [b] := by
  rw [utf8_ascii (by rw [toNat_char]; exact h), toNat_char, UInt8.ofNat_toNat]

/-- A byte below 128 at the front is the first character. -/
theorem first_of_ofText {cs : List Char} {b : UInt8} {bs : Bytes}
    (h : ofText (String.ofList cs) = b :: bs) (hlow : b.toNat < 0x80) :
    ∃ rest, cs = Char.ofNat b.toNat :: rest ∧ ofText (String.ofList rest) = bs := by
  rw [ofText_ofList] at h
  cases cs with
  | nil => cases h
  | cons c rest =>
      rw [List.flatMap_cons] at h
      cases hbytes : String.utf8EncodeChar c with
      | nil => exact absurd hbytes String.utf8EncodeChar_ne_nil
      | cons x xs =>
          rw [hbytes, List.cons_append] at h
          obtain ⟨rfl, hrest⟩ := List.cons.inj h
          have hc : c = Char.ofNat x.toNat := of_mem_utf8 (hbytes ▸ List.mem_cons_self) hlow
          rw [hc, utf8_byte hlow] at hbytes
          obtain ⟨_, rfl⟩ := List.cons.inj hbytes
          exact ⟨rest, by rw [hc], by rw [ofText_ofList, ← hrest, List.nil_append]⟩

/-- A byte below 128 at the end is the last character. -/
theorem last_of_ofText {cs : List Char} {before : Bytes} {b : UInt8}
    (h : ofText (String.ofList cs) = before ++ [b]) (hlow : b.toNat < 0x80) :
    ∃ init, cs = init ++ [Char.ofNat b.toNat] ∧ ofText (String.ofList init) = before := by
  rw [ofText_ofList] at h
  rcases List.eq_nil_or_concat cs with rfl | ⟨init, c, rfl⟩
  · simp at h
  rw [List.concat_eq_append] at *
  rw [List.flatMap_append, List.flatMap_singleton] at h
  have hlast := congrArg List.getLast? h
  rw [List.getLast?_concat, List.getLast?_append,
    Option.or_of_isSome (List.getLast?_isSome.mpr String.utf8EncodeChar_ne_nil)] at hlast
  have hc := of_mem_utf8 (List.mem_of_getLast? hlast) hlow
  rw [hc, utf8_byte hlow] at h
  exact ⟨init, by rw [hc], by rw [ofText_ofList, (List.append_inj' h rfl).1]⟩

end Bytes

namespace Url

/-! ## Reading two digits -/

/-- The value of a byte that is a hexadecimal digit. -/
def digitValue? (b : UInt8) : Option Nat :=
  Bytes.hexValue? (Char.ofNat b.toNat)

/-- The number that two hexadecimal digits in front stand for. -/
def pairValue? : Bytes → Option Nat
  | h :: l :: _ =>
    match digitValue? h, digitValue? l with
    | some x, some y => some (16 * x + y)
    | _, _ => none
  | _ => none

theorem percentDecode_percent (bs : Bytes) : percentDecode (0x25 :: bs) =
    match pairValue? bs with
    | some n => UInt8.ofNat n :: percentDecode (bs.drop 2)
    | none => 0x25 :: percentDecode bs := by
  match bs with
  | [] => rfl
  | [_] => rfl
  | h :: l :: r =>
      have hpair : percentDecode (0x25 :: h :: l :: r) =
          match digitValue? h, digitValue? l with
          | some x, some y => UInt8.ofNat (16 * x + y) :: percentDecode r
          | _, _ => 0x25 :: percentDecode (h :: l :: r) := by
        rw [percentDecode, if_pos (by decide)]
        rfl
      rw [hpair, pairValue?]
      cases digitValue? h <;> cases digitValue? l <;> rfl

/-! ## Encoded bytes -/

/-- What is written for a byte. -/
def encodedByte (set : EncodeSet) (b : UInt8) : Bytes :=
  if set b then
    [0x25, UInt8.ofNat (Bytes.upperDigit (b.toNat / 16)).toNat,
      UInt8.ofNat (Bytes.upperDigit (b.toNat % 16)).toNat]
  else [b]

def encoded (set : EncodeSet) (bs : Bytes) : Bytes :=
  bs.flatMap (encodedByte set)

theorem encoded_cons (set : EncodeSet) (b : UInt8) (bs : Bytes) :
    encoded set (b :: bs) = encodedByte set b ++ encoded set bs :=
  List.flatMap_cons

/-- A set that lets percent signs and digits be. -/
structure Reversible (set : EncodeSet) : Prop where
  percent : set 0x25 = false
  digits : ∀ b, set b = true → digitValue? b = none

theorem pathSet_reversible : Reversible pathSet where
  percent := by decide
  digits := forall_byte (by decide +kernel)

theorem pathSet_high : ∀ b : UInt8, 0x80 ≤ b.toNat → pathSet b = true :=
  forall_byte (by decide +kernel)

theorem utf8_percentByte (b : UInt8) : (percentByte b).flatMap String.utf8EncodeChar =
    [0x25, UInt8.ofNat (Bytes.upperDigit (b.toNat / 16)).toNat,
      UInt8.ofNat (Bytes.upperDigit (b.toNat % 16)).toNat] := by
  revert b
  exact forall_byte (by decide +kernel)

theorem ofText_percentEncode {set : EncodeSet}
    (hhigh : ∀ b : UInt8, 0x80 ≤ b.toNat → set b = true) (bs : Bytes) :
    Bytes.ofText (String.ofList (percentEncode set bs)) = encoded set bs := by
  rw [Bytes.ofText_ofList]
  unfold percentEncode encoded
  rw [List.flatMap_assoc]
  refine congrArg (List.flatMap · bs) (funext fun b => ?_)
  unfold encodedByte
  split
  · exact utf8_percentByte b
  · rename_i hfree
    rw [List.flatMap_singleton]
    exact Bytes.utf8_byte (Nat.lt_of_not_le fun hle => hfree (hhigh b hle))

/-- Two digits stand in front just when they did before. -/
theorem pairValue_encoded {set : EncodeSet} (hset : Reversible set) (bs : Bytes) {rest : Bytes}
    (hrest : ∀ b ∈ rest.head?, digitValue? b = none) :
    pairValue? (encoded set bs ++ rest) = pairValue? bs ∧
      (pairValue? bs ≠ none →
        (encoded set bs ++ rest).drop 2 = encoded set (bs.drop 2) ++ rest) := by
  -- what is encoded begins with a percent sign, which is no digit, and was none before
  have hpercent : digitValue? 0x25 = none := by decide
  have hfirst : ∀ {b : UInt8} (bs : Bytes), digitValue? b = none → pairValue? (b :: bs) = none := by
    intro b bs hb
    cases bs with
    | nil => rfl
    | cons => rw [pairValue?, hb]
  have hsecond : ∀ (b : UInt8) {c : UInt8} (bs : Bytes), digitValue? c = none →
      pairValue? (b :: c :: bs) = none := by
    intro b c bs hc
    rw [pairValue?, hc]
    cases digitValue? b <;> rfl
  have hset_pos : ∀ {b : UInt8} (bs : Bytes), set b = true →
      ∃ bs', encoded set (b :: bs) = 0x25 :: bs' := by
    intro b bs hb
    unfold encoded
    rw [List.flatMap_cons, encodedByte, if_pos hb]
    exact ⟨_, rfl⟩
  have hset_neg : ∀ {b : UInt8} (bs : Bytes), ¬ set b = true →
      encoded set (b :: bs) = b :: encoded set bs := by
    intro b bs hb
    unfold encoded
    rw [List.flatMap_cons, encodedByte, if_neg hb]
    rfl
  match bs with
  | [] =>
      refine ⟨?_, fun hno => absurd rfl hno⟩
      cases rest with
      | nil => rfl
      | cons b rest => exact hfirst rest (hrest b rfl)
  | [x] =>
      refine ⟨?_, fun hno => absurd rfl hno⟩
      by_cases hx : set x = true
      · obtain ⟨bs', hbs'⟩ := hset_pos [] hx
        rw [hbs']
        exact hfirst _ hpercent
      · rw [hset_neg [] hx]
        cases rest with
        | nil => rfl
        | cons b rest => exact hsecond x rest (hrest b rfl)
  | x :: y :: bs =>
      by_cases hx : set x = true
      · obtain ⟨bs', hbs'⟩ := hset_pos (y :: bs) hx
        have hnone := hfirst (y :: bs) (hset.digits x hx)
        rw [hbs', hnone]
        exact ⟨hfirst _ hpercent, fun hno => absurd rfl hno⟩
      by_cases hy : set y = true
      · obtain ⟨bs', hbs'⟩ := hset_pos bs hy
        have hnone := hsecond x bs (hset.digits y hy)
        rw [hset_neg (y :: bs) hx, hbs', hnone]
        exact ⟨hsecond x _ hpercent, fun hno => absurd rfl hno⟩
      · rw [hset_neg (y :: bs) hx, hset_neg bs hy]
        exact ⟨rfl, fun _ => rfl⟩

/-- **What was encoded is read as it would have been without.** -/
theorem percentDecode_encoded {set : EncodeSet} (hset : Reversible set) (bs : Bytes) {rest : Bytes}
    (hrest : ∀ b ∈ rest.head?, digitValue? b = none) :
    percentDecode (encoded set bs ++ rest) = percentDecode bs ++ percentDecode rest := by
  match bs with
  | [] => rfl
  | b :: bs =>
      have ih := percentDecode_encoded hset bs hrest
      rw [encoded_cons, List.append_assoc]
      unfold encodedByte
      by_cases hb : set b = true
      · have hne : b ≠ 0x25 := fun heq => absurd (heq ▸ hb) (by simp [hset.percent])
        have hlt : b.toNat < 256 := UInt8.toNat_lt b
        rw [if_pos hb, percentDecode_cons hne, List.cons_append, percentDecode_percent]
        have hpair : pairValue? ([UInt8.ofNat (Bytes.upperDigit (b.toNat / 16)).toNat,
            UInt8.ofNat (Bytes.upperDigit (b.toNat % 16)).toNat] ++ (encoded set bs ++ rest))
            = some b.toNat := by
          show pairValue? (_ :: _ :: _) = _
          rw [pairValue?]
          unfold digitValue?
          rw [hexValue_upperDigit (by omega), hexValue_upperDigit (Nat.mod_lt _ (by decide))]
          exact congrArg some (Nat.div_add_mod b.toNat 16)
        rw [hpair]
        show UInt8.ofNat b.toNat :: percentDecode (encoded set bs ++ rest) = _
        rw [ih, UInt8.ofNat_toNat]
        rfl
      rw [if_neg hb, List.singleton_append]
      by_cases hpercent : b = 0x25
      · -- a percent sign stays, and with two digits behind it the induction goes on after them
        subst hpercent
        obtain ⟨hpair, hdrop⟩ := pairValue_encoded hset bs hrest
        rw [percentDecode_percent, percentDecode_percent, hpair]
        cases hvalue : pairValue? bs with
        | none => exact congrArg (0x25 :: ·) ih
        | some n =>
            have hlater := percentDecode_encoded hset (bs.drop 2) hrest
            dsimp only
            rw [hdrop (by simp [hvalue]), hlater]
            rfl
      · rw [percentDecode_cons hpercent, percentDecode_cons hpercent, ih]
        rfl
termination_by bs.length

/-- Two parts are decoded one by one, unless digits of the second could belong to the first. -/
theorem percentDecode_append (bs : Bytes) {rest : Bytes}
    (hrest : ∀ b ∈ rest.head?, digitValue? b = none) :
    percentDecode (bs ++ rest) = percentDecode bs ++ percentDecode rest := by
  have hnone : Reversible fun _ => false := ⟨rfl, fun _ hset => by cases hset⟩
  have hsame : encoded (fun _ => false) bs = bs := by
    unfold encoded encodedByte
    simp
  have hdecoded := percentDecode_encoded hnone bs hrest
  rw [hsame] at hdecoded
  exact hdecoded

theorem percentDecode_plain {bs : Bytes} (h : 0x25 ∉ bs) (rest : Bytes) :
    percentDecode (bs ++ rest) = bs ++ percentDecode rest := by
  induction bs with
  | nil => rfl
  | cons b bs ih =>
      rw [List.mem_cons, not_or] at h
      rw [List.cons_append, percentDecode_cons (Ne.symm h.1), ih h.2]
      rfl

/-! ## What is lost -/

/-- The characters of what a text stands for. -/
def decodedLength (cs : List Char) : Nat :=
  (Bytes.scan none (percentDecode (Bytes.ofText (String.ofList cs)))).length

/-- Digits that stand for a number are characters of the text. -/
theorem pairValue_text {cs : List Char} {n : Nat}
    (h : pairValue? (Bytes.ofText (String.ofList cs)) = some n) :
    ∃ c d rest, cs = c :: d :: rest ∧
      (Bytes.ofText (String.ofList cs)).drop 2 = Bytes.ofText (String.ofList rest) := by
  have hlow : ∀ b, digitValue? b ≠ none → b.toNat < 0x80 := forall_byte (by decide +kernel)
  match hbytes : Bytes.ofText (String.ofList cs) with
  | [] | [_] =>
      rw [hbytes] at h
      cases h
  | b :: b' :: bs =>
      rw [hbytes, pairValue?] at h
      have hdigit : digitValue? b ≠ none := by
        intro hnone
        rw [hnone] at h
        cases h
      have hdigit' : digitValue? b' ≠ none := by
        intro hnone
        rw [hnone] at h
        cases hvalue : digitValue? b <;> rw [hvalue] at h <;> cases h
      obtain ⟨rest, rfl, hrest⟩ := Bytes.first_of_ofText hbytes (hlow b hdigit)
      obtain ⟨rest', rfl, hrest'⟩ := Bytes.first_of_ofText hrest (hlow b' hdigit')
      exact ⟨_, _, rest', rfl, hrest'.symm⟩

/-- **No characters are won by decoding**, and none are lost only if nothing stands for something
else. -/
theorem decodedLength_le (cs : List Char) : decodedLength cs ≤ cs.length ∧
    (decodedLength cs = cs.length →
      percentDecode (Bytes.ofText (String.ofList cs)) = Bytes.ofText (String.ofList cs)) := by
  match cs with
  | [] =>
      unfold decodedLength
      rw [Bytes.ofText_ofList]
      exact ⟨Nat.le_refl 0, fun _ => rfl⟩
  | c :: cs =>
      obtain ⟨hle, hsame⟩ := decodedLength_le cs
      unfold decodedLength at hle hsame ⊢
      have hbytes : Bytes.ofText (String.ofList (c :: cs))
          = String.utf8EncodeChar c ++ Bytes.ofText (String.ofList cs) := by
        rw [Bytes.ofText_ofList, Bytes.ofText_ofList, List.flatMap_cons]
      rw [hbytes, List.length_cons]
      by_cases hpercent : c = '%'
      · subst hpercent
        have hsign : String.utf8EncodeChar '%' = [0x25] := rfl
        rw [hsign, List.singleton_append, percentDecode_percent]
        cases hvalue : pairValue? (Bytes.ofText (String.ofList cs)) with
        | none =>
            have hscan : ∀ bs, Bytes.scan none (0x25 :: bs) = some '%' :: Bytes.scan none bs :=
              fun _ => rfl
            rw [hscan]
            exact ⟨Nat.succ_le_succ hle, fun heq => congrArg (0x25 :: ·) (hsame (Nat.succ.inj heq))⟩
        | some n =>
            -- three characters come to one byte
            obtain ⟨c, d, rest, rfl, hdrop⟩ := pairValue_text hvalue
            have hrest := (decodedLength_le rest).1
            have hone := Bytes.length_scan_cons (UInt8.ofNat n)
              (percentDecode (Bytes.ofText (String.ofList rest)))
            unfold decodedLength at hrest
            dsimp only
            rw [hdrop, List.length_cons, List.length_cons]
            exact ⟨by omega, fun heq => by omega⟩
      · have hfree : 0x25 ∉ String.utf8EncodeChar c := fun hmem =>
          hpercent (Bytes.of_mem_utf8 hmem (by decide))
        rw [percentDecode_plain hfree, Bytes.scan_encodeChar, List.length_cons]
        exact ⟨Nat.succ_le_succ hle, fun heq => by rw [hsame (Nat.succ.inj heq)]⟩
termination_by cs.length

/-! ## Characters of encoded texts -/

/-- A text that needs no encoding stays as it is. -/
theorem encodeText_plain {set : EncodeSet} {cs : List Char}
    (h : ∀ c ∈ cs, c.toNat < 0x80 ∧ set (UInt8.ofNat c.toNat) = false) :
    encodeText set (String.ofList cs) = String.ofList cs := by
  unfold encodeText percentEncode
  rw [Bytes.ofText_ofList]
  refine congrArg String.ofList ?_
  induction cs with
  | nil => rfl
  | cons c cs ih =>
      obtain ⟨⟨hascii, hfree⟩, hrest⟩ := List.forall_mem_cons.mp h
      rw [List.flatMap_cons, List.flatMap_append, ih hrest, Bytes.utf8_ascii hascii,
        List.flatMap_singleton, if_neg (by simp [hfree]),
        UInt8.toNat_ofNat_of_lt' (Nat.lt_trans hascii (by decide)), Char.ofNat_toNat]
      rfl

theorem encodeText_nil (set : EncodeSet) : encodeText set (String.ofList []) = "" :=
  encodeText_plain (by simp)

theorem percentByte_chars (b : UInt8) :
    ∀ c ∈ percentByte b, c = '%' ∨ Bytes.hexValue? c ≠ none := by
  have hall : ∀ b, ((percentByte b).all fun c => c == '%' || Bytes.hexValue? c != none) = true :=
    forall_byte (by decide +kernel)
  intro c hc
  simpa using List.all_eq_true.mp (hall b) c hc

/-- What a text is encoded to has characters of its own that may stand for themselves, and those of
`%XX`. -/
theorem mem_encodeText {set : EncodeSet} (hhigh : ∀ b : UInt8, 0x80 ≤ b.toNat → set b = true)
    {cs : List Char} {c : Char} (hc : c ∈ (encodeText set (String.ofList cs)).toList) :
    (c ∈ cs ∧ c.toNat < 0x80 ∧ set (UInt8.ofNat c.toNat) = false) ∨ c = '%' ∨
      Bytes.hexValue? c ≠ none := by
  unfold encodeText percentEncode at hc
  rw [String.toList_ofList, Bytes.ofText_ofList] at hc
  obtain ⟨b, hb, hc⟩ := List.mem_flatMap.mp hc
  split at hc
  · exact Or.inr (percentByte_chars b c hc)
  · rename_i hfree
    have hlow : b.toNat < 0x80 := Nat.lt_of_not_le fun hle => hfree (hhigh b hle)
    obtain ⟨d, hd, hbd⟩ := List.mem_flatMap.mp hb
    have heq := Bytes.of_mem_utf8 hbd hlow
    rw [List.mem_singleton.mp hc, Bytes.toNat_char, UInt8.ofNat_toNat]
    exact Or.inl ⟨heq ▸ hd, hlow, by simpa using hfree⟩

end Url

end TileDepot
