import TileDepot.Proofs.Text.Numeral
import TileDepot.Proofs.Text.Trimming
import TileDepot.Proofs.Url.Percent
import TileDepot.Url.Host

/-!
# Characters of hosts

Whatever is written as the host of a URL outside the web's schemes: what is read from it has plain
characters only (`domain_plain`, `ipv6Text_plain`), which are ASCII, visible, and no separators of a
URL but the colon. The address in brackets is written with such characters, too (`ipv6_plain`).
-/

namespace TileDepot

namespace Text

theorem mem_pieces {separator : Char} {cs : List Char} {c : Char} (hc : c ∈ cs) :
    c = separator ∨ ∃ p ∈ pieces separator cs, c ∈ p := by
  induction cs with
  | nil => cases hc
  | cons x xs ih =>
      rw [pieces]
      split
      · rename_i hx
        rcases List.mem_cons.mp hc with rfl | hc
        · exact Or.inl (eq_of_beq hx)
        · refine (ih hc).imp_right ?_
          rintro ⟨p, hp, hcp⟩
          exact ⟨p, List.mem_cons_of_mem _ hp, hcp⟩
      · split
        · rename_i hnone
          rcases List.mem_cons.mp hc with rfl | hc
          · exact Or.inr ⟨_, List.mem_singleton.mpr rfl, List.mem_singleton.mpr rfl⟩
          · refine (ih hc).imp_right ?_
            rintro ⟨p, hp, -⟩
            rw [hnone] at hp
            cases hp
        · rename_i q qs hq
          rcases List.mem_cons.mp hc with rfl | hc
          · exact Or.inr ⟨_, List.mem_cons_self, List.mem_cons_self⟩
          · refine (ih hc).imp_right ?_
            rintro ⟨p, hp, hcp⟩
            rw [hq] at hp
            rcases List.mem_cons.mp hp with rfl | hp
            · exact ⟨_, List.mem_cons_self, List.mem_cons_of_mem _ hcp⟩
            · exact ⟨p, List.mem_cons_of_mem _ hp, hcp⟩

end Text

namespace Url

/-- ASCII, visible, and no separator of a URL but the colon. -/
def isPlain (c : Char) : Bool :=
  0x20 < c.toNat && c.toNat < 0x7F && !"/?#@\\".toList.contains c

theorem isPlain_of_hex {c : Char} (h : Bytes.hexValue? c ≠ none) : isPlain c = true := by
  have hall : ∀ n < 103, Bytes.hexValue? (Char.ofNat n) ≠ none → isPlain (Char.ofNat n) = true := by
    decide +kernel
  have hle : ∀ a : Char, c ≤ a → c.toNat ≤ a.toNat := fun a hca => hca
  have hlt : c.toNat < 103 := by
    unfold Bytes.hexValue? at h
    split at h
    · rename_i hdigit
      exact Nat.lt_of_le_of_lt (hle '9' ((Text.isDigit_iff c).mp hdigit).2) (by decide)
    split at h
    · rename_i hlower
      rw [Bool.and_eq_true, decide_eq_true_eq, decide_eq_true_eq] at hlower
      exact Nat.lt_of_le_of_lt (hle 'f' hlower.2) (by decide)
    split at h
    · rename_i hupper
      rw [Bool.and_eq_true, decide_eq_true_eq, decide_eq_true_eq] at hupper
      exact Nat.lt_of_le_of_lt (hle 'F' hupper.2) (by decide)
    · exact absurd rfl h
  have hplain := hall c.toNat hlt
  rw [Char.ofNat_toNat] at hplain
  exact hplain h

theorem isPlain_of_digit {c : Char} (h : c.isDigit = true) : isPlain c = true := by
  refine isPlain_of_hex ?_
  unfold Bytes.hexValue?
  rw [if_pos h]
  simp

/-! ## Reading addresses -/

/-- What is read in one go is read element by element. -/
theorem of_mapM {α β : Type} {f : α → Option β} {xs : List α} {ys : List β}
    (h : xs.mapM f = some ys) : ∀ x ∈ xs, f x ≠ none := by
  induction xs generalizing ys with
  | nil => simp
  | cons x xs ih =>
      rw [List.mapM_cons] at h
      cases hx : f x with
      | none =>
          rw [hx] at h
          cases h
      | some y =>
          cases hxs : xs.mapM f with
          | none =>
              rw [hx, hxs] at h
              cases h
          | some ys => exact List.forall_mem_cons.mpr ⟨by simp [hx], ih hxs⟩

theorem radixValue_hex {base : Nat} {cs : List Char} (h : radixValue? base cs ≠ none) :
    ∀ c ∈ cs, Bytes.hexValue? c ≠ none := by
  have hall : ∀ (cs : List Char) (n : Nat), cs.foldlM (fun n c => do
      let d ← Bytes.hexValue? c
      if d < base then some (base * n + d) else none) n ≠ none →
      ∀ c ∈ cs, Bytes.hexValue? c ≠ none := by
    intro cs
    induction cs with
    | nil => simp
    | cons c cs ih =>
        intro n hsome
        rw [List.foldlM_cons] at hsome
        cases hc : Bytes.hexValue? c with
        | none =>
            rw [hc] at hsome
            exact absurd rfl hsome
        | some d =>
            rw [hc] at hsome
            refine List.forall_mem_cons.mpr ⟨by simp [hc], ?_⟩
            by_cases hd : d < base
            · refine ih (base * n + d) ?_
              simpa [hd] using hsome
            · simp [hd] at hsome
  exact hall cs 0 h

theorem ipv6Part_plain {cs : List Char} (h : ipv6Part? cs ≠ none) :
    ∀ c ∈ cs, isPlain c = true := by
  unfold ipv6Part? at h
  split at h
  · exact absurd rfl h
  · exact fun c hc => isPlain_of_hex (radixValue_hex h c hc)

theorem embeddedIpv4_plain {cs : List Char} (h : embeddedIpv4? cs ≠ none) :
    ∀ c ∈ cs, isPlain c = true := by
  intro c hc
  unfold embeddedIpv4? at h
  cases hnumbers : (Text.pieces '.' cs).mapM fun p =>
      if p.isEmpty || 3 < p.length || (1 < p.length && p.head? == some '0') then none
      else (radixValue? 10 p).filter (· < 256) with
  | none =>
      rw [hnumbers] at h
      exact absurd rfl h
  | some numbers =>
      rcases @Text.mem_pieces '.' cs c hc with rfl | ⟨p, hp, hcp⟩
      · decide
      · have hread := of_mapM hnumbers p hp
        split at hread
        · exact absurd rfl hread
        · have hvalue : radixValue? 10 p ≠ none := by
            intro hnone
            rw [hnone] at hread
            exact absurd rfl hread
          exact isPlain_of_hex (radixValue_hex hvalue c hcp)

theorem ipv6Parts_plain {allowIpv4 : Bool} {cs : List Char} (h : ipv6Parts? allowIpv4 cs ≠ none) :
    ∀ c ∈ cs, isPlain c = true := by
  intro c hc
  unfold ipv6Parts? at h
  split at h
  · rename_i hempty
    rw [List.isEmpty_iff.mp hempty] at hc
    cases hc
  rcases @Text.mem_pieces ':' cs c hc with rfl | ⟨p, hp, hcp⟩
  · decide
  dsimp only at h
  cases hlast : (Text.pieces ':' cs).getLast? with
  | none =>
      rw [List.getLast?_eq_none_iff.mp hlast] at hp
      cases hp
  | some last =>
      have hends : Text.pieces ':' cs = (Text.pieces ':' cs).dropLast ++ [last] := by
        obtain ⟨front, hfront⟩ := List.getLast?_eq_some_iff.mp hlast
        rw [hfront, List.dropLast_concat]
      rw [hlast] at h
      dsimp only at h
      split at h
      · -- the last piece is read as an IPv4 address
        cases hfront : (Text.pieces ':' cs).dropLast.mapM ipv6Part? with
        | none =>
            rw [hfront] at h
            exact absurd rfl h
        | some front =>
            rw [hends] at hp
            rcases List.mem_append.mp hp with hp | hp
            · exact ipv6Part_plain (of_mapM hfront p hp) c hcp
            · rw [List.mem_singleton.mp hp] at hcp
              refine embeddedIpv4_plain (fun hnone => ?_) c hcp
              rw [hfront, hnone] at h
              exact absurd rfl h
      · cases hall : (Text.pieces ':' cs).mapM ipv6Part? with
        | none => exact absurd hall h
        | some parts => exact ipv6Part_plain (of_mapM hall p hp) c hcp

theorem splitDoubleColon_eq {cs front back : List Char}
    (h : splitDoubleColon cs = some (front, back)) : cs = front ++ ':' :: ':' :: back := by
  induction cs generalizing front with
  | nil => cases h
  | cons c cs ih =>
      unfold splitDoubleColon at h
      split at h
      · rename_i r heq
        cases h
        exact heq
      · rename_i d r _ heq
        cases heq
        obtain ⟨⟨front', back'⟩, hsplit, heq⟩ := Option.map_eq_some_iff.mp h
        cases heq
        rw [ih hsplit]
        rfl
      · rename_i hnil
        cases hnil

/-- **What is read as an IPv6 address is written with plain characters.** -/
theorem ipv6_plain {cs : List Char} (h : ipv6? cs ≠ none) : ∀ c ∈ cs, isPlain c = true := by
  intro c hc
  unfold ipv6? at h
  split at h
  · rename_i front back hsplit
    cases hfront : ipv6Parts? false front with
    | none =>
        rw [hfront] at h
        exact absurd rfl h
    | some a =>
        cases hback : ipv6Parts? true back with
        | none =>
            rw [hfront, hback] at h
            exact absurd rfl h
        | some b =>
            rw [splitDoubleColon_eq hsplit] at hc
            simp only [List.mem_append, List.mem_cons] at hc
            rcases hc with hc | rfl | rfl | hc
            · exact @ipv6Parts_plain false front (by simp [hfront]) c hc
            · decide
            · decide
            · exact @ipv6Parts_plain true back (by simp [hback]) c hc
  · split at h
    · exact absurd rfl h
    · refine @ipv6Parts_plain true cs (fun hnone => ?_) c hc
      rw [hnone] at h
      exact absurd rfl h

/-! ## Writing addresses -/

theorem digits_plain {n : Nat} : ∀ c ∈ Nat.toDigits 16 n, isPlain c = true := by
  have hdigit : ∀ m < 16, isPlain m.digitChar = true := by decide
  induction n using Nat.strong_induction_on with
  | _ n ih =>
      intro c hc
      by_cases hn : n < 16
      · rw [Nat.toDigits_of_lt_base hn, List.mem_singleton] at hc
        exact hc ▸ hdigit n hn
      · rw [Nat.toDigits_of_base_le (by decide) (Nat.le_of_not_lt hn)] at hc
        rcases List.mem_append.mp hc with hc | hc
        · exact ih (n / 16) (by omega) c hc
        · rw [List.mem_singleton.mp hc]
          exact hdigit _ (Nat.mod_lt n (by decide))

/-- What is joined with plain separators from plain texts is plain. -/
theorem intercalate_plain {separator : String} {texts : List String}
    (hseparator : ∀ c ∈ separator.toList, isPlain c = true)
    (htexts : ∀ t ∈ texts, ∀ c ∈ t.toList, isPlain c = true) :
    ∀ c ∈ (separator.intercalate texts).toList, isPlain c = true := by
  induction texts with
  | nil => simp
  | cons t ts ih =>
      obtain ⟨hfirst, hrest⟩ := List.forall_mem_cons.mp htexts
      cases ts with
      | nil =>
          rw [String.intercalate_singleton]
          exact hfirst
      | cons t' ts =>
          intro c hc
          rw [String.intercalate_cons_cons, String.toList_append, String.toList_append] at hc
          rcases List.mem_append.mp hc with hc | hc
          · rcases List.mem_append.mp hc with hc | hc
            · exact hfirst c hc
            · exact hseparator c hc
          · exact ih hrest c hc

theorem colonParts_plain (parts : List Nat) : ∀ c ∈ colonParts parts, isPlain c = true := by
  refine intercalate_plain (List.all_eq_true.mp (by decide)) fun t ht => ?_
  obtain ⟨p, _, rfl⟩ := List.mem_map.mp ht
  rw [String.toList_ofList]
  exact digits_plain

theorem ipv6Text_plain (parts : List Nat) : ∀ c ∈ (ipv6Text parts).toList, isPlain c = true := by
  unfold ipv6Text
  rw [String.toList_ofList]
  split
  · intro c hc
    simp only [List.mem_append, List.mem_cons, List.not_mem_nil, or_false] at hc
    rcases hc with (hc | rfl | rfl) | hc
    · exact colonParts_plain _ c hc
    · decide
    · decide
    · exact colonParts_plain _ c hc
  · exact colonParts_plain parts

theorem ipv4Text_plain (address : Nat) : ∀ c ∈ (ipv4Text address).toList, isPlain c = true := by
  refine intercalate_plain (List.all_eq_true.mp (by decide)) fun t ht c hc => ?_
  obtain ⟨i, _, rfl⟩ := List.mem_map.mp ht
  exact isPlain_of_digit
    (Nat.isDigit_of_mem_toDigits (by decide) (by decide) (Nat.toList_repr ▸ hc))

/-! ## Hosts -/

/-- What the host of a scheme outside the web cannot have. -/
def hostStops : List Char :=
  "\x00\t\n\r #/:<>?@[\\]^|".toList

/-- **The hosts of other schemes**: an address in brackets, or a text without what a host cannot
have. -/
theorem opaqueHost_cases {cs : List Char} {h : Host} (hok : opaqueHost cs = .ok h) :
    (∃ inner parts, cs = '[' :: inner ++ [']'] ∧ ipv6? inner = some parts ∧ h = .ipv6 parts) ∨
      (∀ c ∈ cs, c ∉ hostStops) ∧ h = .domain (encodeText controlSet (String.ofList cs)) := by
  unfold opaqueHost at hok
  cases hbracketed : bracketed? cs with
  | some r =>
      rw [hbracketed] at hok
      dsimp only at hok
      subst hok
      unfold bracketed? at hbracketed
      split at hbracketed
      · split at hbracketed
        · rename_i r hlast
          obtain ⟨inner, rfl⟩ := List.getLast?_eq_some_iff.mp (eq_of_beq hlast)
          rw [List.dropLast_concat] at hbracketed
          split at hbracketed
          · rename_i parts hparts
            cases hbracketed
            exact Or.inl ⟨inner, parts, rfl, hparts, rfl⟩
          · cases hbracketed
        · cases hbracketed
      · cases hbracketed
  | none =>
      rw [hbracketed] at hok
      dsimp only at hok
      split at hok
      · cases hok
      · rename_i hfree
        cases hok
        refine Or.inr ⟨fun c hc hstop => hfree ?_, rfl⟩
        exact List.any_eq_true.mpr ⟨c, hc, List.contains_iff_mem.mpr hstop⟩

/-- **What becomes of a host is plain**, also where the host is not. -/
theorem domain_plain {cs : List Char} (h : ∀ c ∈ cs, c ∉ hostStops) :
    ∀ c ∈ (encodeText controlSet (String.ofList cs)).toList, isPlain c = true := by
  have hcontrol : ∀ b : UInt8, 0x80 ≤ b.toNat → controlSet b = true :=
    forall_byte (by decide +kernel)
  have hall : ∀ n < 0x80, controlSet (UInt8.ofNat n) = false → Char.ofNat n ∉ hostStops →
      isPlain (Char.ofNat n) = true := by
    decide +kernel
  intro c hc
  rcases mem_encodeText hcontrol hc with ⟨hmem, hlow, hfree⟩ | rfl | hhex
  · have hplain := hall c.toNat hlow hfree
    rw [Char.ofNat_toNat] at hplain
    exact hplain (h c hmem)
  · decide
  · exact isPlain_of_hex hhex

end Url

end TileDepot
