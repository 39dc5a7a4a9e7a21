import TileDepot.Query.Token

/-!
# What a scan finds

`scan` is a machine that carries the literal text and the half-read name along. `Cut` says what it
is meant to find without any machine: the text before the first place where a token begins, that
token, and so on with what follows it. A text has exactly one such cut (`cut_unique`), and `scan`
finds it (`scan_cut`).

The names of tokens are spelled out here as ranges of ASCII, so that nothing in a `Cut` depends on
the predicates that the machine tests.
-/

namespace TileDepot.Query

/-! ## Words and tokens -/

/-- An ASCII letter, an ASCII digit, or an underscore. -/
def IsWord (c : Char) : Prop :=
  ('a' ≤ c ∧ c ≤ 'z') ∨ ('A' ≤ c ∧ c ≤ 'Z') ∨ ('0' ≤ c ∧ c ≤ '9') ∨ c = '_'

/-- A name that can stand in a query: not empty, and made of word characters only. -/
def IsTableName (s : String) : Prop :=
  s ≠ "" ∧ ∀ c ∈ s.toList, IsWord c

/-- The name between the two marks of a token: a hyphen may stand in it as well. -/
def IsName (n : List Char) : Prop :=
  n ≠ [] ∧ ∀ c ∈ n, IsWord c ∨ c = '-'

theorem isWordChar_iff (c : Char) : isWordChar c = true ↔ IsWord c := by
  have hlower : c.isLower = true ↔ 'a' ≤ c ∧ c ≤ 'z' := by
    show (decide (c.val ≥ 'a'.val) && decide (c.val ≤ 'z'.val)) = true ↔ _
    rw [Bool.and_eq_true, decide_eq_true_eq, decide_eq_true_eq]
    exact Iff.rfl
  have hupper : c.isUpper = true ↔ 'A' ≤ c ∧ c ≤ 'Z' := by
    show decide (c.val ≥ 'A'.val ∧ c.val ≤ 'Z'.val) = true ↔ _
    rw [decide_eq_true_eq]
    exact Iff.rfl
  have hdigit : c.isDigit = true ↔ '0' ≤ c ∧ c ≤ '9' := by
    show (decide (c.val ≥ '0'.val) && decide (c.val ≤ '9'.val)) = true ↔ _
    rw [Bool.and_eq_true, decide_eq_true_eq, decide_eq_true_eq]
    exact Iff.rfl
  show (c.isUpper || c.isLower || c.isDigit || c == '_') = true ↔ IsWord c
  rw [Bool.or_eq_true, Bool.or_eq_true, Bool.or_eq_true, beq_iff_eq, hlower, hupper, hdigit]
  constructor
  · rintro (((h | h) | h) | h)
    · exact Or.inr (Or.inl h)
    · exact Or.inl h
    · exact Or.inr (Or.inr (Or.inl h))
    · exact Or.inr (Or.inr (Or.inr h))
  · rintro (h | h | h | h)
    · exact Or.inl (Or.inl (Or.inr h))
    · exact Or.inl (Or.inl (Or.inl h))
    · exact Or.inl (Or.inr h)
    · exact Or.inr h

theorem isTokenChar_iff (c : Char) : isTokenChar c = true ↔ IsWord c ∨ c = '-' := by
  unfold isTokenChar
  rw [Bool.or_eq_true, isWordChar_iff, beq_iff_eq]

theorem isIdentifier_iff (s : String) : isIdentifier s = true ↔ IsTableName s := by
  unfold isIdentifier IsTableName
  simp [isWordChar_iff]

instance (s : String) : Decidable (IsTableName s) :=
  decidable_of_iff (isIdentifier s = true) (isIdentifier_iff s)

theorem isTokenTail_iff (named : Bool) (s : List Char) : isTokenTail named s = true ↔
    ∃ n, (named = true ∨ n ≠ []) ∧ (∀ c ∈ n, IsWord c ∨ c = '-') ∧ s = n ++ ['!'] := by
  induction s generalizing named with
  | nil => simp [isTokenTail]
  | cons c s ih =>
      unfold isTokenTail
      by_cases hc : isTokenChar c = true
      · rw [if_pos hc, ih]
        have hword := (isTokenChar_iff c).mp hc
        constructor
        · rintro ⟨n, _, hn, rfl⟩
          exact ⟨c :: n, Or.inr (by simp), by simpa using ⟨hword, hn⟩, rfl⟩
        · rintro ⟨n, _, hn, hs⟩
          cases n with
          | nil =>
              have hmark : c = '!' := (List.cons.inj hs).1
              rw [hmark] at hc
              exact absurd hc (by decide)
          | cons d n =>
              exact ⟨n, Or.inl rfl, fun x hx => hn x (by simp [hx]), (List.cons.inj hs).2⟩
      · rw [if_neg hc]
        constructor
        · intro h
          simp only [Bool.and_eq_true, beq_iff_eq, List.isEmpty_iff] at h
          obtain ⟨⟨rfl, hnamed⟩, rfl⟩ := h
          exact ⟨[], Or.inl hnamed, by simp, rfl⟩
        · rintro ⟨n, hnamed, hn, hs⟩
          cases n with
          | nil =>
              obtain ⟨rfl, rfl⟩ := List.cons.inj hs
              simpa using hnamed
          | cons d n =>
              obtain ⟨rfl, _⟩ := List.cons.inj hs
              exact absurd ((isTokenChar_iff c).mpr (hn c (by simp))) hc

/-- A text is one token if it is a name between two marks. -/
theorem isToken_iff (s : String) :
    isToken s = true ↔ ∃ n, IsName n ∧ s.toList = '!' :: (n ++ ['!']) := by
  unfold isToken
  cases s.toList with
  | nil => simp [isTokenChars]
  | cons c r =>
      by_cases hc : c = '!'
      · rw [hc, isTokenChars, isTokenTail_iff]
        constructor
        · rintro ⟨n, hne, hn, rfl⟩
          exact ⟨n, ⟨hne.resolve_left (by simp), hn⟩, rfl⟩
        · rintro ⟨n, ⟨hne, hn⟩, hr⟩
          exact ⟨n, Or.inr hne, hn, (List.cons.inj hr).2⟩
      · constructor
        · intro h
          unfold isTokenChars at h
          split at h
          · rename_i heq
            exact absurd (List.cons.inj heq).1 hc
          · exact absurd h (by simp)
        · rintro ⟨n, _, hr⟩
          exact absurd (List.cons.inj hr).1 hc

/-- A token begins here. -/
def TokenAhead (s : List Char) : Prop :=
  ∃ n rest, IsName n ∧ s = '!' :: (n ++ '!' :: rest)

/-- No token begins inside `lit` when `rest` follows it. -/
def Quiet (lit rest : List Char) : Prop :=
  ∀ a b, lit = a ++ b → b ≠ [] → ¬ TokenAhead (b ++ rest)

/--
`Cut s ps`: `ps` are the pieces of `s` by the leftmost scan without overlaps.

Each token stands at the first place where one begins, and the scan goes on behind its closing
mark. Empty literals are left out.
-/
inductive Cut : List Char → List Piece → Prop where
  | last {lit : List Char} : Quiet lit [] → Cut lit (Piece.literals lit)
  | token {lit n rest : List Char} {ps : List Piece} :
      IsName n → Quiet lit ('!' :: (n ++ '!' :: rest)) → Cut rest ps →
      Cut (lit ++ '!' :: (n ++ '!' :: rest)) (Piece.literals lit ++ .token n :: ps)

/-! ## Where tokens begin -/

theorem mark_not_name : ¬ (IsWord '!' ∨ '!' = '-') := by
  rw [← isTokenChar_iff]
  decide

/-- Two runs of name characters that end at different characters are the same run. -/
theorem name_append_inj {n m r s : List Char} {c d : Char}
    (hn : ∀ x ∈ n, IsWord x ∨ x = '-') (hm : ∀ x ∈ m, IsWord x ∨ x = '-')
    (hc : ¬ (IsWord c ∨ c = '-')) (hd : ¬ (IsWord d ∨ d = '-'))
    (h : n ++ c :: r = m ++ d :: s) : n = m ∧ c = d ∧ r = s := by
  induction n generalizing m with
  | nil =>
      cases m with
      | nil => simpa using h
      | cons y m =>
          have hcy : c = y := (List.cons.inj h).1
          exact absurd (hcy ▸ hm y (by simp)) hc
  | cons x n ih =>
      cases m with
      | nil =>
          have hxd : x = d := (List.cons.inj h).1
          exact absurd (hxd ▸ hn x (by simp)) hd
      | cons y m =>
          obtain ⟨hxy, h⟩ := List.cons.inj h
          obtain ⟨hnm, hcd, hrs⟩ := ih (fun z hz => hn z (by simp [hz]))
            (fun z hz => hm z (by simp [hz])) h
          exact ⟨by rw [hxy, hnm], hcd, hrs⟩

theorem not_tokenAhead_cons {c : Char} {s : List Char} (h : c ≠ '!') : ¬ TokenAhead (c :: s) := by
  rintro ⟨n, rest, _, hs⟩
  exact h (List.cons.inj hs).1

/-- A mark whose name breaks off at `c` begins no token. -/
theorem not_tokenAhead_broken {n r : List Char} {c : Char}
    (hn : ∀ x ∈ n, IsWord x ∨ x = '-') (hc : ¬ (IsWord c ∨ c = '-')) (h : c = '!' → n = []) :
    ¬ TokenAhead ('!' :: (n ++ c :: r)) := by
  rintro ⟨m, rest, ⟨hne, hm⟩, hs⟩
  obtain ⟨hnm, hcd, _⟩ := name_append_inj hn hm hc mark_not_name (List.cons.inj hs).2
  exact hne (hnm ▸ h hcd)

/-- A mark whose name reaches the end of the text begins no token. -/
theorem not_tokenAhead_open {n : List Char} (hn : ∀ x ∈ n, IsWord x ∨ x = '-') :
    ¬ TokenAhead ('!' :: n) := by
  rintro ⟨m, rest, _, hs⟩
  have hmem : '!' ∈ n := by rw [(List.cons.inj hs).2]; simp
  exact mark_not_name (hn '!' hmem)

/-! ## Text without tokens -/

theorem quiet_nil (rest : List Char) : Quiet [] rest := by
  intro a b h hb
  exact absurd (List.append_eq_nil_iff.mp h.symm).2 hb

theorem quiet_cons {c : Char} {lit rest : List Char}
    (hc : ¬ TokenAhead (c :: (lit ++ rest))) (h : Quiet lit rest) : Quiet (c :: lit) rest := by
  intro a b hs hb
  cases a with
  | nil => rw [List.nil_append] at hs; subst hs; exact hc
  | cons x a => exact h a b (List.cons.inj hs).2 hb

theorem quiet_append {lit mid rest : List Char}
    (h : Quiet lit (mid ++ rest)) (hm : Quiet mid rest) : Quiet (lit ++ mid) rest := by
  induction lit with
  | nil => exact hm
  | cons c lit ih =>
      refine quiet_cons ?_ (ih fun a b hs hb => h (c :: a) b (by rw [hs]; rfl) hb)
      have := h [] (c :: lit) rfl (by simp)
      rwa [List.cons_append, ← List.append_assoc] at this

/-- Name characters begin no token, whatever follows. -/
theorem quiet_names {n : List Char} (hn : ∀ x ∈ n, IsWord x ∨ x = '-') (rest : List Char) :
    Quiet n rest := by
  induction n with
  | nil => exact quiet_nil rest
  | cons c n ih =>
      have hc : c ≠ '!' := fun h => mark_not_name (h ▸ hn c (by simp))
      exact quiet_cons (not_tokenAhead_cons hc) (ih fun x hx => hn x (by simp [hx]))

/-! ## The machine finds the cut -/

/-- What the machine has read and not given out yet. -/
def held (seen : List Char) : Option (List Char) → List Char
  | none => seen.reverse
  | some n => seen.reverse ++ '!' :: n.reverse

/-- What the machine has read and not given out yet begins no token but, perhaps, at its last mark;
behind that mark there is only a name so far. -/
def Held (seen : List Char) (name : Option (List Char)) (s : List Char) : Prop :=
  match name with
  | none => Quiet seen.reverse s
  | some n => Quiet seen.reverse ('!' :: (n.reverse ++ s)) ∧ ∀ c ∈ n, IsWord c ∨ c = '-'

theorem scanFrom_cut (s : List Char) : ∀ (seen : List Char) (name : Option (List Char)),
    Held seen name s → Cut (held seen name ++ s) (scanFrom seen name s) := by
  induction s with
  | nil =>
      intro seen name h
      cases name with
      | none =>
          rw [List.append_nil]
          exact Cut.last h
      | some n =>
          -- the text ends inside a name, so its mark opened nothing
          obtain ⟨hq, hn⟩ := h
          have hn' : ∀ c ∈ n.reverse, IsWord c ∨ c = '-' := fun c hc => hn c (by simpa using hc)
          rw [List.append_nil]
          refine Cut.last (quiet_append hq (quiet_cons ?_ (quiet_names hn' [])))
          rw [List.append_nil]
          exact not_tokenAhead_open hn'
  | cons c s ih =>
      intro seen name h
      cases name with
      | none =>
          by_cases hc : c = '!'
          · -- a mark may open a token
            subst hc
            have hstep : scanFrom seen none ('!' :: s) = scanFrom seen (some []) s := rfl
            have := ih seen (some []) ⟨h, by simp⟩
            simpa [hstep, held] using this
          · have hstep : scanFrom seen none (c :: s) = scanFrom (c :: seen) none s := by
              simp [scanFrom, hc]
            have hq : Quiet (seen.reverse ++ [c]) s :=
              quiet_append h (quiet_cons (not_tokenAhead_cons hc) (quiet_nil s))
            have := ih (c :: seen) none (by simpa [Held] using hq)
            simpa [hstep, held] using this
      | some n =>
          obtain ⟨hq, hn⟩ := h
          have hn' : ∀ x ∈ n.reverse, IsWord x ∨ x = '-' := fun x hx => hn x (by simpa using hx)
          by_cases hc : IsWord c ∨ c = '-'
          · -- the name goes on
            have hstep : scanFrom seen (some n) (c :: s) = scanFrom seen (some (c :: n)) s := by
              rw [scanFrom, if_pos ((isTokenChar_iff c).mpr hc)]
            have := ih seen (some (c :: n)) ⟨by simpa using hq, by
              intro x hx
              rcases List.mem_cons.mp hx with hx | hx
              · exact hx ▸ hc
              · exact hn x hx⟩
            simpa [hstep, held] using this
          have hno : ¬ isTokenChar c = true := fun h => hc ((isTokenChar_iff c).mp h)
          by_cases hmark : c = '!'
          · subst hmark
            cases n with
            | nil =>
                -- the mark that might close an empty name opens another one
                have hstep : scanFrom seen (some []) ('!' :: s)
                    = scanFrom ('!' :: seen) (some []) s := by
                  rw [scanFrom, if_neg hno]; rfl
                have hq' : Quiet (seen.reverse ++ ['!']) ('!' :: s) :=
                  quiet_append hq (quiet_cons
                    (not_tokenAhead_broken (n := []) (by simp) mark_not_name (fun _ => rfl))
                    (quiet_nil _))
                have := ih ('!' :: seen) (some []) ⟨by simpa using hq', by simp⟩
                simpa [hstep, held] using this
            | cons x n =>
                -- the second mark closes the token, and the machine begins anew
                have hstep : scanFrom seen (some (x :: n)) ('!' :: s)
                    = Piece.literals seen.reverse ++ .token (x :: n).reverse
                      :: scanFrom [] none s := by
                  rw [scanFrom, if_neg hno]; rfl
                have hrest : Cut s (scanFrom [] none s) := ih [] none (quiet_nil s)
                have hname : IsName (x :: n).reverse := ⟨by simp, hn'⟩
                have := Cut.token hname hq hrest
                rw [hstep]
                simpa [held] using this
          · -- the name breaks off, and all of it is literal text
            have hstep : scanFrom seen (some n) (c :: s)
                = scanFrom (c :: (n ++ '!' :: seen)) none s := by
              rw [scanFrom, if_neg hno]; simp [hmark]
            have htail : Quiet ('!' :: (n.reverse ++ [c])) s := by
              refine quiet_cons ?_ (quiet_append (quiet_names hn' _)
                (quiet_cons (not_tokenAhead_cons hmark) (quiet_nil s)))
              rw [List.append_assoc]
              exact not_tokenAhead_broken hn' hc (fun h => absurd h hmark)
            have hq' : Quiet (seen.reverse ++ '!' :: (n.reverse ++ [c])) s :=
              quiet_append (by simpa using hq) htail
            have := ih (c :: (n ++ '!' :: seen)) none (by simpa [Held] using hq')
            simpa [hstep, held] using this

/-- **A scan finds the leftmost tokens.** -/
theorem scan_cut (template : String) : Cut template.toList (scan template) :=
  scanFrom_cut template.toList [] none (quiet_nil _)

/-! ## There is one cut -/

theorem cut_inv {s : List Char} {ps : List Piece} (h : Cut s ps) :
    (Quiet s [] ∧ ps = Piece.literals s) ∨
      ∃ lit n rest qs, IsName n ∧ Quiet lit ('!' :: (n ++ '!' :: rest)) ∧ Cut rest qs
        ∧ s = lit ++ '!' :: (n ++ '!' :: rest) ∧ ps = Piece.literals lit ++ .token n :: qs := by
  cases h with
  | last hq => exact Or.inl ⟨hq, rfl⟩
  | token hn hq hc => exact Or.inr ⟨_, _, _, _, hn, hq, hc, rfl, rfl⟩

theorem tokenAhead_of_name {n rest : List Char} (hn : IsName n) :
    TokenAhead ('!' :: (n ++ '!' :: rest)) := ⟨n, rest, hn, rfl⟩

/-- Where the text of a token can stand when the first token of the text is known: there, at the mark
that closes the first token, or behind it. -/
theorem place_of_token {n m lit rest before after : List Char} (hn : IsName n) (hm : IsName m)
    (hq : Quiet lit ('!' :: (m ++ '!' :: rest)))
    (h : before ++ '!' :: (n ++ '!' :: after) = lit ++ '!' :: (m ++ '!' :: rest)) :
    (before = lit ∧ n = m) ∨ (before = lit ++ '!' :: m ∧ rest = n ++ '!' :: after) ∨
      ∃ b, before = lit ++ '!' :: (m ++ '!' :: b) ∧ rest = b ++ '!' :: (n ++ '!' :: after) := by
  have hsame : '!' :: (n ++ '!' :: after) = '!' :: (m ++ '!' :: rest) → n = m := fun h =>
    (name_append_inj hn.2 hm.2 mark_not_name mark_not_name (List.cons.inj h).2).1
  rcases List.append_eq_append_iff.mp h with ⟨b, hlit, hb⟩ | ⟨c, hbefore, hc⟩
  · -- it begins inside the literal text, or where the first token does
    by_cases hempty : b = []
    · subst hempty
      exact Or.inl ⟨by rw [hlit, List.append_nil], hsame hb⟩
    · exact absurd (hb ▸ tokenAhead_of_name hn) (hq before b hlit hempty)
  · cases c with
    | nil => exact Or.inl ⟨by rw [hbefore, List.append_nil], hsame hc.symm⟩
    | cons x c =>
        obtain ⟨rfl, hbehind⟩ := List.cons.inj hc
        rcases List.append_eq_append_iff.mp hbehind with ⟨d, hd, hrest⟩ | ⟨d, hname, hd⟩
        · cases d with
          | nil =>
              refine Or.inr (Or.inl ⟨?_, (List.cons.inj hrest).2⟩)
              rw [hbefore, hd, List.append_nil]
          | cons y d =>
              obtain ⟨rfl, hbeyond⟩ := List.cons.inj hrest
              exact Or.inr (Or.inr ⟨d, by rw [hbefore, hd], hbeyond⟩)
        · cases d with
          | nil =>
              rw [List.append_nil] at hname
              refine Or.inr (Or.inl ⟨by rw [hbefore, hname], (List.cons.inj hd).2.symm⟩)
          | cons y d =>
              -- a name has no mark in it
              obtain ⟨hy, _⟩ := List.cons.inj hd
              have hmark : '!' ∈ m := by simp [hname, ← hy]
              exact absurd (hm.2 '!' hmark) mark_not_name

/-- Of two places where a token begins with quiet text before it, neither is further left. -/
theorem quiet_shorter {lit lit' t t' : List Char} (h : lit ++ t = lit' ++ t')
    (ht : TokenAhead t) (hq : Quiet lit' t') : ¬ ∃ b, b ≠ [] ∧ lit' = lit ++ b := by
  rintro ⟨b, hb, rfl⟩
  rw [List.append_assoc] at h
  have hbt : t = b ++ t' := List.append_cancel_left h
  exact hq lit b rfl hb (hbt ▸ ht)

theorem quiet_first_unique {lit lit' t t' : List Char} (h : lit ++ t = lit' ++ t')
    (ht : TokenAhead t) (ht' : TokenAhead t') (hq : Quiet lit t) (hq' : Quiet lit' t') :
    lit = lit' := by
  rcases List.append_eq_append_iff.mp h with ⟨b, hb, _⟩ | ⟨b, hb, _⟩
  · rcases Classical.em (b = []) with he | he
    · rw [hb, he, List.append_nil]
    · exact absurd ⟨b, he, hb⟩ (quiet_shorter h ht hq')
  · rcases Classical.em (b = []) with he | he
    · rw [hb, he, List.append_nil]
    · exact absurd ⟨b, he, hb⟩ (quiet_shorter h.symm ht' hq)

/-- **A text has one cut.** -/
theorem cut_unique {s : List Char} {ps : List Piece} (h : Cut s ps) :
    ∀ {qs : List Piece}, Cut s qs → qs = ps := by
  -- the first token of either cut is where no other token begins further left
  induction h with
  | @last lit hq =>
      intro qs h'
      rcases cut_inv h' with ⟨_, hps⟩ | ⟨lit', n, rest, _, hn, _, _, hs, _⟩
      · exact hps
      · have hne : '!' :: (n ++ '!' :: rest) ≠ [] := by simp
        have hquiet := hq lit' _ hs hne
        rw [List.append_nil] at hquiet
        exact absurd (tokenAhead_of_name hn) hquiet
  | @token lit n rest ps hn hq hrest ih =>
      intro qs h'
      rcases cut_inv h' with ⟨hq', _⟩ | ⟨lit', n', rest', ps', hn', hq', hrest', hs, hps⟩
      · have hquiet := hq' lit _ rfl (by simp)
        rw [List.append_nil] at hquiet
        exact absurd (tokenAhead_of_name hn) hquiet
      · have hlit : lit = lit' := quiet_first_unique hs (tokenAhead_of_name hn)
          (tokenAhead_of_name hn') hq hq'
        subst hlit
        have htok := (List.cons.inj (List.append_cancel_left hs)).2
        obtain ⟨hnn, _, hrr⟩ := name_append_inj hn.2 hn'.2 mark_not_name mark_not_name htok
        subst hnn; subst hrr
        rw [hps, ih hrest']

end TileDepot.Query
