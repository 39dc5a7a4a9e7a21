import Mathlib.Data.List.Chain
import TileDepot.Proofs.Query.Binding
import TileDepot.Proofs.Query.ColumnLookup

/-!
# What the pieces of a template are

The pieces of a scan make up the template, literal text and tokens in turn. The tokens are tokens by
the same test that a parameter's definition has to pass, and no literal text has one in it.

What is left to say is which of the places where a token's text stands the scan takes for tokens. A
mark may close one token and open the text of another, and then only one of the two is found. So
the text of a token is found at its place unless the mark that it begins with closes a token that is
found (`foundAt_cut`, by induction on the cut).
-/

namespace TileDepot.Query

/-- Literal text and tokens in turn: no two literal pieces stand side by side, and none is empty. -/
structure Alternate (ps : List Piece) : Prop where
  turns : ps.IsChain fun p q => p.token?.isSome = true ∨ q.token?.isSome = true
  solid : Piece.literal [] ∉ ps

/-- Among these pieces the token `t` is found behind the text `before`. -/
def FoundAt (ps : List Piece) (before : List Char) (t : String) : Prop :=
  ∃ front p back, ps = front ++ p :: back ∧ p.token? = some t ∧
    front.flatMap Piece.chars = before

/-! ## Tokens by name -/

theorem token_toList (n : List Char) (t : String) :
    (Piece.token n).token? = some t ↔ t.toList = '!' :: (n ++ ['!']) := by
  unfold Piece.token?
  rw [Option.some.injEq]
  constructor
  · rintro rfl
    exact String.toList_ofList
  · exact fun h => by rw [← h, String.ofList_toList]

/-- The pieces of a cut that are tokens have names. -/
theorem cut_names {s : List Char} {ps : List Piece} (h : Cut s ps) {n : List Char}
    (hn : Piece.token n ∈ ps) : IsName n := by
  induction h with
  | @last lit _ =>
      have hnone := (mem_literals_append n lit []).mp (by rwa [List.append_nil])
      exact absurd hnone (by simp)
  | @token lit m rest ps hm _ _ ih =>
      rcases List.mem_cons.mp ((mem_literals_append n lit _).mp hn) with heq | hn
      · exact Piece.token.inj heq ▸ hm
      · exact ih hn

theorem cut_tokens {s : List Char} {ps : List Piece} (h : Cut s ps) {p : Piece} {t : String}
    (hp : p ∈ ps) (ht : p.token? = some t) : isToken t = true := by
  cases p with
  | literal lit => exact absurd ht (by simp [Piece.token?])
  | token n => exact (isToken_iff t).mpr ⟨n, cut_names h hp, (token_toList n t).mp ht⟩

/-! ## Literal text -/

/-- Text in which no token begins has no token's text in it. -/
theorem quiet_no_token {lit rest : List Char} (hq : Quiet lit rest) {t : String}
    (ht : isToken t = true) : ¬ t.toList <:+: lit := by
  obtain ⟨n, hn, hchars⟩ := (isToken_iff t).mp ht
  rintro ⟨a, b, hlit⟩
  rw [hchars] at hlit
  refine hq a ('!' :: (n ++ '!' :: b)) (by rw [← hlit]; simp) (by simp) ?_
  exact ⟨n, b ++ rest, hn, by simp⟩

theorem literals_quiet {lit lit' rest : List Char} (hq : Quiet lit rest)
    (h : Piece.literal lit' ∈ Piece.literals lit) : Quiet lit' rest := by
  unfold Piece.literals at h
  split at h
  · exact absurd h (by simp)
  · cases List.mem_singleton.mp h
    exact hq

theorem cut_literals {s : List Char} {ps : List Piece} (h : Cut s ps) {lit : List Char}
    (hlit : Piece.literal lit ∈ ps) {t : String} (ht : isToken t = true) :
    ¬ t.toList <:+: lit := by
  induction h with
  | last hq => exact quiet_no_token (literals_quiet hq hlit) ht
  | token _ hq _ ih =>
      rcases List.mem_append.mp hlit with hlit | hlit
      · exact quiet_no_token (literals_quiet hq hlit) ht
      · rcases List.mem_cons.mp hlit with heq | hlit
        · cases heq
        · exact ih hlit

theorem alternate_literals (lit : List Char) : Alternate (Piece.literals lit) := by
  unfold Piece.literals
  cases lit with
  | nil => exact ⟨List.isChain_nil, by simp⟩
  | cons c lit => exact ⟨List.isChain_singleton _, by simp⟩

/-- A token may stand on either side of anything. -/
theorem alternate_token {ps : List Piece} (h : Alternate ps) (lit n : List Char) :
    Alternate (Piece.literals lit ++ .token n :: ps) := by
  have htoken : (Piece.token n).token?.isSome = true := rfl
  have hbehind : Alternate (.token n :: ps) :=
    ⟨List.isChain_cons.mpr ⟨fun _ _ => Or.inl htoken, h.turns⟩, by simp [h.solid]⟩
  unfold Piece.literals
  cases lit with
  | nil => exact hbehind
  | cons c lit =>
      refine ⟨List.isChain_cons_cons.mpr ⟨Or.inr htoken, hbehind.turns⟩, ?_⟩
      intro hempty
      rcases List.mem_cons.mp hempty with heq | hempty
      · cases heq
      · exact hbehind.solid hempty

theorem cut_alternate {s : List Char} {ps : List Piece} (h : Cut s ps) : Alternate ps := by
  induction h with
  | last _ => exact alternate_literals _
  | token _ _ _ ih => exact alternate_token ih _ _

/-! ## Where a token is found -/

/-- Literal text in front puts the tokens further back and adds none. -/
theorem foundAt_literals {lit before : List Char} {ps : List Piece} {t : String} :
    FoundAt (Piece.literals lit ++ ps) before t ↔ ∃ b, before = lit ++ b ∧ FoundAt ps b t := by
  constructor
  · rintro ⟨front, p, back, hps, ht, hbefore⟩
    rcases List.append_eq_append_iff.mp hps with ⟨b, hfront, hb⟩ | ⟨b, hlit, hb⟩
    · refine ⟨b.flatMap Piece.chars, ?_, b, p, back, hb, ht, rfl⟩
      rw [← hbefore, hfront, List.flatMap_append, literals_chars]
    · cases b with
      | nil =>
          rw [List.append_nil] at hlit
          refine ⟨[], ?_, [], p, back, hb.symm, ht, rfl⟩
          rw [← hbefore, ← hlit, literals_chars, List.append_nil]
      | cons q b =>
          -- a literal piece is no token
          have hq : q = p := (List.cons.inj hb).1.symm
          have hmem : p ∈ Piece.literals lit := by rw [hlit, hq]; simp
          unfold Piece.literals at hmem
          split at hmem
          · exact absurd hmem (by simp)
          · rw [List.mem_singleton.mp hmem] at ht
            exact absurd ht (by simp [Piece.token?])
  · rintro ⟨b, rfl, front, p, back, hps, ht, rfl⟩
    refine ⟨Piece.literals lit ++ front, p, back, by rw [hps, List.append_assoc], ht, ?_⟩
    rw [List.flatMap_append, literals_chars]

theorem foundAt_token {m before : List Char} {ps : List Piece} {t : String} :
    FoundAt (.token m :: ps) before t ↔ (before = [] ∧ t.toList = '!' :: (m ++ ['!'])) ∨
      ∃ b, before = '!' :: (m ++ '!' :: b) ∧ FoundAt ps b t := by
  constructor
  · rintro ⟨front, p, back, hps, ht, rfl⟩
    cases front with
    | nil =>
        obtain ⟨rfl, _⟩ := List.cons.inj hps
        exact Or.inl ⟨rfl, (token_toList m t).mp ht⟩
    | cons q front =>
        obtain ⟨rfl, hbehind⟩ := List.cons.inj hps
        exact Or.inr ⟨front.flatMap Piece.chars, by simp [Piece.chars], front, p, back, hbehind,
          ht, rfl⟩
  · rintro (⟨rfl, ht⟩ | ⟨b, rfl, front, p, back, rfl, ht, rfl⟩)
    · exact ⟨[], .token m, ps, rfl, (token_toList m t).mpr ht, rfl⟩
    · exact ⟨.token m :: front, p, back, rfl, ht, by simp [Piece.chars]⟩

/-- The first token of a cut is found behind its literal text, and the others behind the first. -/
theorem foundAt_first {lit m before : List Char} {ps : List Piece} {t : String} :
    FoundAt (Piece.literals lit ++ .token m :: ps) before t ↔
      (before = lit ∧ t.toList = '!' :: (m ++ ['!'])) ∨
      ∃ b, before = lit ++ '!' :: (m ++ '!' :: b) ∧ FoundAt ps b t := by
  rw [foundAt_literals]
  constructor
  · rintro ⟨b, rfl, hfound⟩
    rcases foundAt_token.mp hfound with ⟨rfl, ht⟩ | ⟨b, rfl, hlater⟩
    · exact Or.inl ⟨List.append_nil lit, ht⟩
    · exact Or.inr ⟨b, rfl, hlater⟩
  · rintro (⟨rfl, ht⟩ | ⟨b, rfl, hfound⟩)
    · exact ⟨[], (List.append_nil _).symm, foundAt_token.mpr (Or.inl ⟨rfl, ht⟩)⟩
    · exact ⟨'!' :: (m ++ '!' :: b), rfl, foundAt_token.mpr (Or.inr ⟨b, rfl, hfound⟩)⟩

/-- A token is found that ends with the mark behind the text `before`. -/
def ClosesAt (ps : List Piece) (before : List Char) : Prop :=
  ∃ t start, FoundAt ps start t ∧ start ++ t.toList = before ++ ['!']

/-- The first mark that closes a token of a cut is that of the first token. -/
theorem closesAt_first {lit m before : List Char} {ps : List Piece} :
    ClosesAt (Piece.literals lit ++ .token m :: ps) before ↔ before = lit ++ '!' :: m ∨
      ∃ b, before = lit ++ '!' :: (m ++ '!' :: b) ∧ ClosesAt ps b := by
  constructor
  · rintro ⟨t, start, hfound, hclose⟩
    rcases foundAt_first.mp hfound with ⟨rfl, ht⟩ | ⟨b, rfl, hfound⟩
    · have hmark : before ++ ['!'] = (start ++ '!' :: m) ++ ['!'] := by
        rw [← hclose, ht]
        simp
      exact Or.inl (List.append_cancel_right hmark)
    · -- the token ends with a mark, so the text before that mark goes on behind the first token
      obtain ⟨front, p, back, _, ht, _⟩ := hfound
      cases p with
      | literal _ => exact absurd ht (by simp [Piece.token?])
      | token n =>
          have hchars := (token_toList n t).mp ht
          have hmark : before ++ ['!']
              = (lit ++ '!' :: (m ++ '!' :: (b ++ '!' :: n))) ++ ['!'] := by
            rw [← hclose, hchars]
            simp
          exact Or.inr ⟨b ++ '!' :: n, List.append_cancel_right hmark, t, b, hfound,
            by rw [hchars]; simp⟩
  · rintro (rfl | ⟨b, rfl, t, start, hfound, hclose⟩)
    · refine ⟨String.ofList ('!' :: (m ++ ['!'])), lit, ?_, by simp⟩
      exact foundAt_first.mpr (Or.inl ⟨rfl, String.toList_ofList⟩)
    · refine ⟨t, lit ++ '!' :: (m ++ '!' :: start), ?_, by simp [hclose]⟩
      exact foundAt_first.mpr (Or.inr ⟨start, rfl, hfound⟩)

/-- **A token's text is found where it stands unless its first mark closes a token.** -/
theorem foundAt_cut {s : List Char} {ps : List Piece} (h : Cut s ps) {t : String}
    (ht : isToken t = true) : ∀ {before after : List Char}, s = before ++ (t.toList ++ after) →
      (FoundAt ps before t ↔ ¬ ClosesAt ps before) := by
  obtain ⟨n, hn, hchars⟩ := (isToken_iff t).mp ht
  induction h with
  | @last lit hq =>
      -- the last literal text has no token's text in it
      intro before after hs
      exact absurd ⟨before, after, by rw [hs, List.append_assoc]⟩ (quiet_no_token hq ht)
  | @token lit m rest ps hm hq hrest ih =>
      intro before after hs
      have htext : before ++ '!' :: (n ++ '!' :: after) = lit ++ '!' :: (m ++ '!' :: rest) := by
        rw [hs, hchars]
        simp
      rw [foundAt_first, closesAt_first]
      rcases place_of_token hn hm hq htext with ⟨rfl, rfl⟩ | ⟨rfl, _⟩ | ⟨b, rfl, hplace⟩
      · -- it is the first token
        simp [hchars]
      · -- it begins at the mark that closes the first token
        simp
      · have hthere := @ih b after (by rw [hplace, hchars]; simp)
        simp [hthere]

/--
**What a scan finds.**

The pieces of a template make it up, literal text and tokens in turn. Each token among them passes
the test for tokens, and no literal text has a text in it that passes. What passes is a name between
two marks: one or more letters, digits, underscores and hyphens of ASCII. The token of a parameter
that can be defined passes, and so do the reserved tokens.

A text that passes is found at a place where it stands if, and only if, the mark that it begins with
does not close a token that is found before; so it is found wherever no text that passes ends with
that mark.
-/
theorem pieces_of_template (template : String) :
    let pieces := scan template
    pieces.flatMap Piece.chars = template.toList ∧
    Alternate pieces ∧
    (∀ p ∈ pieces, ∀ t, p.token? = some t → isToken t = true) ∧
    (∀ lit, Piece.literal lit ∈ pieces → ∀ t, isToken t = true → ¬ t.toList <:+: lit) ∧
    (∀ t, isToken t = true ↔ ∃ n, n ≠ [] ∧ (∀ c ∈ n, IsWord c ∨ c = '-') ∧
      t.toList = '!' :: (n ++ ['!'])) ∧
    (∀ name token fragment kind default p,
      Parameter.define name token fragment kind default = .ok p → isToken p.token = true) ∧
    (∀ t ∈ reservedTokens, isToken t = true) ∧
    ∀ t before after, isToken t = true → template.toList = before ++ (t.toList ++ after) →
      (FoundAt pieces before t ↔ ¬ ClosesAt pieces before) ∧
      ((∀ t', isToken t' = true → ¬ t'.toList <:+ before ++ ['!']) →
        FoundAt pieces before t) := by
  intro pieces
  have hcut : Cut template.toList pieces := scan_cut template
  refine ⟨cut_chars hcut, cut_alternate hcut, fun p hp t => cut_tokens hcut hp,
    fun lit hlit t => cut_literals hcut hlit, ?_, ?_, by decide, ?_⟩
  · intro t
    rw [isToken_iff]
    constructor
    · rintro ⟨n, ⟨hne, hchars⟩, ht⟩
      exact ⟨n, hne, hchars, ht⟩
    · rintro ⟨n, hne, hchars, ht⟩
      exact ⟨n, ⟨hne, hchars⟩, ht⟩
  · intro name token fragment kind default p hdefine
    obtain ⟨hflaw, rfl⟩ := define_ok hdefine
    exact ((flaw_eq_none_iff token fragment).mp hflaw).1
  · intro t before after ht htext
    have hfound := foundAt_cut hcut ht htext
    refine ⟨hfound, fun hfree => hfound.mpr ?_⟩
    rintro ⟨t', start, hthere, hclose⟩
    obtain ⟨front, p, back, hps, hp, _⟩ := id hthere
    have hmem : p ∈ pieces := by rw [hps]; simp
    exact hfree t' (cut_tokens hcut hmem hp) ⟨start, hclose⟩

end TileDepot.Query
