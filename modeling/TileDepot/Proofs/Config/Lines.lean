import Mathlib.Data.List.Forall2
import TileDepot.Config.IniText
import TileDepot.Config.Saving
import TileDepot.Proofs.Text.Trimming

/-!
# What is read of written lines

Settings are written line by line: a heading, remarks, keys with their values, and an empty line
between sections. `Takes` says that reading some lines takes the reader from one draft to another,
whatever stands behind them, and holds line after line (`Takes.append`). A value is written without
quotes and escapes. So it is read as it is if it is `Tidy`, and with its escapes resolved otherwise
(`readAs_unescaped`). The main result is `parse_written`: reading gives the sections with what is
read of their rows, in order.
-/

namespace TileDepot.Config

open IniText

/-! ## Places -/

theorem rest_step {p : Place} {c : Char} {r : List Char} (h : p.rest = c :: r) : p.step.rest = r := by
  obtain ⟨rest, ln, col⟩ := p
  subst h
  unfold Place.step
  split
  · rename_i heq
    cases heq
  · rename_i heq
    cases heq
    rfl
  · rename_i heq
    cases heq
    rfl

/-- The end of a line is where the next one begins. -/
theorem step_newline {p : Place} {r : List Char} (h : p.rest = '\n' :: r) :
    p.step = ⟨r, p.line + 1, 1⟩ := by
  obtain ⟨rest, ln, col⟩ := p
  subst h
  rfl

theorem rest_skip (p : Place) (n : Nat) : (p.skip n).rest = p.rest.drop n := by
  induction n generalizing p with
  | zero => rfl
  | succ n ih =>
      rw [Place.skip, ih]
      cases h : p.rest with
      | nil =>
        have : p.step = p := by
          obtain ⟨rest, ln, col⟩ := p
          subst h
          rfl
        simp [this, h]
      | cons c r => rw [rest_step h, List.drop_succ_cons]

theorem rest_skipWhile (p : Place) (q : Char → Bool) :
    (p.skipWhile q).rest = p.rest.dropWhile q := by
  rw [Place.skipWhile, rest_skip]
  generalize p.rest = cs
  induction cs with
  | nil => rfl
  | cons c cs ih =>
      by_cases hc : q c <;> simp [hc, ih]

/-- The place where the next step of reading begins. -/
def settle (p : Place) : Place :=
  skipSpace (p.rest.length + 1) p

theorem settle_visible {p : Place} {c : Char} {r : List Char} (h : p.rest = c :: r)
    (hc : Text.isBlank c = false) : settle p = p := by
  unfold settle skipSpace
  rw [h]
  simp [hc]

/-- No blank or tab comes first. -/
def Flush (cs : List Char) : Prop :=
  ∀ c ∈ cs.head?, isBlankOrTab c = false

theorem Flush.append {xs ys : List Char} (hx : Flush xs) (hy : Flush ys) : Flush (xs ++ ys) := by
  cases xs with
  | nil => exact hy
  | cons c xs => exact hx

/-- After the end of a line, the next line is what counts. -/
theorem settle_newline {p : Place} {r : List Char} (h : p.rest = '\n' :: r) (hr : Flush r) :
    settle p = settle ⟨r, p.line + 1, 1⟩ := by
  have hstep := step_newline h
  have hindent : (isLineEnd '\n' && r.head?.any isBlankOrTab) = false := by
    cases r with
    | nil => rfl
    | cons c r =>
      have hc := hr c rfl
      simp [hc]
  have hblank : Text.isBlank '\n' = true := by decide
  unfold settle
  rw [h, List.length_cons]
  conv => lhs; unfold skipSpace
  rw [h]
  simp only [hblank, hindent, hstep]
  rfl

/-! ## Text up to a stop -/

/-- Reading up to these stops leaves the characters as they are. -/
def Passes (stops : Stops) (cs : List Char) : Prop :=
  ∀ c ∈ cs, stops.chars.contains c = false ∧ c ≠ '\\'

instance (stops : Stops) (cs : List Char) : Decidable (Passes stops cs) :=
  List.decidableBAll _ cs

theorem Passes.append {stops : Stops} {xs ys : List Char} (hx : Passes stops xs)
    (hy : Passes stops ys) : Passes stops (xs ++ ys) :=
  List.forall_mem_append.2 ⟨hx, hy⟩

/-- What reading up to a stop makes of text: a backslash takes the next character for an escape,
others stay as they are. Codes and lines that go on are left out. -/
inductive Unescapes (stops : Stops) : List Char → List Char → Prop where
  | nil : Unescapes stops [] []
  | char {c : Char} {cs ds : List Char} :
      stops.chars.contains c = false → c ≠ '\\' → Unescapes stops cs ds →
      Unescapes stops (c :: cs) (c :: ds)
  | escape {c : Char} {cs ds : List Char} :
      c ≠ 'x' → c ≠ '\n' → Unescapes stops cs ds →
      Unescapes stops ('\\' :: c :: cs) (escaped c :: ds)

theorem Passes.unescapes_append {stops : Stops} {cs xs ys : List Char} (h : Passes stops cs)
    (hrest : Unescapes stops xs ys) : Unescapes stops (cs ++ xs) (cs ++ ys) := by
  induction cs with
  | nil => exact hrest
  | cons c cs ih =>
      obtain ⟨hc, hcs⟩ := List.forall_mem_cons.1 h
      exact .char hc.1 hc.2 (ih hcs)

theorem Passes.unescapes {stops : Stops} {cs : List Char} (h : Passes stops cs) :
    Unescapes stops cs cs := by
  simpa using h.unescapes_append .nil

theorem readUntil_unescapes {stops : Stops} {s : Char} (hs : stops.chars.contains s = true)
    (hslash : stops.chars.contains '\\' = false) {r cs ds : List Char} (h : Unescapes stops cs ds)
    (seen : List Char) {p : Place} (hp : p.rest = cs ++ s :: r) (fuel : Nat)
    (hfuel : cs.length < fuel) :
    ∃ p' : Place, p'.rest = s :: r ∧ readUntil stops fuel seen p = .ok (seen.reverse ++ ds, p') := by
  induction h generalizing seen p fuel with
  | nil =>
      obtain ⟨fuel, rfl⟩ := Nat.exists_eq_succ_of_ne_zero (Nat.ne_of_gt hfuel)
      refine ⟨p, hp, ?_⟩
      rw [List.nil_append] at hp
      unfold readUntil
      simp only [hp, hs, if_true, List.append_nil]
  | @char c cs ds hstop hne _ ih =>
      obtain ⟨fuel, rfl⟩ : ∃ k, fuel = k + 1 := ⟨fuel - 1, by omega⟩
      have hne' : (c == '\\') = false := beq_eq_false_iff_ne.2 hne
      rw [List.cons_append] at hp
      obtain ⟨p', hp', hread⟩ := ih (c :: seen) (rest_step hp) fuel
        (by rw [List.length_cons] at hfuel; omega)
      refine ⟨p', hp', ?_⟩
      unfold readUntil
      simp only [hp, hstop, hne', Bool.false_eq_true, if_false]
      rw [hread]
      simp
  | @escape c cs ds hcode hline _ ih =>
      obtain ⟨fuel, rfl⟩ : ∃ k, fuel = k + 1 := ⟨fuel - 1, by omega⟩
      rw [List.cons_append, List.cons_append] at hp
      have hskip : (p.skip 2).rest = cs ++ s :: r := by
        rw [rest_skip, hp]
        rfl
      obtain ⟨p', hp', hread⟩ := ih (escaped c :: seen) hskip fuel
        (by rw [List.length_cons, List.length_cons] at hfuel; omega)
      refine ⟨p', hp', ?_⟩
      unfold readUntil
      simp only [hp, hslash, beq_self_eq_true, Bool.false_eq_true, if_false, if_true]
      rw [hread]
      simp

theorem untilStop_unescapes {stops : Stops} {s : Char} (hs : stops.chars.contains s = true)
    (hslash : stops.chars.contains '\\' = false) {r cs ds : List Char} (h : Unescapes stops cs ds)
    {p : Place} (hp : p.rest = cs ++ s :: r) :
    ∃ p' : Place, p'.rest = s :: r ∧ untilStop? stops p = .ok (ds, p') := by
  obtain ⟨p', hp', hread⟩ := readUntil_unescapes hs hslash h [] hp (p.rest.length + 1) (by
    rw [hp, List.length_append]
    omega)
  refine ⟨p', hp', ?_⟩
  unfold untilStop? untilStop
  rw [hread]
  rfl

/-! ## One line -/

/-- Reading the lines `cs`, which begin where a line does, takes the draft `d` to `d'`, whatever
lines follow. -/
def Takes (cs : List Char) (d d' : Draft) : Prop :=
  ∀ rest ln, Flush rest → ∃ ln' steps, steps ≤ 2 * cs.length ∧ ∀ fuel,
    readAll (fuel + steps) d (settle ⟨cs ++ rest, ln, 1⟩) =
      readAll fuel d' (settle ⟨rest, ln', 1⟩)

theorem Takes.append {xs ys : List Char} {d d' d'' : Draft} (hx : Takes xs d d')
    (hy : Takes ys d' d'') (hflush : Flush ys) : Takes (xs ++ ys) d d'' := by
  intro rest ln hrest
  obtain ⟨ln', k, hk, h⟩ := hx (ys ++ rest) ln (hflush.append hrest)
  obtain ⟨ln'', k', hk', h'⟩ := hy rest ln' hrest
  refine ⟨ln'', k' + k, by rw [List.length_append]; omega, ?_⟩
  intro fuel
  rw [List.append_assoc, ← Nat.add_assoc, h, h']

theorem readAll_settled {d d' : Draft} {p p' : Place} {c : Char} {r : List Char}
    (hp : p.rest = c :: r) (hstep : IniText.step d p c = .ok (.settled d' p')) (fuel : Nat) :
    readAll (fuel + 1) d p = readAll fuel d' (settle p') := by
  rw [readAll]
  simp only [hp, hstep]
  rfl

/-- An empty line does not count. -/
theorem takes_empty (d : Draft) : Takes ['\n'] d d := by
  intro rest ln hrest
  have h : (⟨['\n'] ++ rest, ln, 1⟩ : Place).rest = '\n' :: rest := rfl
  refine ⟨ln + 1, 0, by simp, ?_⟩
  intro fuel
  rw [settle_newline h hrest]
  rfl

/-- A remark does not count. -/
theorem takes_remark {text : String} (htext : '\n' ∉ text.toList) (d : Draft) :
    Takes (remark text).toList d d := by
  intro rest ln hrest
  have hchars : (remark text).toList ++ rest = ';' :: ((' ' :: text.toList) ++ '\n' :: rest) := by
    simp [remark]
  rw [hchars]
  have hstart : (⟨';' :: ((' ' :: text.toList) ++ '\n' :: rest), ln, 1⟩ : Place).rest =
    ';' :: ((' ' :: text.toList) ++ '\n' :: rest) := rfl
  generalize hp : (⟨';' :: ((' ' :: text.toList) ++ '\n' :: rest), ln, 1⟩ : Place) = p at hstart
  have hcolumn : p.column = 1 := by rw [← hp]
  have hskip : (p.skipWhile (· != '\n')).rest = '\n' :: rest := by
    rw [rest_skipWhile, hstart, List.dropWhile_cons_of_pos (by decide),
      List.dropWhile_append_of_pos, List.dropWhile_cons_of_neg (by decide)]
    intro c hc
    rcases List.mem_cons.1 hc with rfl | hc
    · decide
    · have : c ≠ '\n' := fun h => htext (h ▸ hc)
      simpa using this
  have hstep : IniText.step d p ';' =
      .ok (.settled d ⟨rest, (p.skipWhile (· != '\n')).line + 1, 1⟩) := by
    unfold IniText.step
    rw [step_newline hskip]
    simp [hcolumn]
  refine ⟨(p.skipWhile (· != '\n')).line + 1, 1, ?_, fun fuel => ?_⟩
  · simp [remark]
    omega
  · rw [settle_visible hstart (by decide), readAll_settled hstart hstep]

/-- A heading opens a section. Its name ends with the first bracket. -/
theorem takes_heading {name : String} (hname : Passes { chars := [']'] } name.toList) (d : Draft) :
    Takes (heading name).toList d (d.openSection (Text.trim name)) := by
  intro rest ln hrest
  have hchars : (heading name).toList ++ rest = '[' :: (name.toList ++ ']' :: '\n' :: rest) := by
    simp [heading]
  rw [hchars]
  have hstart : (⟨'[' :: (name.toList ++ ']' :: '\n' :: rest), ln, 1⟩ : Place).rest =
    '[' :: (name.toList ++ ']' :: '\n' :: rest) := rfl
  generalize (⟨'[' :: (name.toList ++ ']' :: '\n' :: rest), ln, 1⟩ : Place) = p at hstart
  obtain ⟨p', hp', hread⟩ := untilStop_unescapes (by decide) (by decide) hname.unescapes
    (rest_step hstart)
  have hstep : IniText.step d p '[' = .ok (.settled (d.openSection (Text.trim name)) p'.step) := by
    unfold IniText.step IniText.heading
    rw [hread]
    simp [Except.map, bind, Except.bind, pure, Except.pure]
  refine ⟨p'.step.line + 1, 1, ?_, fun fuel => ?_⟩
  · simp [heading]
    omega
  · rw [settle_visible hstart (by decide), readAll_settled hstart hstep,
      settle_newline (rest_step hp') hrest]

/-! ## Keys and values -/

/-- A key of small letters and underscores. -/
def IsKey (key : String) : Prop :=
  key.toList ≠ [] ∧ ∀ c ∈ key.toList, (c.isLower || c == '_') = true

instance (key : String) : Decidable (IsKey key) :=
  @instDecidableAnd _ _ _ (List.decidableBAll _ key.toList)

/-- A character of a key is none that reading takes for something else. -/
theorem keyChar_ordinary {c : Char} (h : (c.isLower || c == '_') = true) :
    (c == ';' || c == '#') = false ∧ c ≠ '[' ∧ keyEnd.chars.contains c = false ∧
      isBlankOrTab c = false ∧ isLineEnd c = false ∧ c ≠ '\\' ∧ Text.isBlank c = false := by
  have hrange : 95 ≤ c.toNat ∧ c.toNat ≤ 122 := by
    rcases Bool.or_eq_true _ _ ▸ h with h | h
    · have hlower : (decide (c.val ≥ 'a'.val) && decide (c.val ≤ 'z'.val)) = true := h
      rw [Bool.and_eq_true, decide_eq_true_eq, decide_eq_true_eq, ge_iff_le,
        UInt32.le_iff_toNat_le, UInt32.le_iff_toNat_le] at hlower
      have hletter : 97 ≤ c.toNat ∧ c.toNat ≤ 122 := hlower
      omega
    · rw [beq_iff_eq.1 h]
      decide
  have hne : ∀ d : Char, d.toNat < 95 → c ≠ d := by
    rintro d hd rfl
    omega
  refine ⟨?_, hne '[' (by decide), ?_, ?_, ?_, hne '\\' (by decide), ?_⟩
  · simp [hne ';' (by decide), hne '#' (by decide)]
  · simp [keyEnd, hne '=' (by decide), hne ':' (by decide)]
  · simp [isBlankOrTab, hne ' ' (by decide), hne '\t' (by decide)]
  · simp [isLineEnd, hne '\n' (by decide), hne '\r' (by decide)]
  · simp only [Text.isBlank, Bool.or_eq_false_iff, Bool.and_eq_false_iff, decide_eq_false_iff_not,
      beq_eq_false_iff_ne]
    omega

/-- A value that a line keeps as it is: no escapes, no further line, no quote in front. -/
structure Plain (v : String) : Prop where
  chars : ∀ c ∈ v.toList, c ≠ '\\' ∧ c ≠ '\n' ∧ c ≠ '\r'
  unquoted : ∀ c ∈ v.toList.head?, c ≠ '"' ∧ c ≠ '\''

instance (v : String) : Decidable (Plain v) :=
  @decidable_of_iff _ _ ⟨fun h => ⟨h.1, h.2⟩, fun h => ⟨h.chars, h.unquoted⟩⟩
    (@instDecidableAnd _ _ (List.decidableBAll _ v.toList) (Option.decidableForallMem v.toList.head?))

theorem Plain.passes {v : String} (h : Plain v) : Passes lineEnd v.toList := by
  intro c hc
  obtain ⟨h1, h2, h3⟩ := h.chars c hc
  exact ⟨by simp [lineEnd, h2, h3], h1⟩

/-- A plain value with nothing to trim. -/
structure Tidy (v : String) : Prop extends Plain v where
  trim : Text.trim v = v

/-- A line with the value `v` is read as one that says `v'`. -/
def ReadAs (v v' : String) : Prop :=
  ∀ (p : Place) (r : List Char), p.rest = ' ' :: (v.toList ++ '\n' :: r) →
    ∃ p' : Place, p'.rest = '\n' :: r ∧ IniText.value p = .ok (v', p')

/-- **What is read of a value**: its escapes are resolved, and then it is trimmed. -/
theorem readAs_unescaped {v : String} {ds : List Char} (h : Unescapes lineEnd v.toList ds)
    (hfront : ∀ c ∈ v.toList.head?, Text.isBlank c = false ∧ c ≠ '"' ∧ c ≠ '\'') :
    ReadAs v (Text.trim (String.ofList ds)) := by
  intro p r hp
  have hskip : (p.skipWhile fun c => Text.isBlank c && !isLineEnd c).rest
      = v.toList ++ '\n' :: r := by
    rw [rest_skipWhile, hp, List.dropWhile_cons_of_pos (by decide)]
    cases hv : v.toList with
    | nil => exact List.dropWhile_cons_of_neg (by decide)
    | cons c cs =>
      have hc : Text.isBlank c = false := (hfront c (by rw [hv]; rfl)).1
      exact List.dropWhile_cons_of_neg (by simp [hc])
  obtain ⟨p', hp', hread⟩ := untilStop_unescapes (by decide) (by decide) h hskip
  generalize hq : (p.skipWhile fun c => Text.isBlank c && !isLineEnd c) = q at hskip hread
  have hparts : quotedParts (q.rest.length + 1) [] false q = .ok ([], false, q) := by
    unfold quotedParts
    cases hv : v.toList with
    | nil => simp [hskip, hv]
    | cons c cs =>
      obtain ⟨-, h1, h2⟩ := hfront c (by rw [hv]; rfl)
      simp [hskip, hv, h1, h2]
  refine ⟨p', hp', ?_⟩
  unfold IniText.value
  dsimp only
  rw [hq, hparts]
  simp [bind, Except.bind, pure, Except.pure, hread, Text.trim]

/-- A tidy value is read as it stands. -/
theorem Tidy.readAs {v : String} (h : Tidy v) : ReadAs v v := by
  have hhead := (Text.trim_eq_self_iff.1 h.trim).1
  have hread := readAs_unescaped h.passes.unescapes fun c hc => ⟨hhead c hc, h.unquoted c hc⟩
  rwa [String.ofList_toList, h.trim] at hread

/-- The blank behind a key does not count. -/
theorem trim_key {key : String} (hkey : IsKey key) :
    Text.trim (String.ofList (key.toList ++ [' '])) = key := by
  have hvisible : ∀ c ∈ key.toList, Text.isBlank c = false := fun c hc =>
    (keyChar_ordinary (hkey.2 c hc)).2.2.2.2.2.2
  obtain ⟨c, r, hcr⟩ := List.exists_cons_of_ne_nil hkey.1
  have hfront : Text.dropBlanks (key.toList ++ [' ']) = key.toList ++ [' '] :=
    Text.dropBlanks_eq_self (by
      rw [hcr]
      intro d hd
      cases hd
      exact hvisible c (by rw [hcr]; exact List.mem_cons_self))
  have hback : Text.isBlank ' ' = true := by decide
  have htrimmed : Text.trimChars (key.toList ++ [' ']) = key.toList := by
    rw [Text.trimChars, hfront, Text.dropBlanksEnd, List.reverse_append, List.reverse_singleton,
      List.singleton_append, List.dropWhile_cons_of_pos hback]
    exact Text.dropBlanksEnd_eq_self fun c hc => hvisible c (List.mem_of_getLast? hc)
  rw [Text.trim, String.toList_ofList, htrimmed, String.ofList_toList]

/-- A line for a key adds a pair. -/
theorem takes_line {key v v' : String} (hkey : IsKey key) (hvalue : ReadAs v v') (s : IniSection)
    (ss : List IniSection) :
    Takes (line key v).toList ⟨s :: ss, ""⟩ ⟨{ s with pairs := (key, v') :: s.pairs } :: ss, ""⟩ := by
  intro rest ln hrest
  have hchars : (line key v).toList ++ rest =
      (key.toList ++ [' ']) ++ '=' :: ' ' :: (v.toList ++ '\n' :: rest) := by
    simp [line]
  rw [hchars]
  obtain ⟨c, r, hcr⟩ := List.exists_cons_of_ne_nil hkey.1
  obtain ⟨h1, h2, h3, h4, h5, -, h7⟩ := keyChar_ordinary (hkey.2 c (by rw [hcr]; simp))
  have hrest' : (⟨(key.toList ++ [' ']) ++ '=' :: ' ' :: (v.toList ++ '\n' :: rest), ln, 1⟩ :
      Place).rest = (key.toList ++ [' ']) ++ '=' :: ' ' :: (v.toList ++ '\n' :: rest) := rfl
  generalize (⟨(key.toList ++ [' ']) ++ '=' :: ' ' :: (v.toList ++ '\n' :: rest), ln, 1⟩ :
      Place) = p at hrest'
  have hstart : p.rest = c :: ((r ++ [' ']) ++ '=' :: ' ' :: (v.toList ++ '\n' :: rest)) := by
    rw [hrest', hcr]
    rfl
  -- the first step reads the key
  have hpasses : Passes keyEnd (key.toList ++ [' ']) := by
    intro d hd
    rcases List.mem_append.1 hd with hd | hd
    · obtain ⟨-, -, h3, -, -, h6, -⟩ := keyChar_ordinary (hkey.2 d hd)
      exact ⟨h3, h6⟩
    · rw [List.mem_singleton.1 hd]
      exact ⟨by decide, by decide⟩
  obtain ⟨p', hp', hread⟩ := untilStop_unescapes (by decide) (by decide) hpasses.unescapes hrest'
  have hstep : IniText.step ⟨s :: ss, ""⟩ p c = .ok (.settled ⟨s :: ss, key⟩ p') := by
    unfold IniText.step
    simp only [h1, h2, h3, h4, h5, beq_iff_eq, Bool.false_eq_true, if_false, hread, Except.map,
      withKey, trim_key hkey]
  -- the second one reads the value
  obtain ⟨p'', hp'', hvalue⟩ := hvalue p'.step rest (rest_step hp')
  have hne : key.isEmpty = false := by
    rw [← Bool.not_eq_true, String.isEmpty_iff]
    rintro rfl
    exact hkey.1 rfl
  have hstep' : IniText.step ⟨s :: ss, key⟩ p' '=' =
      .ok (.settled ⟨{ s with pairs := (key, v') :: s.pairs } :: ss, ""⟩ p'') := by
    unfold IniText.step
    rw [hvalue]
    simp [keyEnd, hne, Except.map, Draft.addPair]
  refine ⟨p''.line + 1, 2, ?_, fun fuel => ?_⟩
  · simp [line]
    omega
  · rw [settle_visible hstart h7, readAll_settled hstart hstep, settle_visible hp' (by decide),
      readAll_settled hp' hstep', settle_newline hp'' hrest]

/-! ## Sections -/

/-- Rows with the pairs that are read of them. -/
inductive Reads : List Row → List (String × String) → Prop where
  | nil : Reads [] []
  | remark {text : String} {rows : List Row} {pairs : List (String × String)} :
      '\n' ∉ text.toList → Reads rows pairs → Reads (.remark text :: rows) pairs
  | pair {key v v' : String} {rows : List Row} {pairs : List (String × String)} :
      IsKey key → ReadAs v v' → Reads rows pairs →
      Reads (.pair key v :: rows) ((key, v') :: pairs)

theorem Reads.flush {rows : List Row} {pairs : List (String × String)} (h : Reads rows pairs) :
    Flush (rowsText rows).toList := by
  intro c hc
  cases h with
  | nil => cases hc
  | @remark text rows =>
      have htext : (rowsText (.remark text :: rows)).toList =
          ';' :: ' ' :: (text.toList ++ '\n' :: (rowsText rows).toList) := by
        simp [rowsText, Row.text, Config.remark]
      rw [htext] at hc
      cases hc
      decide
  | @pair key v _ rows _ hkey =>
      obtain ⟨d, cs, hcs⟩ := List.exists_cons_of_ne_nil hkey.1
      have htext : (rowsText (.pair key v :: rows)).toList =
          d :: (cs ++ (" = " ++ v ++ "\n" ++ rowsText rows).toList) := by
        simp [rowsText, Row.text, line, hcs]
      rw [htext] at hc
      cases hc
      exact (keyChar_ordinary (hkey.2 c (by rw [hcs]; simp))).2.2.2.1

theorem takes_rows {rows : List Row} {pairs : List (String × String)} (h : Reads rows pairs)
    (s : IniSection) (ss : List IniSection) : Takes (rowsText rows).toList ⟨s :: ss, ""⟩
      ⟨{ s with pairs := pairs.reverse ++ s.pairs } :: ss, ""⟩ := by
  have htext : ∀ (r : Row) (rows : List Row),
      (rowsText (r :: rows)).toList = r.text.toList ++ (rowsText rows).toList :=
    fun r rows => String.toList_append
  induction h generalizing s with
  | nil => exact fun rest ln _ => ⟨ln, 0, by simp, fun fuel => rfl⟩
  | remark hremark hrest ih =>
      rw [htext]
      exact (takes_remark hremark ⟨s :: ss, ""⟩).append (ih s) hrest.flush
  | pair hkey hvalue hrest ih =>
      rw [htext]
      have h' := (takes_line hkey hvalue s ss).append (ih _) hrest.flush
      simpa [Row.text] using h'

/-- The section `s` is what is read of `w`. The name ends where the heading does. -/
structure Written.Reads (w : Written) (s : IniSection) : Prop where
  ends : Passes { chars := [']'] } w.name.toList
  name : s.name = some (Text.trim w.name)
  rows : Config.Reads w.rows s.pairs

/-- The section with its pairs from last to first, as drafts have them. -/
def backward (s : IniSection) : IniSection :=
  { s with pairs := s.pairs.reverse }

theorem Written.flush (w : Written) : Flush w.text.toList := by
  have htext : w.text.toList = '[' :: (w.name ++ "]\n" ++ rowsText w.rows).toList := by
    simp [Written.text, heading]
  rw [htext]
  intro c hc
  cases hc
  decide

theorem takes_written {w : Written} {s : IniSection} (h : w.Reads s) (ss : List IniSection) :
    Takes w.text.toList ⟨ss, ""⟩ ⟨backward s :: ss, ""⟩ := by
  have hrows := takes_rows h.rows ⟨some (Text.trim w.name), []⟩ ss
  have htext : w.text.toList = (heading w.name).toList ++ (rowsText w.rows).toList :=
    String.toList_append
  rw [htext]
  have h' := (takes_heading h.ends ⟨ss, ""⟩).append hrows h.rows.flush
  simpa [Draft.openSection, backward, h.name] using h'

theorem flush_all (ws : List Written) : Flush ("\n".intercalate (ws.map Written.text)).toList := by
  cases ws with
  | nil =>
      intro c hc
      cases hc
  | cons w ws =>
      have hflush := w.flush
      cases ws with
      | nil => simpa using hflush
      | cons w' ws =>
        have htext : ("\n".intercalate ((w :: w' :: ws).map Written.text)).toList =
            w.text.toList ++ '\n' :: ("\n".intercalate ((w' :: ws).map Written.text)).toList := by
          simp [String.intercalate_cons_cons]
        rw [htext]
        refine hflush.append ?_
        intro c hc
        cases hc
        decide

/-- Sections with an empty line between them. -/
theorem takes_all {ws : List Written} {ts : List IniSection}
    (h : List.Forall₂ Written.Reads ws ts) (ss : List IniSection) :
    Takes ("\n".intercalate (ws.map Written.text)).toList ⟨ss, ""⟩
      ⟨(ts.map backward).reverse ++ ss, ""⟩ := by
  induction h generalizing ss with
  | nil => exact fun rest ln _ => ⟨ln, 0, by simp, fun fuel => rfl⟩
  | @cons w t ws ts hfirst hrest ih =>
      cases ws with
      | nil =>
        cases hrest
        simpa using takes_written hfirst ss
      | cons w' ws =>
        have htext : ("\n".intercalate ((w :: w' :: ws).map Written.text)).toList =
            w.text.toList ++ (['\n'] ++ ("\n".intercalate ((w' :: ws).map Written.text)).toList) := by
          simp [String.intercalate_cons_cons]
        have hnewline : Flush ['\n'] := by
          intro c hc
          cases hc
          decide
        have hflush := flush_all (w' :: ws)
        rw [htext]
        have h' := (takes_written hfirst ss).append
          ((takes_empty _).append (ih (backward t :: ss)) hflush) (hnewline.append hflush)
        simpa using h'

/-- **Reading goes back over what is written.** It gives what is read of each section, in order,
behind the section without a name. -/
theorem parse_written {w : Written} {ws : List Written} {ts : List IniSection}
    (h : List.Forall₂ Written.Reads (w :: ws) ts) :
    IniText.parse ("\n".intercalate ((w :: ws).map Written.text)) = .ok ⟨⟨none, []⟩ :: ts⟩ := by
  obtain ⟨cs, hcs⟩ : ∃ cs, ("\n".intercalate ((w :: ws).map Written.text)).toList = '[' :: cs := by
    cases ws with
    | nil => exact ⟨_, by simp [Written.text, heading]; rfl⟩
    | cons w' ws => exact ⟨_, by simp [String.intercalate_cons_cons, Written.text, heading]; rfl⟩
  obtain ⟨ln, k, hk, hread⟩ := takes_all h [⟨none, []⟩] [] 1 (by intro c hc; cases hc)
  rw [hcs] at hread hk
  obtain ⟨fuel, hfuel⟩ : ∃ fuel, 2 * ('[' :: cs).length + 2 = fuel + 1 + k :=
    ⟨2 * ('[' :: cs).length + 1 - k, by omega⟩
  have hstart : settle ⟨'[' :: cs ++ [], 1, 1⟩ = .start ('[' :: cs) := by
    rw [List.append_nil]
    exact settle_visible rfl (by decide)
  have hend : ∀ d, readAll (fuel + 1) d (settle ⟨[], ln, 1⟩) = .ok d := fun d => rfl
  have hread' := hread (fuel + 1)
  rw [hstart, hend] at hread'
  have hdraft : Draft.start = ⟨[⟨none, []⟩], ""⟩ := rfl
  unfold IniText.parse
  rw [hcs]
  -- there is no byte order mark, as the text begins with a bracket
  change (readAll (2 * ('[' :: cs).length + 2) .start (.start ('[' :: cs))).map Draft.finish = _
  rw [hfuel, hdraft, hread']
  simp [Except.map, Draft.finish, backward, Function.comp_def]

end TileDepot.Config
