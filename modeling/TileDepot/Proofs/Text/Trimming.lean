import TileDepot.Text.Blank
import TileDepot.Text.Table

/-!
# Trimmed texts

What is left of a text when its blanks at both ends are gone, and what is left when it is cut at a
separator. Trimming twice is trimming once (`trim_trim`), and a text is trimmed just when it neither
begins nor ends with a blank (`trim_eq_self_iff`).
-/

namespace TileDepot.Text

/-! ## Ends -/

theorem dropWhile_eq_self {α : Type} {p : α → Bool} {l : List α}
    (h : ∀ x ∈ l.head?, p x = false) : l.dropWhile p = l := by
  cases l with
  | nil => rfl
  | cons x l => exact List.dropWhile_cons_of_neg (by simp [h x rfl])

/-- **What is left when elements of a kind are taken off both ends.** -/
theorem trimmed_iff {α : Type} {p : α → Bool} {xs core : List α} :
    ((xs.dropWhile p).reverse.dropWhile p).reverse = core ↔
      (∃ front back, xs = front ++ core ++ back ∧ (∀ x ∈ front, p x = true) ∧
        ∀ x ∈ back, p x = true) ∧
      (∀ x ∈ core.head?, p x = false) ∧ ∀ x ∈ core.getLast?, p x = false := by
  constructor
  · rintro rfl
    have hfront := List.takeWhile_append_dropWhile (p := p) (l := xs)
    have hback := List.takeWhile_append_dropWhile (p := p) (l := (xs.dropWhile p).reverse)
    have hmid : xs.dropWhile p = ((xs.dropWhile p).reverse.dropWhile p).reverse
        ++ ((xs.dropWhile p).reverse.takeWhile p).reverse := by
      rw [← List.reverse_append, hback, List.reverse_reverse]
    refine ⟨⟨xs.takeWhile p, ((xs.dropWhile p).reverse.takeWhile p).reverse, ?_, ?_, ?_⟩, ?_, ?_⟩
    · rw [List.append_assoc, ← hmid, hfront]
    · exact fun x hx => List.all_eq_true.mp List.all_takeWhile x hx
    · exact fun x hx => List.all_eq_true.mp List.all_takeWhile x (List.mem_reverse.mp hx)
    · -- the first of what is left is the first behind the front
      intro x hx
      have hhead := List.head?_dropWhile_not p xs
      rw [hmid, List.head?_append, Option.mem_def.mp hx] at hhead
      simpa using hhead
    · intro x hx
      have hhead := List.head?_dropWhile_not p (xs.dropWhile p).reverse
      rw [List.getLast?_reverse] at hx
      rw [Option.mem_def.mp hx] at hhead
      simpa using hhead
  · rintro ⟨⟨front, back, rfl, hfront, hback⟩, hfirst, hlast⟩
    rw [List.append_assoc, List.dropWhile_append_of_pos hfront]
    cases core with
    | nil =>
        have hnone : (back ++ []).dropWhile p = [] := List.dropWhile_append_of_pos hback
        rw [List.append_nil] at hnone
        rw [List.nil_append, hnone]
        rfl
    | cons x core =>
        have hlast' : ∀ y ∈ (x :: core).reverse.head?, p y = false := by
          rw [List.head?_reverse]
          exact hlast
        rw [List.cons_append, dropWhile_eq_self (l := x :: (core ++ back)) hfirst, ← List.cons_append,
          List.reverse_append,
          List.dropWhile_append_of_pos fun y hy => hback y (List.mem_reverse.mp hy),
          dropWhile_eq_self hlast', List.reverse_reverse]
theorem dropBlanksEnd_prefix (cs : List Char) : dropBlanksEnd cs <+: cs := by
  have h : cs.reverse.dropWhile isBlank <:+ cs.reverse := List.dropWhile_suffix _
  rw [dropBlanksEnd, ← List.reverse_suffix, List.reverse_reverse]
  exact h

/-- A trimmed text has no blanks at its ends. -/
theorem edges_trimChars (cs : List Char) : (∀ c ∈ (trimChars cs).head?, isBlank c = false) ∧
    ∀ c ∈ (trimChars cs).getLast?, isBlank c = false :=
  (trimmed_iff.mp rfl).2

theorem trimChars_eq_self_iff {cs : List Char} : trimChars cs = cs ↔
    (∀ c ∈ cs.head?, isBlank c = false) ∧ ∀ c ∈ cs.getLast?, isBlank c = false := by
  constructor
  · intro h
    have hedges := edges_trimChars cs
    rwa [h] at hedges
  · intro h
    exact trim_of_no_edges h.1 h.2

theorem trim_eq_self_iff {s : String} : trim s = s ↔
    (∀ c ∈ s.toList.head?, isBlank c = false) ∧ ∀ c ∈ s.toList.getLast?, isBlank c = false := by
  rw [← trimChars_eq_self_iff, trim]
  constructor
  · intro h
    have := congrArg String.toList h
    rwa [String.toList_ofList] at this
  · intro h
    rw [h, String.ofList_toList]

/-- Trimming twice is trimming once. -/
theorem trim_trim (s : String) : trim (trim s) = trim s := by
  rw [trim_eq_self_iff, trim, String.toList_ofList]
  exact edges_trimChars s.toList

/-! ## Blank texts -/

theorem trimChars_eq_nil {cs : List Char} (h : trimChars cs = []) : ∀ c ∈ cs, isBlank c = true := by
  obtain ⟨⟨front, back, hcs, hfront, hback⟩, _⟩ := trimmed_iff.mp h
  intro c hc
  rw [hcs, List.append_nil] at hc
  exact (List.mem_append.mp hc).elim (hfront c) (hback c)

/-- A text that is there: trimmed and not empty. -/
structure Solid (s : String) : Prop where
  trim : Text.trim s = s
  visible : s ≠ ""

/-- What is left of a text that is not blank. -/
theorem solid_trim {s : String} (h : isBlankText s = false) : Solid (trim s) := by
  refine ⟨trim_trim s, ?_⟩
  intro hempty
  have hnil : trimChars s.toList = [] := by
    have := congrArg String.toList hempty
    rwa [trim, String.toList_ofList] at this
  have hblank : isBlankText s = true := List.all_eq_true.2 (trimChars_eq_nil hnil)
  rw [h] at hblank
  cases hblank

theorem Solid.toList_ne_nil {s : String} (h : Solid s) : s.toList ≠ [] :=
  fun hnil => h.visible (String.toList_eq_nil_iff.1 hnil)

theorem Solid.not_blank {s : String} (h : Solid s) : isBlankText s = false := by
  obtain ⟨c, r, hcr⟩ := List.exists_cons_of_ne_nil h.toList_ne_nil
  have hvisible := (trim_eq_self_iff.1 h.trim).1 c (by rw [hcr]; rfl)
  simp [isBlankText, hcr, hvisible]

theorem Solid.append {a b : String} (ha : Solid a) (hb : Solid b) : Solid (a ++ b) := by
  obtain ⟨c, cs, hcs⟩ := List.exists_cons_of_ne_nil ha.toList_ne_nil
  obtain ⟨d, ds, hds⟩ := List.exists_cons_of_ne_nil hb.toList_ne_nil
  have hhead := (trim_eq_self_iff.1 ha.trim).1
  have hlast := (trim_eq_self_iff.1 hb.trim).2
  refine ⟨trim_eq_self_iff.2 ⟨?_, ?_⟩, ?_⟩
  · rw [hcs] at hhead
    rw [String.toList_append, hcs]
    exact hhead
  · rw [hds] at hlast
    rw [String.toList_append, hds, List.getLast?_append, List.getLast?_cons, Option.some_or]
    rwa [List.getLast?_cons] at hlast
  · intro hempty
    have hnil := congrArg String.toList hempty
    rw [String.toList_append, hcs] at hnil
    cases hnil

/-! ## Pieces -/

theorem pieces_cons {separator : Char} {xs : List Char} (h : separator ∉ xs) (ys : List Char) :
    pieces separator (xs ++ separator :: ys) = xs :: pieces separator ys := by
  induction xs with
  | nil => simp [pieces]
  | cons x xs ih =>
      have hx : (x == separator) = false := beq_eq_false_iff_ne.2 (fun e => h (e ▸ List.mem_cons_self))
      have hxs : separator ∉ xs := fun hm => h (List.mem_cons_of_mem _ hm)
      simp [pieces, hx, ih hxs]

theorem pieces_last {separator : Char} {xs : List Char} (h : separator ∉ xs) :
    pieces separator xs = [xs] := by
  induction xs with
  | nil => rfl
  | cons x xs ih =>
      have hx : (x == separator) = false := beq_eq_false_iff_ne.2 (fun e => h (e ▸ List.mem_cons_self))
      have hxs : separator ∉ xs := fun hm => h (List.mem_cons_of_mem _ hm)
      simp [pieces, hx, ih hxs]

/-- No piece holds the separator. -/
theorem not_mem_of_mem_pieces {separator : Char} {xs p : List Char} (hp : p ∈ pieces separator xs) :
    separator ∉ p := by
  induction xs generalizing p with
  | nil =>
      rw [List.mem_singleton.1 hp]
      exact List.not_mem_nil
  | cons x xs ih =>
      rw [pieces] at hp
      split at hp
      · rcases List.mem_cons.1 hp with rfl | hp
        · exact List.not_mem_nil
        · exact ih hp
      · rename_i hx
        have hne : separator ≠ x := fun e => hx (beq_iff_eq.2 e.symm)
        split at hp
        · rw [List.mem_singleton.1 hp]
          simpa using hne
        · rename_i q qs hq
          rcases List.mem_cons.1 hp with rfl | hp
          · have := ih (hq ▸ List.mem_cons_self)
            simp [hne, this]
          · exact ih (hq ▸ List.mem_cons_of_mem _ hp)

end TileDepot.Text
