import Mathlib.Data.List.Basic
import Mathlib.Data.List.Induction
import TileDepot.Proofs.Query.Scan
import TileDepot.Query.Statement

/-!
# What a filled-in template says

Filling in makes two passes: the first resolves each token once and grows the list of arguments, the
second puts the texts in. Here is what comes out, said without a table and without an order of
evaluation: the tokens that take an argument have an order (`Bindings.order`), a token's number is
its place in that order behind the arguments that were there before (`Bindings.number`), and each
piece of the template is shown by itself (`Bindings.shown`).

`resolveAll_args` and `resolveAll_lookup` tie the first pass to that, for any list of distinct
tokens and any arguments before them. `fill_shown` puts the passes together.
-/

namespace TileDepot.Query

/-! ## The text of a query, piece by piece -/

/-- A fragment cut at its question marks and joined again with `$k`. -/
def fragmentAt (fragment : String) (k : Nat) : List Char :=
  ('$' :: (toString k).toList).intercalate (fragment.toList.splitOn '?')

namespace Bindings

/-- A token that takes an argument: it is bound, and it stands for neither the table nor its
columns. -/
def takesArgument (bs : Bindings) (t : String) : Bool :=
  decide (t ≠ taskToken ∧ t ≠ columnsToken) && (bs.get? t).isSome

/-- The argument of a token. -/
def argument? (bs : Bindings) (t : String) : Option Value :=
  (bs.get? t).map (·.value)

/-- The distinct tokens that take an argument, by their first occurrences. -/
def order (bs : Bindings) (ps : List Piece) : List String :=
  ((ps.filterMap Piece.token?).filter bs.takesArgument).eraseDups

/-- The number of a token's argument when `first` arguments stand before those of the template. -/
def number (bs : Bindings) (first : Nat) (ps : List Piece) (t : String) : Nat :=
  first + (bs.order ps).idxOf t + 1

/-- What replaces a token whose argument has the number `k`, if anything does. -/
def replacement? (bs : Bindings) (columns : Option String) (k : Nat) (t : String) :
    Option (List Char) :=
  if t = taskToken then
    match bs.get? taskToken with
    | some b => if IsTableName b.raw then some b.raw.toList else none
    | none => none
  else if t = columnsToken then columns.map String.toList
  else (bs.get? t).map fun b => fragmentAt b.fragment k

/-- A piece of the template as the query shows it. -/
def shown (bs : Bindings) (columns : Option String) (number : String → Nat) (p : Piece) :
    List Char :=
  match p.token? with
  | none => p.chars
  | some t => (bs.replacement? columns (number t) t).getD p.chars

end Bindings

/-! ## Distinct tokens -/

theorem eraseDups_concat (l : List String) (t : String) :
    (l ++ [t]).eraseDups = if t ∈ l then l.eraseDups else l.eraseDups ++ [t] := by
  rw [List.eraseDups_append]
  by_cases h : t ∈ l
  · simp [h, List.removeAll]
  · simp [h, List.removeAll, List.eraseDups_cons]

theorem eraseDups_nodup (l : List String) : l.eraseDups.Nodup := by
  induction l using List.reverseRecOn with
  | nil => simp
  | append_singleton l t ih =>
      rw [eraseDups_concat]
      split
      · exact ih
      · rename_i h
        rw [List.nodup_append]
        refine ⟨ih, by simp, ?_⟩
        intro a ha b hb he
        rw [List.mem_singleton] at hb
        exact h (List.mem_eraseDups.mp (hb ▸ he ▸ ha))

theorem eraseDups_filter (p : String → Bool) (l : List String) :
    (l.filter p).eraseDups = l.eraseDups.filter p := by
  induction l using List.reverseRecOn with
  | nil => simp
  | append_singleton l t ih =>
      rw [List.filter_append, eraseDups_concat]
      by_cases hp : p t = true
      · rw [List.filter_cons_of_pos hp, List.filter_nil, eraseDups_concat, ih]
        by_cases h : t ∈ l
        · rw [if_pos h, if_pos (List.mem_filter.mpr ⟨h, hp⟩)]
        · rw [if_neg h, if_neg (fun h' => h (List.mem_filter.mp h').1), List.filter_append,
            List.filter_cons_of_pos hp, List.filter_nil]
      · rw [List.filter_cons_of_neg hp, List.filter_nil, List.append_nil, ih]
        split
        · rfl
        · rw [List.filter_append, List.filter_cons_of_neg hp, List.filter_nil, List.append_nil]

/-- Each token is kept at its first occurrence. -/
theorem tokens_eq (ps : List Piece) : tokens ps = (ps.filterMap Piece.token?).eraseDups := by
  unfold tokens
  generalize ps.filterMap Piece.token? = l
  induction l using List.reverseRecOn with
  | nil => rfl
  | append_singleton l t ih =>
      rw [List.foldl_append, ih, eraseDups_concat]
      simp [List.mem_eraseDups]

theorem tokens_filter (bs : Bindings) (ps : List Piece) :
    (tokens ps).filter bs.takesArgument = bs.order ps := by
  rw [tokens_eq, ← eraseDups_filter]
  rfl

theorem mem_tokens {ps : List Piece} {p : Piece} {t : String} (hp : p ∈ ps)
    (ht : p.token? = some t) : t ∈ tokens ps := by
  rw [tokens_eq, List.mem_eraseDups]
  exact List.mem_filterMap.mpr ⟨p, hp, ht⟩

/-! ## One token -/

theorem numbered_eq (fragment : String) (k : Nat) :
    numbered fragment k = fragmentAt fragment k := by
  unfold numbered fragmentAt
  generalize fragment.toList = cs
  have hk : (toString k).toList = Nat.toDigits 10 k := by
    show (String.ofList (Nat.toDigits 10 k)).toList = _
    rw [String.toList_ofList]
  rw [hk]
  -- a question mark begins a new part, any other character goes before the first one
  induction cs with
  | nil => simp
  | cons c cs ih =>
      rw [List.flatMap_cons, ih, List.splitOn_cons_eq_if_modifyHead]
      obtain ⟨p, ps, hps⟩ := List.exists_cons_of_ne_nil (List.splitOn_ne_nil '?' cs)
      rw [hps]
      by_cases hc : c = '?'
      · subst hc
        simp
      · rw [if_neg (by simpa using hc), if_neg (by simpa using hc)]
        cases ps with
        | nil => simp
        | cons q ps => simp

theorem taskTable_eq (bs : Bindings) (k : Nat) (columns : Option String) :
    bs.taskTable?.map String.toList = bs.replacement? columns k taskToken := by
  unfold Bindings.taskTable? Bindings.replacement?
  rw [if_pos rfl]
  cases bs.get? taskToken with
  | none => rfl
  | some b =>
      dsimp only
      by_cases h : IsTableName b.raw
      · rw [if_pos ((isIdentifier_iff b.raw).mpr h), if_pos h]
        rfl
      · rw [if_neg (fun hi => h ((isIdentifier_iff b.raw).mp hi)), if_neg h]
        rfl

/-- What the first pass makes of one token. -/
theorem resolve_eq (bs : Bindings) (columns : Option String) (k : Nat) (t : String) :
    bs.resolve columns k t =
      (bs.replacement? columns k t,
        if bs.takesArgument t then (bs.argument? t).toList else []) := by
  -- neither the table nor its columns take an argument
  by_cases htask : t = taskToken
  · subst htask
    rw [Bindings.resolve, if_pos (by simp), taskTable_eq bs k columns, if_neg]
    simp [Bindings.takesArgument]
  by_cases hcols : t = columnsToken
  · subst hcols
    have hne : ¬ (columnsToken == taskToken) = true := by decide
    rw [Bindings.resolve, if_neg hne, if_pos (by simp), if_neg (by simp [Bindings.takesArgument])]
    rw [Bindings.replacement?, if_neg htask, if_pos rfl]
  rw [Bindings.resolve, if_neg (by simpa using htask), if_neg (by simpa using hcols),
    Bindings.replacement?, if_neg htask, if_neg hcols]
  cases h : bs.get? t with
  | none => simp [Bindings.takesArgument, h]
  | some b => simp [Bindings.takesArgument, Bindings.argument?, h, htask, hcols, numbered_eq]

/-- The number of its argument matters only to a token that takes one. -/
theorem replacement_number {bs : Bindings} {t : String} (h : ¬ bs.takesArgument t = true)
    (columns : Option String) (k k' : Nat) :
    bs.replacement? columns k t = bs.replacement? columns k' t := by
  unfold Bindings.replacement?
  by_cases htask : t = taskToken
  · rw [if_pos htask, if_pos htask]
  by_cases hcols : t = columnsToken
  · rw [if_neg htask, if_neg htask, if_pos hcols, if_pos hcols]
  rw [if_neg htask, if_neg htask, if_neg hcols, if_neg hcols]
  cases hget : bs.get? t with
  | none => rfl
  | some b => exact absurd (by simp [Bindings.takesArgument, htask, hcols, hget]) h

/-! ## All tokens -/

theorem takesArgument_get {bs : Bindings} {t : String} (h : bs.takesArgument t = true) :
    ∃ b, bs.get? t = some b := by
  unfold Bindings.takesArgument at h
  exact Option.isSome_iff_exists.mp (Bool.and_eq_true_iff.mp h).2

/-- **The first pass appends the arguments of the tokens in their order.** -/
theorem resolveAll_args (bs : Bindings) (columns : Option String) (ts : List String) :
    ∀ (args : List Value), (bs.resolveAll columns args ts).2
      = args ++ (ts.filter bs.takesArgument).filterMap bs.argument? := by
  induction ts with
  | nil => intro args; simp [Bindings.resolveAll]
  | cons t ts ih =>
      intro args
      rw [Bindings.resolveAll, resolve_eq]
      dsimp only
      rw [ih]
      by_cases h : bs.takesArgument t = true
      · obtain ⟨b, hb⟩ := takesArgument_get h
        simp [h, Bindings.argument?, hb]
      · simp [h]

/-- **Of distinct tokens the first pass keeps what replaces each, under its own number.** -/
theorem resolveAll_lookup (bs : Bindings) (columns : Option String) (ts : List String) :
    ∀ (args : List Value) (t : String), t ∈ ts → ts.Nodup →
      (bs.resolveAll columns args ts).1.lookup t
        = some (bs.replacement? columns
            (args.length + (ts.filter bs.takesArgument).idxOf t + 1) t) := by
  induction ts with
  | nil => intro args t ht; exact absurd ht (by simp)
  | cons t' ts ih =>
      intro args t ht hnd
      obtain ⟨hnot, hnd⟩ := List.nodup_cons.mp hnd
      rw [Bindings.resolveAll, resolve_eq]
      dsimp only
      by_cases he : t = t'
      · -- the head is put under the next free number
        subst he
        rw [List.lookup_cons_self]
        by_cases h : bs.takesArgument t = true
        · rw [List.filter_cons_of_pos h, List.idxOf_cons_self, Nat.add_zero]
        · exact congrArg some (replacement_number h columns _ _)
      · have ht' : t ∈ ts := (List.mem_cons.mp ht).resolve_left he
        have hbeq : (t == t') = false := by simpa using he
        rw [List.lookup_cons, hbeq]
        dsimp only
        rw [ih _ t ht' hnd]
        by_cases h : bs.takesArgument t' = true
        · -- its argument shifts the numbers of those behind it
          obtain ⟨b, hb⟩ := takesArgument_get h
          have hidx : (t' :: ts.filter bs.takesArgument).idxOf t
              = (ts.filter bs.takesArgument).idxOf t + 1 := by
            rw [List.idxOf_cons, show (t' == t) = false by simpa using Ne.symm he]
            rfl
          have hlen : (args ++ (bs.argument? t').toList).length = args.length + 1 := by
            simp [Bindings.argument?, hb]
          rw [List.filter_cons_of_pos h, hidx, if_pos h, hlen]
          congr 2
          omega
        · -- without one the numbers stay as they are
          rw [List.filter_cons_of_neg h, if_neg h, List.append_nil]

/-! ## The whole template -/

theorem substitute_eq {bs : Bindings} {columns : Option String} {args : List Value}
    {ps : List Piece} {p : Piece} (hp : p ∈ ps) :
    p.substitute (bs.resolveAll columns args (tokens ps)).1
      = bs.shown columns (bs.number args.length ps) p := by
  unfold Piece.substitute Bindings.shown
  cases ht : p.token? with
  | none => rfl
  | some t =>
      dsimp only
      rw [resolveAll_lookup bs columns (tokens ps) args t (mem_tokens hp ht)
        (tokens_eq ps ▸ eraseDups_nodup _), tokens_filter]
      rfl

/-- **Both passes together.** -/
theorem fill_shown (bs : Bindings) (columns : Option String) (template : String)
    (args : List Value) :
    bs.fill columns template args =
      ⟨String.ofList ((scan template).flatMap
          (bs.shown columns (bs.number args.length (scan template)))),
        args ++ (bs.order (scan template)).filterMap bs.argument?⟩ := by
  unfold Bindings.fill
  dsimp only
  rw [resolveAll_args, tokens_filter]
  congr 2
  exact List.flatMap_congr fun p hp => substitute_eq hp

/-- Every token of the order has an argument. -/
theorem order_argument {bs : Bindings} {ps : List Piece} {t : String} (h : t ∈ bs.order ps) :
    ∃ b, bs.get? t = some b ∧ bs.argument? t = some b.value := by
  have ht := (List.mem_filter.mp (List.mem_eraseDups.mp h)).2
  obtain ⟨b, hb⟩ := takesArgument_get ht
  exact ⟨b, hb, by rw [Bindings.argument?, hb]; rfl⟩

/-- There are as many new arguments as tokens in the order. -/
theorem length_arguments (bs : Bindings) (ps : List Piece) :
    ((bs.order ps).filterMap bs.argument?).length = (bs.order ps).length := by
  rw [List.length_filterMap_eq_countP, List.countP_eq_length.mpr]
  intro t ht
  obtain ⟨b, _, h⟩ := order_argument ht
  rw [h]; rfl

/-- Where every item of a list has an image, the images stand where the items do. -/
theorem filterMap_getElem {f : String → Option Value} {l : List String}
    (h : ∀ t ∈ l, (f t).isSome) (i : Nat) : (l.filterMap f)[i]? = l[i]?.bind f := by
  induction l generalizing i with
  | nil => rfl
  | cons t l ih =>
      obtain ⟨v, hv⟩ := Option.isSome_iff_exists.mp (h t (by simp))
      rw [List.filterMap_cons_some hv]
      cases i with
      | zero => simp [hv]
      | succ i => simpa using ih (fun t ht => h t (by simp [ht])) i

/-- A token's number leads to its argument. -/
theorem argument_at_number {bs : Bindings} {ps : List Piece} {t : String} {b : Binding}
    (ht : t ∈ bs.order ps) (hb : bs.get? t = some b) (args : List Value) :
    (args ++ (bs.order ps).filterMap bs.argument?)[bs.number args.length ps t - 1]?
      = some b.value := by
  have hall : ∀ t ∈ bs.order ps, (bs.argument? t).isSome := by
    intro t ht
    obtain ⟨b, _, h⟩ := order_argument ht
    rw [h]; rfl
  have hidx : bs.number args.length ps t - 1 = args.length + (bs.order ps).idxOf t := by
    unfold Bindings.number; omega
  rw [hidx, List.getElem?_append_right (Nat.le_add_right _ _), Nat.add_sub_cancel_left,
    filterMap_getElem hall, List.getElem?_idxOf ht]
  show bs.argument? t = _
  rw [Bindings.argument?, hb]
  rfl

/--
**What filling in a template yields.**

The template has one cut into literal text and tokens. The query is that cut with every piece shown
by itself, and the arguments are those of the value tokens behind the ones that were there before:
each distinct token once, in the order of first occurrence, at the place that its number names.
-/
theorem fill_rewrites (bs : Bindings) (columns : Option String) (template : String)
    (args : List Value) :
    ∃ ps, Cut template.toList ps ∧ (∀ qs, Cut template.toList qs → qs = ps) ∧
      (bs.fill columns template args).sql
        = String.ofList (ps.flatMap (bs.shown columns (bs.number args.length ps))) ∧
      (bs.fill columns template args).args
        = args ++ (bs.order ps).filterMap bs.argument? ∧
      (bs.order ps).Nodup ∧
      (bs.fill columns template args).args.length = args.length + (bs.order ps).length ∧
      ∀ t ∈ bs.order ps, ∃ b, bs.get? t = some b ∧
        (bs.fill columns template args).args[bs.number args.length ps t - 1]? = some b.value := by
  refine ⟨scan template, scan_cut template, fun qs h => cut_unique (scan_cut template) h, ?_⟩
  rw [fill_shown]
  refine ⟨rfl, rfl, eraseDups_nodup _, ?_, ?_⟩
  · rw [List.length_append, length_arguments]
  · intro t ht
    obtain ⟨b, hb, _⟩ := order_argument ht
    exact ⟨b, hb, argument_at_number ht hb args⟩

end TileDepot.Query
