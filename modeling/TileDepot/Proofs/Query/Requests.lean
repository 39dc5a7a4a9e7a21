import TileDepot.Proofs.Query.Binding
import TileDepot.Proofs.Query.Fill

/-!
# Request values stay out of the query's text

Two requests that set the same parameters and name the same table, or none, get the same query with
as many arguments: what a client writes into a value reaches the arguments and nothing else.

The proof compares two sets of bindings by what a query's text depends on. `SameShape` is that
comparison: the same tokens are bound, to the same fragments, and the same table is named. Binding a
request keeps it (`bound_alike`, `ofRequest_shape`), and filling in sees nothing beyond it
(`fill_shape`). That no parameter may fill a reserved token matters once: otherwise a value could
become the table (`ofRequest_table`).
-/

namespace TileDepot.Query

/-- A request has a value for this parameter. -/
def Supplies (pairs : List (String × String)) (name : String) : Prop :=
  ∃ value, (name, value) ∈ pairs

/-- Two requests name the same table, or neither names one. -/
def SameTable (task₁ task₂ : Option String) : Prop :=
  (∃ t, IsTableName t ∧ task₁ = some t ∧ task₂ = some t) ∨
    ((∀ t, task₁ = some t → ¬ IsTableName t) ∧ ∀ t, task₂ = some t → ¬ IsTableName t)

/-- What a query's text can show of a binding. -/
def Binding.shape (b : Binding) : String × String :=
  (b.token, b.fragment)

/-- The fragment that a token is bound to. -/
def Bindings.fragment? (bs : Bindings) (t : String) : Option String :=
  (bs.get? t).map (·.fragment)

/-- Two sets of bindings that a query's text cannot tell apart. -/
structure SameShape (bs₁ bs₂ : Bindings) : Prop where
  /-- The same tokens are bound, to the same fragments. -/
  fragments : ∀ t, t ≠ taskToken → bs₁.fragment? t = bs₂.fragment? t
  /-- The same table is named. -/
  table : bs₁.taskTable? = bs₂.taskTable?

/-! ## Binding a request -/

/-- Whether a parameter has a raw value depends on which parameters the request has. -/
theorem raw_eq_none_iff (p : Parameter) (pairs : List (String × String)) :
    p.raw? pairs = none ↔ ¬ Supplies pairs p.name ∧ p.default = none := by
  unfold Parameter.raw? Supplies
  cases h : pairs.find? fun q => q.1 == p.name with
  | some q =>
      have hq : q.1 = p.name := by simpa using List.find?_some h
      have hmem : (p.name, q.2) ∈ pairs := by
        rw [← hq]
        exact List.mem_of_find?_eq_some h
      simp only [reduceCtorEq, false_iff, not_and]
      exact fun hno => absurd ⟨q.2, hmem⟩ hno
  | none =>
      have hno : ¬ ∃ value, (p.name, value) ∈ pairs := by
        rintro ⟨v, hv⟩
        have := List.find?_eq_none.mp h _ hv
        simp at this
      simp [hno]

/-- When a request is bound, a parameter that has a raw value is, and the fragment is the parameter's
own. -/
theorem binding_shape {ps : List Parameter} {pairs : List (String × String)}
    {task : Option String} {bs : Bindings} (h : Bindings.ofRequest ps pairs task = .ok bs)
    {p : Parameter} (hp : p ∈ ps) : (p.binding? pairs).map Binding.shape
      = if p.raw? pairs = none then none else some (p.token, p.fragment) := by
  cases hb : p.binding? pairs with
  | none =>
      have hraw : p.raw? pairs = none := Option.eq_none_iff_forall_ne_some.mpr fun raw hraw =>
        (binding_eq_none_iff h hp).mp hb raw ((rawValue_iff p pairs raw).mpr hraw)
      rw [if_pos hraw]
      rfl
  | some b =>
      obtain ⟨raw, value, hraw, _, rfl⟩ := binding_eq_some_iff.mp hb
      rw [if_neg (by simp [hraw])]
      rfl

section

variable {ps : List Parameter} {pairs₁ pairs₂ : List (String × String)}
  {task₁ task₂ : Option String} {bs₁ bs₂ : Bindings}

/-- A parameter is bound by both requests or by neither, whatever their values are. -/
theorem bound_alike (h₁ : Bindings.ofRequest ps pairs₁ task₁ = .ok bs₁)
    (h₂ : Bindings.ofRequest ps pairs₂ task₂ = .ok bs₂)
    (hsup : ∀ p ∈ ps, Supplies pairs₁ p.name ↔ Supplies pairs₂ p.name) :
    (ps.filterMap (·.binding? pairs₁)).map Binding.shape
      = (ps.filterMap (·.binding? pairs₂)).map Binding.shape := by
  rw [List.map_filterMap, List.map_filterMap]
  refine List.filterMap_congr fun p hp => ?_
  have hraw : p.raw? pairs₁ = none ↔ p.raw? pairs₂ = none := by
    rw [raw_eq_none_iff, raw_eq_none_iff, hsup p hp]
  rw [binding_shape h₁ hp, binding_shape h₂ hp]
  simp only [hraw]

/-- The fragment of a token is that of the last binding for it. -/
theorem fragment_eq (h : Bindings.ofRequest ps pairs₁ task₁ = .ok bs₁) {t : String}
    (ht : t ≠ taskToken) : bs₁.fragment? t
      = (((ps.filterMap (·.binding? pairs₁)).map Binding.shape).reverse.find? (·.1 == t)).map
          (·.2) := by
  rw [Bindings.fragment?, get_parameter h ht, ← List.map_reverse, List.find?_map, Option.map_map]
  rfl

/-- The table is the task that was asked for, if it can be one. -/
theorem ofRequest_table (hps : ∀ p ∈ ps, p.Defined)
    (h : Bindings.ofRequest ps pairs₁ task₁ = .ok bs₁) :
    bs₁.taskTable? = task₁.filter isIdentifier := by
  rw [Bindings.taskTable?, get_task (fun p hp => (hps p hp).token_free) h]
  cases task₁ with
  | none => rfl
  | some t =>
      -- the empty task is none, and no table has an empty name
      by_cases ht : t = ""
      · subst ht
        rfl
      · simp [askedTask, Option.filter, ht]

/-- **Requests with the same parameters and the same table are bound alike.** -/
theorem ofRequest_shape (hps : ∀ p ∈ ps, p.Defined)
    (h₁ : Bindings.ofRequest ps pairs₁ task₁ = .ok bs₁)
    (h₂ : Bindings.ofRequest ps pairs₂ task₂ = .ok bs₂)
    (hsup : ∀ p ∈ ps, Supplies pairs₁ p.name ↔ Supplies pairs₂ p.name)
    (htask : SameTable task₁ task₂) : SameShape bs₁ bs₂ where
  fragments := by
    intro t ht
    rw [fragment_eq h₁ ht, fragment_eq h₂ ht, bound_alike h₁ h₂ hsup]
  table := by
    have hnone : ∀ task : Option String, (∀ t, task = some t → ¬ IsTableName t) →
        task.filter isIdentifier = none := fun task hno =>
      Option.filter_eq_none_iff.mpr fun t ht hname => hno t ht ((isIdentifier_iff t).mp hname)
    rw [ofRequest_table hps h₁, ofRequest_table hps h₂]
    rcases htask with ⟨t, _, rfl, rfl⟩ | ⟨hno₁, hno₂⟩
    · rfl
    · rw [hnone task₁ hno₁, hnone task₂ hno₂]

end

/-! ## Filling in sees the shape only -/

theorem takesArgument_shape {bs₁ bs₂ : Bindings} (h : SameShape bs₁ bs₂) :
    bs₁.takesArgument = bs₂.takesArgument := by
  funext t
  unfold Bindings.takesArgument
  by_cases ht : t = taskToken
  · simp [ht]
  · have hf := congrArg Option.isSome (h.fragments t ht)
    unfold Bindings.fragment? at hf
    rw [Option.isSome_map, Option.isSome_map] at hf
    rw [hf]

theorem replacement_shape {bs₁ bs₂ : Bindings} (h : SameShape bs₁ bs₂)
    (columns : Option String) (k : Nat) (t : String) :
    bs₁.replacement? columns k t = bs₂.replacement? columns k t := by
  by_cases ht : t = taskToken
  · rw [ht, ← taskTable_eq bs₁ k columns, ← taskTable_eq bs₂ k columns, h.table]
  · unfold Bindings.replacement?
    rw [if_neg ht, if_neg ht]
    split
    · rfl
    · have hf := congrArg (Option.map fun f => fragmentAt f k) (h.fragments t ht)
      unfold Bindings.fragment? at hf
      rwa [Option.map_map, Option.map_map] at hf

/-- **Bindings of one shape fill in a template alike.** -/
theorem fill_shape {bs₁ bs₂ : Bindings} (h : SameShape bs₁ bs₂) (columns : Option String)
    (template : String) (args : List Value) :
    (bs₁.fill columns template args).sql = (bs₂.fill columns template args).sql ∧
      (bs₁.fill columns template args).args.length
        = (bs₂.fill columns template args).args.length := by
  have horder : bs₁.order (scan template) = bs₂.order (scan template) := by
    unfold Bindings.order
    rw [takesArgument_shape h]
  have hshown : bs₁.shown columns (bs₁.number args.length (scan template))
      = bs₂.shown columns (bs₂.number args.length (scan template)) := by
    funext p
    unfold Bindings.shown Bindings.number
    rw [horder]
    cases p.token? with
    | none => rfl
    | some t => dsimp only; rw [replacement_shape h]
  rw [fill_shown, fill_shown]
  refine ⟨congrArg (fun f => String.ofList ((scan template).flatMap f)) hshown, ?_⟩
  rw [List.length_append, List.length_append, length_arguments, length_arguments, horder]

/-! ## The task's token -/

/-- The task's token as a piece of a template. -/
def taskPiece : Piece := .token "TASKID".toList

theorem shown_taskPiece (bs : Bindings) (columns : Option String) (number : String → Nat) :
    bs.shown columns number taskPiece = taskToken.toList ∨
      (bs.shown columns number taskPiece ≠ [] ∧
        ∀ c ∈ bs.shown columns number taskPiece, IsWord c) := by
  have htok : taskPiece.token? = some taskToken := by decide
  have hchars : taskPiece.chars = taskToken.toList := by decide
  unfold Bindings.shown
  rw [htok]
  dsimp only
  unfold Bindings.replacement?
  rw [if_pos rfl, hchars]
  cases bs.get? taskToken with
  | none => exact Or.inl rfl
  | some b =>
      dsimp only
      by_cases h : IsTableName b.raw
      · rw [if_pos h]
        refine Or.inr ⟨fun he => h.1 ?_, h.2⟩
        exact String.toList_eq_nil_iff.mp he
      · rw [if_neg h]
        exact Or.inl rfl

/--
**Request values cannot change the query's text.**

Of two requests for the same parameters, one with the same table as the other or both without one,
the queries are the same text and take as many arguments. And whatever task is bound, the query
shows in the place of the task's token that token or a name of letters, digits and underscores.
-/
theorem request_values_inert (ps : List Parameter) (hps : ∀ p ∈ ps, p.Defined)
    (columns : Option String) (template : String) (args : List Value) :
    (∀ (pairs₁ pairs₂ : List (String × String)) (task₁ task₂ : Option String)
        (bs₁ bs₂ : Bindings),
      Bindings.ofRequest ps pairs₁ task₁ = .ok bs₁ →
      Bindings.ofRequest ps pairs₂ task₂ = .ok bs₂ →
      (∀ p ∈ ps, Supplies pairs₁ p.name ↔ Supplies pairs₂ p.name) →
      SameTable task₁ task₂ →
      (bs₁.fill columns template args).sql = (bs₂.fill columns template args).sql ∧
        (bs₁.fill columns template args).args.length
          = (bs₂.fill columns template args).args.length) ∧
    ∀ (bs : Bindings), let text := bs.shown columns (bs.number args.length (scan template))
      (bs.fill columns template args).sql = String.ofList ((scan template).flatMap text) ∧
      (text taskPiece = taskToken.toList ∨
        (text taskPiece ≠ [] ∧ ∀ c ∈ text taskPiece, IsWord c)) := by
  constructor
  · intro pairs₁ pairs₂ task₁ task₂ bs₁ bs₂ h₁ h₂ hsup htask
    exact fill_shape (ofRequest_shape hps h₁ h₂ hsup htask) columns template args
  · intro bs
    refine ⟨?_, shown_taskPiece bs columns _⟩
    rw [fill_shown]

/-- A value that is written like a piece of a query changes no more than a plain one. -/
theorem request_values_inert_class :
    let ps : List Parameter := [⟨"class", "!CLASS!", "class = ?", .text, none⟩]
    let template := "SELECT * FROM !TASKID! WHERE !CLASS! OR !CLASS!"
    let plain := [("class", "road")]
    let forged := [("class", "1 OR !TASKID! = $1"), ("class", "road")]
    (∀ p ∈ ps, p.Defined) ∧
    ∃ bs₁ bs₂, Bindings.ofRequest ps plain (some "task_1") = .ok bs₁ ∧
      Bindings.ofRequest ps forged (some "task_1") = .ok bs₂ ∧
      (bs₁.fill none template []).sql = (bs₂.fill none template []).sql ∧
      (bs₁.fill none template []).args.length = (bs₂.fill none template []).args.length := by
  intro ps template plain forged
  have hps : ∀ p ∈ ps, p.Defined := by
    intro p hp
    rw [List.mem_singleton.mp hp]
    exact ⟨"class", "!CLASS!", "class = ?", .text, none, rfl⟩
  refine ⟨hps, _, _, rfl, rfl, ?_⟩
  refine (request_values_inert ps hps none template []).1 plain forged (some "task_1")
    (some "task_1") _ _ rfl rfl ?_ ?_
  · intro p hp
    rw [List.mem_singleton.mp hp]
    exact ⟨fun _ => ⟨_, List.mem_cons_self⟩, fun _ => ⟨_, List.mem_cons_self⟩⟩
  · exact Or.inl ⟨"task_1", (isIdentifier_iff "task_1").mp rfl, rfl, rfl⟩

end TileDepot.Query
