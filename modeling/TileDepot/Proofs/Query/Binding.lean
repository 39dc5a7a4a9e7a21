import Mathlib.Data.List.Basic
import TileDepot.Query.Bindings

/-!
# Binding follows the request

Parameters are bound in order, and the first one whose raw value cannot be read ends it. So binding
is one of two things, which `addAll_eq` gives in closed form: the fault of the first parameter that
has one, or the bindings of all parameters that have a raw value, put in one after the other. Of these
the last one for a token counts (`get_insertAll`), and each token has one entry (`distinct_insertAll`).

`request_bound` says the same of the request, in terms of its pairs: `Parameter.RawValue` is which raw
value a parameter has in it.
-/

namespace TileDepot.Query

/-! ## Parameters and their raw values -/

/-- A parameter that passed the checks of a definition. -/
def Parameter.Defined (p : Parameter) : Prop :=
  ∃ name token fragment kind default, define name token fragment kind default = .ok p

theorem flaw_eq_none_iff (token fragment : String) : Parameter.flaw? token fragment = none ↔
    isToken token = true ∧ token ∉ reservedTokens ∧ fragment.toList.count '?' = 1 := by
  unfold Parameter.flaw?
  by_cases htoken : isToken token = true
  · by_cases hfree : token ∈ reservedTokens
    · simp [htoken, hfree]
    · by_cases hcount : fragment.toList.count '?' = 1
      · simp [htoken, hfree, hcount]
      · simp [htoken, hfree, hcount]
  · simp [htoken]

theorem define_ok {name token fragment : String} {kind : Kind} {default : Option String}
    {p : Parameter} (h : Parameter.define name token fragment kind default = .ok p) :
    Parameter.flaw? token fragment = none ∧ p = ⟨name, token, fragment, kind, default⟩ := by
  unfold Parameter.define at h
  cases hflaw : Parameter.flaw? token fragment with
  | some reason => rw [hflaw] at h; exact absurd h (by simp)
  | none => rw [hflaw] at h; exact ⟨rfl, (Except.ok.inj h).symm⟩

/-- A defined parameter fills no reserved token, so the task's stays free for the task. -/
theorem Parameter.Defined.token_free {p : Parameter} (h : p.Defined) : p.token ≠ taskToken := by
  obtain ⟨name, token, fragment, kind, default, hdefine⟩ := h
  obtain ⟨hflaw, rfl⟩ := define_ok hdefine
  obtain ⟨_, hfree, _⟩ := (flaw_eq_none_iff token fragment).mp hflaw
  have htask : taskToken ∈ reservedTokens := by simp [reservedTokens]
  exact fun htoken : token = taskToken => hfree (htoken ▸ htask)

/-- The parameter has this raw value in a request: the value of the first pair of its name or, if
there is no such pair, the default. -/
inductive Parameter.RawValue (p : Parameter) (pairs : List (String × String)) (raw : String) :
    Prop where
  | supplied (before after : List (String × String))
      (found : pairs = before ++ (p.name, raw) :: after) (first : ∀ q ∈ before, q.1 ≠ p.name)
  | default (missing : ∀ q ∈ pairs, q.1 ≠ p.name) (known : p.default = some raw)

/-- The parameter has a raw value that is not of its kind. -/
def Parameter.Misfits (p : Parameter) (pairs : List (String × String)) : Prop :=
  ∃ raw, p.RawValue pairs raw ∧ p.kind.value? raw = none

theorem rawValue_iff (p : Parameter) (pairs : List (String × String)) (raw : String) :
    p.RawValue pairs raw ↔ p.raw? pairs = some raw := by
  unfold Parameter.raw?
  constructor
  · rintro (⟨before, after, hfound, hfirst⟩ | ⟨hmissing, hknown⟩)
    · have hfind : pairs.find? (fun q => q.1 == p.name) = some (p.name, raw) :=
        List.find?_eq_some_iff_append.mpr
          ⟨by simp, before, after, hfound, fun q hq => by simp [hfirst q hq]⟩
      rw [hfind]
    · have hfind : pairs.find? (fun q => q.1 == p.name) = none :=
        List.find?_eq_none.mpr fun q hq => by simp [hmissing q hq]
      rw [hfind]
      exact hknown
  · intro h
    cases hfind : pairs.find? fun q => q.1 == p.name with
    | none =>
        rw [hfind] at h
        refine .default (fun q hq => ?_) h
        simpa using List.find?_eq_none.mp hfind q hq
    | some q =>
        rw [hfind] at h
        obtain ⟨hname, before, after, hsplit, hbefore⟩ := List.find?_eq_some_iff_append.mp hfind
        have hq : q = (p.name, raw) := Prod.ext (by simpa using hname) (Option.some.inj h)
        exact .supplied before after (hq ▸ hsplit) fun q hq => by simpa using hbefore q hq

/-! ## Binding in closed form -/

/-- The fault of a parameter that has a raw value which is not of its kind. -/
def Parameter.misfit? (p : Parameter) (pairs : List (String × String)) : Option TemplateError :=
  match p.raw? pairs with
  | none => none
  | some raw =>
    match p.kind.value? raw with
    | none => some (.invalidParameter p.name raw p.kind.expectation)
    | some _ => none

/-- What a parameter that has a raw value of its kind is bound to. -/
def Parameter.binding? (p : Parameter) (pairs : List (String × String)) : Option Binding :=
  match p.raw? pairs with
  | none => none
  | some raw => (p.kind.value? raw).map fun value => ⟨p.token, p.fragment, value, p.name, raw⟩

theorem misfit_eq_some_iff {p : Parameter} {pairs : List (String × String)} {e : TemplateError} :
    p.misfit? pairs = some e ↔ ∃ raw, p.raw? pairs = some raw ∧ p.kind.value? raw = none ∧
      e = .invalidParameter p.name raw p.kind.expectation := by
  unfold Parameter.misfit?
  cases p.raw? pairs with
  | none => simp
  | some raw =>
      dsimp only
      cases hvalue : p.kind.value? raw with
      | none => simp [hvalue, eq_comm]
      | some value => simp [hvalue]

theorem misfit_eq_none_iff {p : Parameter} {pairs : List (String × String)} :
    p.misfit? pairs = none ↔ ¬ p.Misfits pairs := by
  unfold Parameter.Misfits
  simp only [rawValue_iff]
  rw [Option.eq_none_iff_forall_ne_some]
  constructor
  · rintro h ⟨raw, hraw, hvalue⟩
    exact h _ (misfit_eq_some_iff.mpr ⟨raw, hraw, hvalue, rfl⟩)
  · intro h e he
    obtain ⟨raw, hraw, hvalue, _⟩ := misfit_eq_some_iff.mp he
    exact h ⟨raw, hraw, hvalue⟩

theorem binding_eq_some_iff {p : Parameter} {pairs : List (String × String)} {b : Binding} :
    p.binding? pairs = some b ↔ ∃ raw value, p.raw? pairs = some raw ∧
      p.kind.value? raw = some value ∧ b = ⟨p.token, p.fragment, value, p.name, raw⟩ := by
  unfold Parameter.binding?
  cases p.raw? pairs with
  | none => simp
  | some raw => simp [Option.map_eq_some_iff, eq_comm (b := b)]

/-- **Binding parameters ends in the fault of the first that has one**, or all raw values there are
get bound, one after the other. -/
theorem addAll_eq (pairs : List (String × String)) (ps : List Parameter) (bs : Bindings) :
    bs.addAll pairs ps = match ps.findSome? (·.misfit? pairs) with
      | some e => .error e
      | none => .ok ((ps.filterMap (·.binding? pairs)).foldl Bindings.insert bs) := by
  induction ps generalizing bs with
  | nil => rfl
  | cons p ps ih =>
      rw [Bindings.addAll, List.findSome?_cons, List.filterMap_cons, Parameter.misfit?,
        Parameter.binding?]
      cases p.raw? pairs with
      | none => exact ih bs
      | some raw =>
          dsimp only
          cases p.kind.value? raw with
          | none => rfl
          | some value => exact ih _

/-! ## The last binding of a token counts -/

theorem get_insert (bs : Bindings) (b : Binding) (t : String) :
    (bs.insert b).get? t = if t = b.token then some b else bs.get? t := by
  unfold Bindings.insert Bindings.get?
  rw [List.find?_append]
  by_cases h : t = b.token
  · rw [if_pos h, List.find?_eq_none.mpr]
    · simp [h]
    · intro x hx
      have hne := (List.mem_filter.mp hx).2
      simpa [h] using hne
  · rw [if_neg h, List.find?_filter]
    have hsame : (fun b' : Binding =>
          decide ((b'.token != b.token) = true ∧ (b'.token == t) = true))
        = fun b' => b'.token == t := by
      funext b'
      by_cases hb : b'.token = t
      · simp [hb, h]
      · simp [hb]
    rw [hsame]
    cases List.find? (fun b' => b'.token == t) bs.entries with
    | some _ => rfl
    | none => simp [Ne.symm h]

theorem get_insertAll (l : List Binding) (bs : Bindings) (t : String) :
    (l.foldl Bindings.insert bs).get? t
      = (l.reverse.find? fun b => b.token == t).or (bs.get? t) := by
  induction l generalizing bs with
  | nil => rfl
  | cons b l ih =>
      rw [List.foldl_cons, ih, get_insert, List.reverse_cons, List.find?_append, Option.or_assoc]
      by_cases h : t = b.token
      · simp [h]
      · simp [h, Ne.symm h]

/-- No token has two entries. -/
def Bindings.Distinct (bs : Bindings) : Prop :=
  (bs.entries.map (·.token)).Nodup

theorem distinct_insert {bs : Bindings} (h : bs.Distinct) (b : Binding) :
    (bs.insert b).Distinct := by
  unfold Bindings.Distinct Bindings.insert
  rw [List.map_append, List.nodup_append]
  refine ⟨(List.filter_sublist.map _).nodup h, by simp, ?_⟩
  intro t ht t' ht'
  obtain ⟨old, hold, rfl⟩ := List.mem_map.mp ht
  have hne : old.token ≠ b.token := by simpa using (List.mem_filter.mp hold).2
  rw [List.map_singleton, List.mem_singleton] at ht'
  exact ht' ▸ hne

theorem distinct_insertAll {bs : Bindings} (h : bs.Distinct) (l : List Binding) :
    (l.foldl Bindings.insert bs).Distinct := by
  induction l generalizing bs with
  | nil => exact h
  | cons b l ih => exact ih (distinct_insert h b)

/-- The tokens that are bound are those of the entries. -/
theorem mem_tokens_iff (bs : Bindings) (t : String) :
    t ∈ bs.entries.map (·.token) ↔ ∃ b, bs.get? t = some b := by
  rw [← Option.isSome_iff_exists, Bindings.get?, List.find?_isSome, List.mem_map]
  simp

theorem binding_token {p : Parameter} {pairs : List (String × String)} {b : Binding}
    (h : p.binding? pairs = some b) : b.token = p.token := by
  obtain ⟨_, _, _, _, rfl⟩ := binding_eq_some_iff.mp h
  rfl

/-- The last of the bindings for a token comes from the last parameter for it that has one. -/
theorem last_binding_iff (ps : List Parameter) (pairs : List (String × String)) (t : String)
    (b : Binding) :
    (ps.filterMap (·.binding? pairs)).reverse.find? (fun b => b.token == t) = some b ↔
      ∃ before p after, ps = before ++ p :: after ∧ p.token = t ∧ p.binding? pairs = some b ∧
        ∀ q ∈ after, q.token = t → q.binding? pairs = none := by
  rw [← List.filterMap_reverse, List.find?_filterMap, Option.bind_eq_some_iff]
  constructor
  · rintro ⟨p, hfind, hb⟩
    obtain ⟨htoken, after, before, hsplit, hafter⟩ := List.find?_eq_some_iff_append.mp hfind
    rw [hb, Option.any_some, beq_iff_eq, binding_token hb] at htoken
    -- the search goes backwards: what it has passed stands behind the parameter that it finds
    refine ⟨before.reverse, p, after.reverse, ?_, htoken, hb, fun q hq hqt => ?_⟩
    · rw [← List.reverse_reverse ps, hsplit]
      simp
    · have hnot := hafter q (List.mem_reverse.mp hq)
      cases hqb : q.binding? pairs with
      | none => rfl
      | some other =>
          rw [hqb, Option.any_some, binding_token hqb, hqt] at hnot
          simp at hnot
  · rintro ⟨before, p, after, rfl, htoken, hb, hafter⟩
    refine ⟨p, List.find?_eq_some_iff_append.mpr ⟨?_, after.reverse, before.reverse, ?_, ?_⟩, hb⟩
    · rw [hb, Option.any_some, binding_token hb, htoken, beq_self_eq_true]
    · simp
    · intro q hq
      cases hqb : q.binding? pairs with
      | none => rfl
      | some other =>
          have hne : q.token ≠ t := fun hqt => by
            rw [hafter q (List.mem_reverse.mp hq) hqt] at hqb
            cases hqb
          rw [Option.any_some, binding_token hqb]
          simp [hne]

/-! ## Binding a request -/

/-- The task that a request is for: the empty one is none. -/
def askedTask (task : Option String) : Option Binding :=
  (task.filter (· ≠ "")).map fun t => ⟨taskToken, "", .text t, "task_id", t⟩

theorem askedTask_iff (task : Option String) (b : Binding) : askedTask task = some b ↔
    ∃ t, task = some t ∧ t ≠ "" ∧ b = ⟨taskToken, "", .text t, "task_id", t⟩ := by
  unfold askedTask
  simp [Option.map_eq_some_iff, Option.filter_eq_some_iff, and_assoc, eq_comm (b := b)]

/-- **What comes of a request**: the fault of its first parameter that has one, or the bindings of its
parameters and, last of all, of its task. -/
theorem ofRequest_eq (ps : List Parameter) (pairs : List (String × String)) (task : Option String) :
    Bindings.ofRequest ps pairs task = match ps.findSome? (·.misfit? pairs) with
      | some e => .error e
      | none => .ok ((ps.filterMap (·.binding? pairs) ++ (askedTask task).toList).foldl
          Bindings.insert .empty) := by
  unfold Bindings.ofRequest askedTask
  rw [addAll_eq, List.foldl_append]
  cases ps.findSome? (·.misfit? pairs) with
  | some e => rfl
  | none =>
      cases task with
      | none => rfl
      | some t =>
          by_cases ht : t = ""
          · subst ht; rfl
          · have hne : t.isEmpty = false := by simpa using ht
            simp [bind, Except.bind, pure, Except.pure, hne, ht, Option.filter, Bindings.setTask]

section

variable {ps : List Parameter} {pairs : List (String × String)} {task : Option String}

/-- The fault is that of the first parameter with a raw value that is not of its kind. -/
theorem ofRequest_error_iff {e : TemplateError} : Bindings.ofRequest ps pairs task = .error e ↔
    ∃ before p after raw, ps = before ++ p :: after ∧ (∀ q ∈ before, ¬ q.Misfits pairs) ∧
      p.RawValue pairs raw ∧ p.kind.value? raw = none ∧
      e = .invalidParameter p.name raw p.kind.expectation := by
  have hfirst : Bindings.ofRequest ps pairs task = .error e
      ↔ ps.findSome? (·.misfit? pairs) = some e := by
    rw [ofRequest_eq]
    cases ps.findSome? (·.misfit? pairs) <;> simp
  rw [hfirst, List.findSome?_eq_some_iff]
  simp only [misfit_eq_some_iff, misfit_eq_none_iff, rawValue_iff]
  constructor
  · rintro ⟨before, p, after, hsplit, ⟨raw, hraw, hvalue, he⟩, hbefore⟩
    exact ⟨before, p, after, raw, hsplit, hbefore, hraw, hvalue, he⟩
  · rintro ⟨before, p, after, raw, hsplit, hbefore, hraw, hvalue, he⟩
    exact ⟨before, p, after, hsplit, ⟨raw, hraw, hvalue, he⟩, hbefore⟩

theorem ofRequest_fails_iff : (∃ e, Bindings.ofRequest ps pairs task = .error e) ↔
    ∃ p ∈ ps, p.Misfits pairs := by
  rw [ofRequest_eq]
  cases hfault : ps.findSome? (·.misfit? pairs) with
  | none =>
      have hnone : ∀ p ∈ ps, ¬ p.Misfits pairs := fun p hp =>
        misfit_eq_none_iff.mp (List.findSome?_eq_none_iff.mp hfault p hp)
      simpa using hnone
  | some e =>
      obtain ⟨p, hp, hmisfit⟩ := List.exists_of_findSome?_eq_some hfault
      have hmisfits : p.Misfits pairs := by
        by_contra hfits
        rw [misfit_eq_none_iff.mpr hfits] at hmisfit
        cases hmisfit
      exact ⟨fun _ => ⟨p, hp, hmisfits⟩, fun _ => ⟨e, rfl⟩⟩

variable {bs : Bindings}

/-- When it succeeds, a parameter is bound if it has a raw value. -/
theorem binding_eq_none_iff (h : Bindings.ofRequest ps pairs task = .ok bs) {p : Parameter}
    (hp : p ∈ ps) : p.binding? pairs = none ↔ ∀ raw, ¬ p.RawValue pairs raw := by
  have hfits : ¬ p.Misfits pairs := fun hmisfits => by
    obtain ⟨e, he⟩ := ofRequest_fails_iff.mpr ⟨p, hp, hmisfits⟩
    rw [h] at he
    cases he
  simp only [Option.eq_none_iff_forall_ne_some, rawValue_iff]
  constructor
  · intro hunbound raw hraw
    cases hvalue : p.kind.value? raw with
    | none => exact hfits ⟨raw, (rawValue_iff p pairs raw).mpr hraw, hvalue⟩
    | some value => exact hunbound _ (binding_eq_some_iff.mpr ⟨raw, value, hraw, hvalue, rfl⟩)
  · intro hnone b hb
    obtain ⟨raw, _, hraw, _⟩ := binding_eq_some_iff.mp hb
    exact hnone raw hraw

theorem ofRequest_ok (h : Bindings.ofRequest ps pairs task = .ok bs) :
    bs = (ps.filterMap (·.binding? pairs) ++ (askedTask task).toList).foldl
      Bindings.insert .empty := by
  rw [ofRequest_eq] at h
  split at h
  · cases h
  · exact (Except.ok.inj h).symm

/-- The task comes first, and then the last parameter for the token. -/
theorem get_ofRequest (h : Bindings.ofRequest ps pairs task = .ok bs) (t : String) :
    bs.get? t = ((askedTask task).filter fun b => b.token == t).or
      ((ps.filterMap (·.binding? pairs)).reverse.find? fun b => b.token == t) := by
  rw [ofRequest_ok h, get_insertAll, List.reverse_append, List.find?_append]
  have hempty : Bindings.empty.get? t = none := rfl
  rw [hempty, Option.or_none]
  congr 1
  cases askedTask task with
  | none => rfl
  | some b =>
      rw [Option.filter, Option.toList_some, List.reverse_singleton, List.find?_singleton]

theorem distinct_ofRequest (h : Bindings.ofRequest ps pairs task = .ok bs) : bs.Distinct := by
  have hempty : Bindings.empty.Distinct := List.nodup_nil
  rw [ofRequest_ok h]
  exact distinct_insertAll hempty _

/-- A token that is not the task's is left to the parameters. -/
theorem get_parameter (h : Bindings.ofRequest ps pairs task = .ok bs) {t : String}
    (ht : t ≠ taskToken) :
    bs.get? t = (ps.filterMap (·.binding? pairs)).reverse.find? fun b => b.token == t := by
  have hother : (askedTask task).filter (fun b => b.token == t) = none := by
    rw [Option.filter_eq_none_iff]
    intro b hb
    obtain ⟨_, _, _, rfl⟩ := (askedTask_iff task b).mp hb
    simpa using Ne.symm ht
  rw [get_ofRequest h, hother, Option.none_or]

/-- It is bound as the last parameter for it that has a raw value. -/
theorem get_parameter_iff (h : Bindings.ofRequest ps pairs task = .ok bs) {t : String}
    (ht : t ≠ taskToken) (b : Binding) : bs.get? t = some b ↔
      ∃ before p after raw value, ps = before ++ p :: after ∧ p.token = t ∧
        p.RawValue pairs raw ∧ p.kind.value? raw = some value ∧
        b = ⟨t, p.fragment, value, p.name, raw⟩ ∧
        ∀ q ∈ after, q.token = t → ∀ raw, ¬ q.RawValue pairs raw := by
  rw [get_parameter h ht, last_binding_iff]
  constructor
  · rintro ⟨before, p, after, rfl, rfl, hb, hafter⟩
    obtain ⟨raw, value, hraw, hvalue, rfl⟩ := binding_eq_some_iff.mp hb
    refine ⟨before, p, after, raw, value, rfl, rfl, (rawValue_iff p pairs raw).mpr hraw, hvalue,
      rfl, fun q hq hqt => ?_⟩
    exact (binding_eq_none_iff h (by simp [hq])).mp (hafter q hq hqt)
  · rintro ⟨before, p, after, raw, value, rfl, rfl, hraw, hvalue, rfl, hafter⟩
    refine ⟨before, p, after, rfl, rfl, ?_, fun q hq hqt => ?_⟩
    · exact binding_eq_some_iff.mpr ⟨raw, value, (rawValue_iff p pairs raw).mp hraw, hvalue, rfl⟩
    · exact (binding_eq_none_iff h (by simp [hq])).mpr (hafter q hq hqt)

/-- No parameter stands where the task is bound. -/
theorem get_task (hps : ∀ p ∈ ps, p.token ≠ taskToken)
    (h : Bindings.ofRequest ps pairs task = .ok bs) : bs.get? taskToken = askedTask task := by
  have hfree : (ps.filterMap (·.binding? pairs)).reverse.find? (fun b => b.token == taskToken)
      = none := by
    rw [Option.eq_none_iff_forall_ne_some]
    intro b hb
    obtain ⟨before, p, after, rfl, htoken, _⟩ := (last_binding_iff _ _ _ _).mp hb
    exact hps p (by simp) htoken
  have htask : (askedTask task).filter (fun b => b.token == taskToken) = askedTask task := by
    cases hasked : askedTask task with
    | none => rfl
    | some b =>
        obtain ⟨_, _, _, rfl⟩ := (askedTask_iff task b).mp hasked
        exact Option.filter_some_pos (beq_self_eq_true taskToken)
  rw [get_ofRequest h, hfree, Option.or_none, htask]

end

/--
**Binding follows the request.**

It fails if and only if some parameter has a raw value that is not of its kind, with the name and the
raw value of the first such parameter. When it succeeds, a token is bound as the last parameter for
it that has a raw value says, and the task's token if the task is there and not empty; and so many
bindings there are as there are tokens that are bound.
-/
theorem request_bound {ps : List Parameter} (hps : ∀ p ∈ ps, p.Defined)
    (pairs : List (String × String)) (task : Option String) :
    ((∃ e, Bindings.ofRequest ps pairs task = .error e) ↔ ∃ p ∈ ps, p.Misfits pairs) ∧
    (∀ e, Bindings.ofRequest ps pairs task = .error e ↔
      ∃ before p after raw, ps = before ++ p :: after ∧ (∀ q ∈ before, ¬ q.Misfits pairs) ∧
        p.RawValue pairs raw ∧ p.kind.value? raw = none ∧
        e = .invalidParameter p.name raw p.kind.expectation) ∧
    ∀ bs, Bindings.ofRequest ps pairs task = .ok bs →
      (∀ token b, token ≠ taskToken → (bs.get? token = some b ↔
        ∃ before p after raw value, ps = before ++ p :: after ∧ p.token = token ∧
          p.RawValue pairs raw ∧ p.kind.value? raw = some value ∧
          b = ⟨token, p.fragment, value, p.name, raw⟩ ∧
          ∀ q ∈ after, q.token = token → ∀ raw, ¬ q.RawValue pairs raw)) ∧
      (∀ b, bs.get? taskToken = some b ↔
        ∃ t, task = some t ∧ t ≠ "" ∧ b = ⟨taskToken, "", .text t, "task_id", t⟩) ∧
      ∃ tokens : List String, tokens.Nodup ∧ (∀ t, t ∈ tokens ↔ ∃ b, bs.get? t = some b) ∧
        bs.size = tokens.length := by
  have hfree : ∀ p ∈ ps, p.token ≠ taskToken := fun p hp => (hps p hp).token_free
  refine ⟨ofRequest_fails_iff, fun e => ofRequest_error_iff, fun bs h => ⟨?_, ?_, ?_⟩⟩
  · exact fun token b htoken => get_parameter_iff h htoken b
  · intro b
    rw [get_task hfree h]
    exact askedTask_iff task b
  · have hdistinct : (bs.entries.map fun b => b.token).Nodup := distinct_ofRequest h
    exact ⟨_, hdistinct, mem_tokens_iff bs, (List.length_map _).symm⟩

/-- Two parameters for one token: of a name that occurs twice the first pair counts, and the token is
bound to the default of the parameter behind it all the same. In the other order of the pairs the
raw value is no number. -/
theorem shared_token_bound :
    let low : Parameter := ⟨"low", "!MINZ!", "z >= ?", .int, none⟩
    let floor : Parameter := ⟨"floor", "!MINZ!", "z > ?", .int, some "7"⟩
    (∀ p ∈ [low, floor], p.Defined) ∧
    (∃ bs, Bindings.ofRequest [low, floor] [("low", "3"), ("low", "x")] (some "t1") = .ok bs ∧
      bs.get? "!MINZ!" = some ⟨"!MINZ!", "z > ?", .int 7, "floor", "7"⟩ ∧
      bs.get? taskToken = some ⟨taskToken, "", .text "t1", "task_id", "t1"⟩ ∧ bs.size = 2) ∧
    Bindings.ofRequest [low, floor] [("low", "x"), ("low", "3")] (some "t1")
      = .error (.invalidParameter "low" "x" "expected an integer") := by
  intro low floor
  have hps : ∀ p ∈ [low, floor], p.Defined := by
    intro p hp
    rcases List.mem_pair.mp hp with rfl | rfl
    · exact ⟨"low", "!MINZ!", "z >= ?", .int, none, rfl⟩
    · exact ⟨"floor", "!MINZ!", "z > ?", .int, some "7", rfl⟩
  refine ⟨hps, ⟨_, rfl, ?_, ?_, rfl⟩, ?_⟩
  · have hbound := ((request_bound hps [("low", "3"), ("low", "x")] (some "t1")).2.2 _ rfl).1
    refine (hbound "!MINZ!" _ (by decide)).mpr ⟨[low], floor, [], "7", .int 7, rfl, rfl, ?_, rfl, rfl,
      by simp⟩
    exact .default (by simp [floor]) rfl
  · have htask := ((request_bound hps [("low", "3"), ("low", "x")] (some "t1")).2.2 _ rfl).2.1
    exact (htask _).mpr ⟨"t1", rfl, by decide, rfl⟩
  · have hfault := (request_bound hps [("low", "x"), ("low", "3")] (some "t1")).2.1
    refine (hfault _).mpr ⟨[], low, [floor], "x", rfl, by simp, ?_, rfl, rfl⟩
    exact .supplied [] [("low", "3")] rfl (by simp)

end TileDepot.Query
