import TileDepot.Proofs.Query.Fill
import TileDepot.Proofs.Recording
import TileDepot.Query.Columns

/-!
# When columns are looked up

Columns are looked up for a template in which the text of the column token occurs, and put in where a
scan finds the token. The two do not always agree. A token that a scan finds does occur, but the text
may also begin at the mark that closes another token, and then no scan finds it: in `!A!COLUMNS!` the
token is `!A!`, and `COLUMNS!` is literal text.

`infix_cut` says for any name that these are the only two ways for the text of its token to occur in
a cut, by induction on the cut; `columns_looked_up` says what follows for looking up and filling in,
and `shared_mark_looked_up` shows the second way in a template.
-/

namespace TileDepot.Query

/-- The mark that closes some token begins the text of the token with this name. -/
def SharesMark (n : List Char) (ps : List Piece) : Prop :=
  ∃ name after, .token name :: after <:+ ps ∧ n ++ ['!'] <+: after.flatMap Piece.chars

/-! ## Where the text of a token occurs -/

theorem occursIn_iff (cs s : List Char) : occursIn cs s = true ↔ cs <:+: s := by
  induction s with
  | nil => simp [occursIn]
  | cons c s ih =>
      rw [occursIn, Bool.or_eq_true, ih, List.isPrefixOf_iff_prefix, List.infix_cons_iff]

theorem literals_chars (lit : List Char) : (Piece.literals lit).flatMap Piece.chars = lit := by
  unfold Piece.literals
  cases lit with
  | nil => rfl
  | cons c lit => simp [Piece.chars]

/-- The pieces of a cut make up the text. -/
theorem cut_chars {s : List Char} {ps : List Piece} (h : Cut s ps) :
    ps.flatMap Piece.chars = s := by
  induction h with
  | last _ => exact literals_chars _
  | token _ _ _ ih => simp [literals_chars, ih, Piece.chars]

theorem sharesMark_literals (n lit : List Char) (ps : List Piece) :
    SharesMark n (Piece.literals lit ++ ps) ↔ SharesMark n ps := by
  unfold Piece.literals SharesMark
  cases lit with
  | nil => exact Iff.rfl
  | cons c lit => simp [List.suffix_cons_iff]

theorem sharesMark_token (n m : List Char) (ps : List Piece) :
    SharesMark n (.token m :: ps) ↔ n ++ ['!'] <+: ps.flatMap Piece.chars ∨ SharesMark n ps := by
  constructor
  · rintro ⟨name, after, hsuffix, hahead⟩
    rcases List.suffix_cons_iff.mp hsuffix with heq | hsuffix
    · obtain ⟨_, rfl⟩ := List.cons.inj heq
      exact Or.inl hahead
    · exact Or.inr ⟨name, after, hsuffix, hahead⟩
  · rintro (hahead | ⟨name, after, hsuffix, hahead⟩)
    · exact ⟨m, ps, List.suffix_refl _, hahead⟩
    · exact ⟨name, after, hsuffix.trans (List.suffix_cons _ _), hahead⟩

theorem mem_literals_append (n lit : List Char) (ps : List Piece) :
    Piece.token n ∈ Piece.literals lit ++ ps ↔ Piece.token n ∈ ps := by
  unfold Piece.literals
  cases lit with
  | nil => exact Iff.rfl
  | cons c lit => simp

/-- Before the first token of a text no token's text occurs. It is the first token's, or it begins at
the mark that closes that one, or it is further on. -/
theorem infix_token {n m lit rest : List Char} (hn : IsName n) (hm : IsName m)
    (hquiet : Quiet lit ('!' :: (m ++ '!' :: rest))) :
    '!' :: (n ++ ['!']) <:+: lit ++ '!' :: (m ++ '!' :: rest) ↔
      m = n ∨ n ++ ['!'] <+: rest ∨ '!' :: (n ++ ['!']) <:+: rest := by
  constructor
  · rintro ⟨a, r, heq⟩
    have htext : a ++ '!' :: (n ++ '!' :: r) = lit ++ '!' :: (m ++ '!' :: rest) := by
      rw [← heq]
      simp
    rcases place_of_token hn hm hquiet htext with ⟨_, hsame⟩ | ⟨_, hrest⟩ | ⟨b, _, hrest⟩
    · exact Or.inl hsame.symm
    · exact Or.inr (Or.inl ⟨r, by simp [hrest]⟩)
    · exact Or.inr (Or.inr ⟨b, r, by simp [hrest]⟩)
  · rintro (rfl | ⟨r, hr⟩ | ⟨a, r, hr⟩)
    · exact ⟨lit, rest, by simp⟩
    · exact ⟨lit ++ '!' :: m, r, by simp [← hr]⟩
    · exact ⟨lit ++ '!' :: (m ++ '!' :: a), r, by simp [← hr]⟩

/-- **The text of a token occurs where a cut has the token, or at the closing mark of another one.** -/
theorem infix_cut {s : List Char} {ps : List Piece} (h : Cut s ps) {n : List Char}
    (hn : IsName n) :
    '!' :: (n ++ ['!']) <:+: s ↔ Piece.token n ∈ ps ∨ SharesMark n ps := by
  induction h with
  | @last lit hquiet =>
      have hnone : ¬ '!' :: (n ++ ['!']) <:+: lit := by
        rintro ⟨a, r, heq⟩
        refine hquiet a ('!' :: (n ++ '!' :: r)) (by rw [← heq]; simp) (by simp) ?_
        rw [List.append_nil]
        exact tokenAhead_of_name hn
      have hpieces := mem_literals_append n lit []
      have hshares := sharesMark_literals n lit []
      rw [List.append_nil] at hpieces hshares
      rw [hpieces, hshares]
      simp [hnone, SharesMark]
  | @token lit m rest ps hm hquiet hrest ih =>
      rw [infix_token hn hm hquiet, ih, mem_literals_append, sharesMark_literals, sharesMark_token,
        cut_chars hrest, List.mem_cons, Piece.token.injEq, eq_comm]
      tauto

/-! ## The column token and the task's table -/

/-- The name of the column token. -/
def columnsName : List Char := ['C', 'O', 'L', 'U', 'M', 'N', 'S']

theorem columnsToken_chars : columnsToken.toList = '!' :: (columnsName ++ ['!']) := by decide

theorem columnsName_isName : IsName columnsName := by
  refine ⟨by simp [columnsName], fun c hc => (isTokenChar_iff c).mp ?_⟩
  have hall : columnsName.all isTokenChar = true := by decide
  exact List.all_eq_true.mp hall c hc

/-- The scan finds the column token. -/
theorem mem_tokens_columns (ps : List Piece) :
    columnsToken ∈ tokens ps ↔ Piece.token columnsName ∈ ps := by
  constructor
  · intro h
    rw [tokens_eq, List.mem_eraseDups] at h
    obtain ⟨p, hp, htoken⟩ := List.mem_filterMap.mp h
    cases p with
    | literal cs => exact absurd htoken (by simp [Piece.token?])
    | token name =>
        have hchars : '!' :: (name ++ ['!']) = '!' :: (columnsName ++ ['!']) := by
          rw [← columnsToken_chars, ← Option.some.inj htoken, String.toList_ofList]
        have hname := List.append_cancel_right (List.cons.inj hchars).2
        exact hname ▸ hp
  · exact fun h => mem_tokens h rfl

/-- A task is bound, and its name is that of a table. -/
def Bindings.TaskTable (bs : Bindings) (table : String) : Prop :=
  ∃ b, bs.get? taskToken = some b ∧ b.raw = table ∧ IsTableName table

theorem taskTable_iff (bs : Bindings) (table : String) :
    bs.taskTable? = some table ↔ bs.TaskTable table := by
  unfold Bindings.taskTable? Bindings.TaskTable
  cases bs.get? taskToken with
  | none => simp
  | some b =>
      dsimp only
      split
      · rename_i hvalid
        constructor
        · intro h
          have hraw := Option.some.inj h
          exact ⟨b, rfl, hraw, hraw ▸ (isIdentifier_iff b.raw).mp hvalid⟩
        · rintro ⟨b', hb, hraw, _⟩
          rw [Option.some.inj hb, hraw]
      · rename_i hinvalid
        constructor
        · exact fun h => absurd h (by simp)
        · rintro ⟨b', hb, hraw, hname⟩
          rw [← hraw, ← Option.some.inj hb] at hname
          exact absurd ((isIdentifier_iff b.raw).mpr hname) hinvalid

/-- A table is looked up if it is the task's, and the text of the column token occurs. -/
theorem lookupTable_iff (bs : Bindings) (template table : String) :
    bs.lookupTable? template = some table ↔ bs.TaskTable table ∧
      (columnsToken ∈ tokens (scan template) ∨ SharesMark columnsName (scan template)) := by
  rw [← taskTable_iff, mem_tokens_columns, ← infix_cut (scan_cut template) columnsName_isName,
    ← columnsToken_chars, ← occursIn_iff]
  unfold Bindings.lookupTable?
  split
  · rename_i hoccurs
    exact ⟨fun h => ⟨h, hoccurs⟩, fun h => h.1⟩
  · rename_i hoccurs
    exact ⟨fun h => absurd h (by simp), fun h => absurd h.2 hoccurs⟩

/-- Columns do not matter to a template without their token. -/
theorem fill_without_columns {template : String} (h : columnsToken ∉ tokens (scan template))
    (bs : Bindings) (columns : Option String) (args : List Value) :
    bs.fill columns template args = bs.fill none template args := by
  rw [fill_shown, fill_shown]
  congr 2
  refine List.flatMap_congr fun p hp => ?_
  unfold Bindings.shown
  cases htoken : p.token? with
  | none => rfl
  | some t =>
      have hother : t ≠ columnsToken := fun ht => h (ht ▸ mem_tokens hp htoken)
      unfold Bindings.replacement?
      simp only [if_neg hother]

/-! ## Looking up -/

section

variable {σ : Type} {bs : Bindings} {template : String}

theorem fill_unasked (h : bs.lookupTable? template = none)
    (columnsOf : String → StateM σ (Except TemplateError (List String))) (geometry : String)
    (args : List Value) (s : σ) :
    (bs.fillWithColumns columnsOf geometry template args).run s
      = (.ok (bs.fill none template args), s) := by
  unfold Bindings.fillWithColumns
  rw [h]
  rfl

theorem fill_asked {table : String} (h : bs.lookupTable? template = some table)
    (columnsOf : String → StateM σ (Except TemplateError (List String))) (geometry : String)
    (args : List Value) (s : σ) :
    (bs.fillWithColumns columnsOf geometry template args).run s =
      (((columnsOf table).run s).1.map fun columns =>
        bs.fill (some (columnList columns geometry)) template args, ((columnsOf table).run s).2) := by
  unfold Bindings.fillWithColumns
  rw [h]
  dsimp only
  rw [StateT.run_bind]
  generalize (columnsOf table).run s = found
  obtain ⟨answer, s'⟩ := found
  cases answer <;> rfl

end

/--
**When columns are looked up, and what comes of it.**

They are looked up if a valid table is bound for the task and the text of the column token occurs in
the template: where a scan finds the token, or at the mark that closes another token. It is one
look-up, for that table. Filling in fails only with its error. Otherwise the query is the template
filled in with the columns that were found, or with none if there was no look-up; and this is all the
same for a template in which a scan finds no column token. Arguments come with a query only, so a
failure adds none to those there were. With the look-ups on record all is as it is without.
-/
theorem columns_looked_up {σ : Type} (bs : Bindings)
    (columnsOf : String → StateM σ (Except TemplateError (List String)))
    (geometry template : String) (args : List Value) (s : σ) :
    let filled := (bs.fillWithColumns (fun table => recorded (Prod.mk table) (columnsOf table))
      geometry template args).run ⟨s, []⟩
    let result := filled.1
    let lookups := filled.2.calls
    (lookups ≠ [] ↔ (∃ table, bs.TaskTable table) ∧
      (columnsToken ∈ tokens (scan template) ∨ SharesMark columnsName (scan template))) ∧
    (∀ l ∈ lookups, lookups = [l] ∧ bs.TaskTable l.1) ∧
    (∀ e, result = .error e ↔ ∃ table, (table, .error e) ∈ lookups) ∧
    (∀ table columns, (table, .ok columns) ∈ lookups →
      result = .ok (bs.fill (some (columnList columns geometry)) template args)) ∧
    (lookups = [] → result = .ok (bs.fill none template args)) ∧
    (columnsToken ∉ tokens (scan template) → ∀ statement, result = .ok statement →
      statement = bs.fill none template args) ∧
    (bs.fillWithColumns columnsOf geometry template args).run s = (result, filled.2.world) := by
  intro filled result lookups
  have hwhen := lookupTable_iff bs template
  cases htable : bs.lookupTable? template with
  | none =>
      have hfilled : filled = (.ok (bs.fill none template args), ⟨s, []⟩) :=
        fill_unasked htable _ geometry args _
      have hresult : result = .ok (bs.fill none template args) := congrArg Prod.fst hfilled
      have hlookups : lookups = [] := congrArg (fun f => f.2.calls) hfilled
      rw [fill_unasked htable, hresult, hlookups, hfilled]
      refine ⟨?_, by simp, by simp, by simp, fun _ => rfl, fun _ _ h => (Except.ok.inj h).symm, rfl⟩
      constructor
      · exact fun h => absurd rfl h
      · rintro ⟨⟨table, hbound⟩, hoccurs⟩
        have hasked := (hwhen table).mpr ⟨hbound, hoccurs⟩
        exact absurd (htable.symm.trans hasked) (by simp)
  | some table =>
      obtain ⟨hbound, hoccurs⟩ := (hwhen table).mp htable
      have hfilled : filled = (((columnsOf table).run s).1.map fun columns =>
          bs.fill (some (columnList columns geometry)) template args,
          ⟨((columnsOf table).run s).2, [(table, ((columnsOf table).run s).1)]⟩) :=
        fill_asked htable _ geometry args _
      have hresult : result = ((columnsOf table).run s).1.map fun columns =>
          bs.fill (some (columnList columns geometry)) template args := congrArg Prod.fst hfilled
      have hlookups : lookups = [(table, ((columnsOf table).run s).1)] :=
        congrArg (fun f => f.2.calls) hfilled
      rw [fill_asked htable, hresult, hlookups, hfilled]
      generalize ((columnsOf table).run s).1 = found
      refine ⟨by simp [hoccurs, show ∃ table, bs.TaskTable table from ⟨table, hbound⟩], ?_, ?_, ?_,
        by simp, ?_, rfl⟩
      · intro l hl
        rw [List.mem_singleton.mp hl]
        exact ⟨rfl, hbound⟩
      · intro e
        cases found with
        | error e' => simp [Except.map, eq_comm]
        | ok columns => simp [Except.map]
      · intro table' columns hl
        obtain ⟨_, rfl⟩ := Prod.mk.inj (List.mem_singleton.mp hl)
        rfl
      · intro hnone statement hok
        cases found with
        | error e => exact absurd hok (by simp [Except.map])
        | ok columns =>
            rw [← fill_without_columns hnone bs (some (columnList columns geometry)) args]
            exact (Except.ok.inj hok).symm

/-- The scan of this template finds one token, and it is not that of the columns. They are looked up
all the same, and the template fails with the look-up, though it is filled in without columns. -/
theorem shared_mark_looked_up :
    let template := "SELECT !A!COLUMNS!"
    let bs := Bindings.empty.setTask "t1"
    let refused := TemplateError.introspection "no such table"
    columnsToken ∉ tokens (scan template) ∧
    (bs.fillWithColumns (fun table => recorded (Prod.mk table) (pure (.error refused)))
      "geom" template []).run ⟨(), []⟩ = (.error refused, ⟨(), [("t1", .error refused)]⟩) ∧
    (bs.fill none template []).sql = template := by
  intro template bs refused
  have hasked : bs.lookupTable? template = some "t1" := by decide
  refine ⟨by decide, ?_, by decide⟩
  rw [fill_asked hasked]
  rfl

end TileDepot.Query
