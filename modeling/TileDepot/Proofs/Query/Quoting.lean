import TileDepot.Query.Columns

/-!
# Column lists can be read back

A column list is text that a database reads: names between double quotes, with commas between them.
`readNames?` reads it as a database does, one name up to the quote that closes it and then a comma or
the end. A name may have anything in it, also what looks like the end of a name and the start of
another. `readQuoted_doubled` says why this does no harm: inside a name quotes come in pairs, and
only one that stands alone closes it. So the whole list is read back (`columns_read_back`).
-/

namespace TileDepot.Query

/-! ## Reading quoted names -/

/-- The rest of a quoted name, behind its opening quote, and the text behind its closing one. Two
quotes in a row are a quote in the name, and one that stands alone closes it. -/
def readQuoted : List Char → Option (List Char × List Char)
  | [] => none
  | '"' :: '"' :: r => (readQuoted r).map fun p => ('"' :: p.1, p.2)
  | '"' :: r => some ([], r)
  | c :: r => (readQuoted r).map fun p => (c :: p.1, p.2)

/-- The quoted name that a text begins with, and the text behind it. -/
def readName : List Char → Option (List Char × List Char)
  | '"' :: r => readQuoted r
  | _ => none

/-- A text less the blanks it begins with. -/
def skipBlanks (cs : List Char) : List Char :=
  cs.dropWhile Char.isWhitespace

theorem readQuoted_shorter {cs name rest : List Char} (h : readQuoted cs = some (name, rest)) :
    rest.length < cs.length := by
  induction cs using readQuoted.induct generalizing name rest with
  | case1 => simp [readQuoted] at h
  | case2 r ih =>
      rw [readQuoted, Option.map_eq_some_iff] at h
      obtain ⟨p, hp, hpair⟩ := h
      have hshorter := ih hp
      rw [← (Prod.mk.inj hpair).2, List.length_cons, List.length_cons]
      omega
  | case3 r hlone =>
      rw [readQuoted] at h
      · rw [← (Prod.mk.inj (Option.some.inj h)).2, List.length_cons]
        omega
      · exact hlone
  | case4 c r hpair hquote ih =>
      rw [readQuoted, Option.map_eq_some_iff] at h
      · obtain ⟨p, hp, hpair⟩ := h
        have hshorter := ih hp
        rw [← (Prod.mk.inj hpair).2, List.length_cons]
        omega
      · exact hpair
      · exact hquote

theorem readName_shorter {cs name rest : List Char} (h : readName cs = some (name, rest)) :
    rest.length < cs.length := by
  unfold readName at h
  split at h
  · have hshorter := readQuoted_shorter h
    rw [List.length_cons]
    omega
  · exact absurd h (by simp)

theorem length_skipBlanks (cs : List Char) : (skipBlanks cs).length ≤ cs.length :=
  (List.dropWhile_suffix _).length_le

/-- Less is left behind a name and the character after it. -/
theorem shorter_behind {cs name rest more : List Char} {c : Char}
    (hname : readName (skipBlanks cs) = some (name, rest)) (hrest : skipBlanks rest = c :: more) :
    more.length < cs.length := by
  have hfirst := length_skipBlanks cs
  have hread := readName_shorter hname
  have hlast := length_skipBlanks rest
  rw [hrest, List.length_cons] at hlast
  omega

/-- Quoted names with commas between them, at least one. Blanks before and behind a name do not
count. -/
def readSome (cs : List Char) : Option (List String) :=
  match hname : readName (skipBlanks cs) with
  | none => none
  | some (name, rest) =>
    match hrest : skipBlanks rest with
    | [] => some [String.ofList name]
    | c :: more =>
      have := shorter_behind hname hrest
      if c = ',' then (readSome more).map (String.ofList name :: ·) else none
termination_by cs.length

/-- Quoted names with commas between them. A blank text has none. -/
def readNames? (text : String) : Option (List String) :=
  if (skipBlanks text.toList).isEmpty then some [] else readSome text.toList

/-! ## Quoting and reading -/

/-- **A name is closed by the quote that was put behind it**, whatever is in it. -/
theorem readQuoted_doubled (name : List Char) {rest : List Char} (h : rest.head? ≠ some '"') :
    readQuoted ((name.flatMap fun c => if c == '"' then ['"', '"'] else [c]) ++ '"' :: rest)
      = some (name, rest) := by
  induction name with
  | nil =>
      cases rest with
      | nil => rfl
      | cons c rest =>
          have hc : c ≠ '"' := fun heq => h (heq ▸ rfl)
          simp [readQuoted, hc]
  | cons c name ih =>
      rw [List.flatMap_cons]
      by_cases hc : c = '"'
      · subst hc
        show readQuoted ('"' :: '"' :: (name.flatMap _ ++ '"' :: rest)) = _
        rw [readQuoted, ih]
        rfl
      · have hsingle : (if c == '"' then ['"', '"'] else [c]) = [c] := by simp [hc]
        rw [hsingle, List.append_assoc, List.singleton_append, readQuoted, ih]
        · rfl
        · exact fun _ heq _ => hc heq
        · exact hc

theorem readName_quoteColumn (name : String) {rest : List Char} (h : rest.head? ≠ some '"') :
    readName (quoteColumn name ++ rest) = some (name.toList, rest) := by
  have htext : quoteColumn name ++ rest = '"' ::
      ((name.toList.flatMap fun c => if c == '"' then ['"', '"'] else [c]) ++ '"' :: rest) := by
    simp [quoteColumn]
  rw [htext, readName, readQuoted_doubled name.toList h]

/-! ## The list -/

/-- What stands behind a name in a list. -/
def behind (names : List String) : List Char :=
  names.flatMap fun c => ',' :: ' ' :: quoteColumn c

theorem intercalate_quoteColumn (name : String) (names : List String) :
    [',', ' '].intercalate ((name :: names).map quoteColumn) = quoteColumn name ++ behind names := by
  induction names generalizing name with
  | nil => simp [behind]
  | cons next names ih =>
      rw [List.map_cons, List.map_cons, List.intercalate_cons_cons, ← List.map_cons, ih]
      simp [behind]

theorem behind_head (names : List String) : (behind names).head? ≠ some '"' := by
  cases names with
  | nil => simp [behind]
  | cons next names => simp [behind]

theorem skipBlanks_quoteColumn (name : String) (rest : List Char) :
    skipBlanks (quoteColumn name ++ rest) = quoteColumn name ++ rest := by
  unfold quoteColumn skipBlanks
  rw [List.cons_append, List.cons_append]
  exact List.dropWhile_cons_of_neg (by decide)

/-- Behind a name the list ends or goes on after a comma. -/
theorem readSome_eq {cs name rest : List Char}
    (hname : readName (skipBlanks cs) = some (name, rest)) :
    readSome cs = match skipBlanks rest with
      | [] => some [String.ofList name]
      | c :: more => if c = ',' then (readSome more).map (String.ofList name :: ·) else none := by
  rw [readSome]
  split
  · rename_i hnone
    rw [hname] at hnone
    cases hnone
  · rename_i hsome
    rw [hname] at hsome
    cases hsome
    split
    all_goals
      rename_i hrest
      simp only [hrest]

/-- **Names are read back one after the other**, with a blank before the first or without one. -/
theorem readSome_quoted (name : String) (names : List String) {cs : List Char}
    (h : skipBlanks cs = quoteColumn name ++ behind names) : readSome cs = some (name :: names) := by
  induction names generalizing name cs with
  | nil =>
      have hname := readName_quoteColumn name (behind_head [])
      rw [readSome_eq (h ▸ hname), String.ofList_toList]
      rfl
  | cons next names ih =>
      -- a comma and a blank stand behind the name, and then the text of the other names
      have hname := readName_quoteColumn name (behind_head (next :: names))
      have hbehind : behind (next :: names) = ',' :: ' ' :: (quoteColumn next ++ behind names) := rfl
      have hskip : skipBlanks (behind (next :: names)) = behind (next :: names) :=
        List.dropWhile_cons_of_neg (by decide)
      have hrest : skipBlanks (' ' :: (quoteColumn next ++ behind names))
          = quoteColumn next ++ behind names := by
        rw [← skipBlanks_quoteColumn next (behind names)]
        exact List.dropWhile_cons_of_pos (by rfl)
      rw [readSome_eq (h ▸ hname), hskip, hbehind]
      dsimp only
      rw [if_pos rfl, ih next hrest, String.ofList_toList]
      rfl

/-- The columns that a query lists: all but the geometry and `id`. -/
theorem listed_eq (columns : List String) (geometry : String) :
    listed columns geometry = columns.filter fun c => c ≠ geometry ∧ c ≠ "id" := by
  unfold listed
  congr 1
  funext c
  by_cases hgeometry : c = geometry
  · simp [hgeometry]
  · by_cases hid : c = "id"
    · simp [hid]
    · simp [hgeometry, hid]

theorem columnList_cons {columns : List String} {geometry name : String} {names : List String}
    (h : listed columns geometry = name :: names) :
    (columnList columns geometry).toList = quoteColumn name ++ behind names := by
  rw [columnList, String.toList_ofList, h, intercalate_quoteColumn]

/-- Each name stands between its quotes, with what stands behind it in a list. -/
theorem columnList_at {columns : List String} {geometry name : String} {front back : List String}
    (h : listed columns geometry = front ++ name :: back) : ∃ before,
      (columnList columns geometry).toList = before ++ quoteColumn name ++ behind back := by
  cases front with
  | nil => exact ⟨[], columnList_cons h⟩
  | cons first front =>
      refine ⟨quoteColumn first ++ behind front ++ [',', ' '], ?_⟩
      rw [columnList_cons h]
      simp [behind]

theorem readNames_columnList (columns : List String) (geometry : String) :
    readNames? (columnList columns geometry) = some (listed columns geometry) := by
  unfold readNames?
  cases hlisted : listed columns geometry with
  | nil =>
      have hempty : (columnList columns geometry).toList = [] := by
        rw [columnList, hlisted]
        rfl
      rw [hempty]
      rfl
  | cons name names =>
      have hskip := skipBlanks_quoteColumn name (behind names)
      rw [columnList_cons hlisted, if_neg, readSome_quoted name names hskip]
      rw [hskip]
      simp [quoteColumn]

/--
**Quoting columns loses nothing.**

Read as quoted names with commas between them, a column list gives the columns in their order, less
the geometry and `id`; so two lists are one text just when these columns are the same. Each of the
names stands in the list between quotes of which the second is the one that closes it, whatever is in
the name and whatever stands behind the list, if that is not one more quote.
-/
theorem columns_read_back (columns : List String) (geometry : String) :
    readNames? (columnList columns geometry)
      = some (columns.filter fun c => c ≠ geometry ∧ c ≠ "id") ∧
    (∀ columns' geometry', columnList columns geometry = columnList columns' geometry' ↔
      (columns.filter fun c => c ≠ geometry ∧ c ≠ "id")
        = columns'.filter fun c => c ≠ geometry' ∧ c ≠ "id") ∧
    ∀ front name back,
      (columns.filter fun c => c ≠ geometry ∧ c ≠ "id") = front ++ name :: back →
      ∃ before after, (columnList columns geometry).toList = before ++ quoteColumn name ++ after ∧
        ∀ rest : List Char, rest.head? ≠ some '"' →
          readName (quoteColumn name ++ (after ++ rest)) = some (name.toList, after ++ rest) := by
  simp only [← listed_eq]
  refine ⟨readNames_columnList columns geometry, fun columns' geometry' => ⟨fun h => ?_, fun h => ?_⟩,
    ?_⟩
  · have hread := readNames_columnList columns geometry
    rw [h, readNames_columnList] at hread
    exact (Option.some.inj hread).symm
  · unfold columnList
    rw [h]
  · intro front name back hsplit
    obtain ⟨before, htext⟩ := columnList_at hsplit
    refine ⟨before, behind back, htext, fun rest hrest => readName_quoteColumn name ?_⟩
    -- a comma follows the name, or else what stands behind the list
    cases back with
    | nil => exact hrest
    | cons next back => simp [behind]

/-- A name that looks like two is read as one, and the name without characters is a name. -/
theorem odd_columns_read_back :
    readNames? (columnList ["a\", \"b", "geom", "", "id"] "geom") = some ["a\", \"b", ""] ∧
      ∃ before after, (columnList ["a\", \"b", "geom", "", "id"] "geom").toList
          = before ++ quoteColumn "a\", \"b" ++ after ∧
        readName (quoteColumn "a\", \"b" ++ (after ++ [')']))
          = some ("a\", \"b".toList, after ++ [')']) := by
  obtain ⟨hread, _, hclosed⟩ := columns_read_back ["a\", \"b", "geom", "", "id"] "geom"
  obtain ⟨before, after, htext, hname⟩ := hclosed [] "a\", \"b" [""] (by decide)
  exact ⟨hread, before, after, htext, hname [')'] (by simp)⟩

end TileDepot.Query
