import TileDepot.Proofs.Text.Numeral
import TileDepot.Proofs.Text.Trimming
import TileDepot.Tile.Key

/-!
# The grammar of tile paths

Which paths name a tile, and what is wrong with the others. `Segments` says what the segments of a
path are; every path has just one list of them (`segments_iff`). A path names a tile if and only if
there are four and the last three are numerals, the very last one up to its first dot
(`ofPath_ok_iff`), and `Fault` says what is reported of any other (`ofPath_error_iff`).
-/

namespace TileDepot.Tile

/-! ## Segments -/

/-- Segments are what a split at the slashes leaves. -/
theorem segments_eq (cs : List Char) : segments cs = cs.splitOn '/' := by
  induction cs with
  | nil => rfl
  | cons c cs ih =>
      rw [segments, ih]
      unfold List.splitOn
      rw [List.splitOnP_cons_eq_if_modifyHead]
      split
      · rfl
      · -- both put a character that is no slash in front of the first segment
        cases hrest : List.splitOnP (· == '/') cs with
        | nil => exact absurd hrest (List.splitOnP_ne_nil _ _)
        | cons s ss => rfl

theorem segments_single {s : List Char} (h : '/' ∉ s) : segments s = [s] := by
  rw [segments_eq, List.splitOn_eq_singleton h]

theorem segments_cut {s : List Char} (h : '/' ∉ s) (cs : List Char) :
    segments (s ++ '/' :: cs) = s :: segments cs := by
  rw [segments_eq, segments_eq, List.splitOn_append_cons_self_of_not_mem h]

theorem slash_not_mem_segments {cs s : List Char} (h : s ∈ segments cs) : '/' ∉ s := by
  induction cs generalizing s with
  | nil =>
      rw [List.mem_singleton.mp h]
      exact List.not_mem_nil
  | cons c cs ih =>
      rw [segments] at h
      split at h
      · rcases List.mem_cons.mp h with h | h
        · rw [h]
          exact List.not_mem_nil
        · exact ih h
      · rename_i hc
        -- a character that is no slash goes to the front of the first segment
        have hne : '/' ≠ c := by simpa using Ne.symm (by simpa using hc)
        cases hrest : segments cs with
        | nil =>
            rw [hrest] at h
            rw [List.mem_singleton.mp h]
            simpa using hne
        | cons first more =>
            rw [hrest] at h
            rcases List.mem_cons.mp h with h | h
            · rw [h, List.mem_cons, not_or]
              exact ⟨hne, ih (hrest ▸ List.mem_cons_self)⟩
            · exact ih (hrest ▸ List.mem_cons_of_mem _ h)

/-- Only slashes at the ends are taken off. -/
theorem trimSlashes_iff {path core : List Char} : trimSlashes path = core ↔
    (∃ front back, path = front ++ core ++ back ∧ (∀ c ∈ front, c = '/') ∧ ∀ c ∈ back, c = '/') ∧
      core.head? ≠ some '/' ∧ core.getLast? ≠ some '/' := by
  have hend : ∀ o : Option Char, (∀ c ∈ o, (c == '/') = false) ↔ o ≠ some '/' := by
    intro o
    cases o <;> simp
  unfold trimSlashes
  rw [Text.trimmed_iff, hend, hend]
  simp only [beq_iff_eq]

/-- The segments of a path: what slashes cut it into, when those at its ends are gone. -/
structure Segments (path : List Char) (ss : List (List Char)) : Prop where
  nonempty : ss ≠ []
  whole : ∀ s ∈ ss, '/' ∉ s
  joined : ∃ front back, path = front ++ ['/'].intercalate ss ++ back ∧
    (∀ c ∈ front, c = '/') ∧ ∀ c ∈ back, c = '/'
  first : (['/'].intercalate ss).head? ≠ some '/'
  last : (['/'].intercalate ss).getLast? ≠ some '/'

theorem segments_iff {path : List Char} {ss : List (List Char)} :
    Segments path ss ↔ segments (trimSlashes path) = ss := by
  rw [segments_eq]
  constructor
  · intro h
    rw [trimSlashes_iff.mpr ⟨h.joined, h.first, h.last⟩]
    exact List.splitOn_intercalate '/' h.whole h.nonempty
  · rintro rfl
    have hjoin : ['/'].intercalate ((trimSlashes path).splitOn '/') = trimSlashes path :=
      List.intercalate_splitOn '/'
    obtain ⟨hends, hfirst, hlast⟩ := trimSlashes_iff.mp (rfl : trimSlashes path = _)
    refine ⟨List.splitOn_ne_nil _ _, fun s hs => ?_, by rwa [hjoin], by rwa [hjoin], by rwa [hjoin]⟩
    rw [← segments_eq] at hs
    exact slash_not_mem_segments hs

/-- Of several segments the first is not empty: a slash in front would have been taken off. -/
theorem Segments.first_ne_nil {path s : List Char} {next : List Char} {ss : List (List Char)}
    (h : Segments path (s :: next :: ss)) : s ≠ [] := by
  rintro rfl
  exact h.first (by simp)

/-! ## Numbers -/

/-- A numeral of 32 bits without a minus sign. -/
def IsZoom (cs : List Char) : Prop :=
  ∃ n : UInt32, Text.Unsigned n.toNat cs

/-- A numeral of 64 bits, with a sign or without one. -/
def IsIndex (cs : List Char) : Prop :=
  ∃ n : Int64, Text.Signed n.toInt cs

/-- The row's numeral, which ends at the first dot. -/
def stem (cs : List Char) : List Char :=
  cs.takeWhile (· != '.')

theorem readZoom_iff {cs : List Char} {n : UInt32} :
    Text.uint32? (String.ofList cs) = some n ↔ Text.Unsigned n.toNat cs := by
  rw [Text.uint32?_eq_some_iff, String.toList_ofList]

theorem readIndex_iff {cs : List Char} {n : Int64} :
    Text.int64? (String.ofList cs) = some n ↔ Text.Signed n.toInt cs := by
  rw [Text.int64?_eq_some_iff, String.toList_ofList]

theorem readZoom_none_iff {cs : List Char} :
    Text.uint32? (String.ofList cs) = none ↔ ¬ IsZoom cs := by
  simp only [IsZoom, ← readZoom_iff, Option.eq_none_iff_forall_ne_some, not_exists, ne_eq]

theorem readIndex_none_iff {cs : List Char} :
    Text.int64? (String.ofList cs) = none ↔ ¬ IsIndex cs := by
  simp only [IsIndex, ← readIndex_iff, Option.eq_none_iff_forall_ne_some, not_exists, ne_eq]

/-! ## Reading -/

/-- What is reported of a path with these segments if it names no tile: their number, or else the
first of the three numbers that is none. -/
inductive Fault (path : String) : List (List Char) → KeyError → Prop where
  | count {ss : List (List Char)} (wrong : ss.length ≠ 4) : Fault path ss (.invalidPath path)
  | zoom {map zoom x y : List Char} (bad : ¬ IsZoom zoom) :
      Fault path [map, zoom, x, y] (.invalidComponent .zoom (String.ofList zoom))
  | x {map zoom x y : List Char} (good : IsZoom zoom) (bad : ¬ IsIndex x) :
      Fault path [map, zoom, x, y] (.invalidComponent .x (String.ofList x))
  | y {map zoom x y : List Char} (good : IsZoom zoom) (good' : IsIndex x)
      (bad : ¬ IsIndex (stem y)) :
      Fault path [map, zoom, x, y] (.invalidComponent .y (String.ofList (stem y)))

section

variable {path : String} {map zoom x y : List Char}

theorem ofPath_count {ss : List (List Char)} (h : Segments path.toList ss) (hcount : ss.length ≠ 4) :
    Key.ofPath path = .error (.invalidPath path) := by
  unfold Key.ofPath
  rw [segments_iff.mp h]
  split
  · exact absurd rfl hcount
  · rfl

theorem number_ok {α : Type} {read? : String → Option α} {c : Component} {cs : List Char} {n : α}
    (h : read? (String.ofList cs) = some n) : Key.number read? c cs = .ok n := by
  unfold Key.number
  rw [h]

/-- With four segments the numbers are read one after the other. -/
theorem ofPath_four (h : Segments path.toList [map, zoom, x, y]) : Key.ofPath path = do
    let z ← Key.number Text.uint32? .zoom zoom
    let x ← Key.number Text.int64? .x x
    let y ← Key.number Text.int64? .y (stem y)
    return ⟨String.ofList map, z, x, y, none⟩ := by
  unfold Key.ofPath
  rw [segments_iff.mp h]
  dsimp only
  rw [if_neg]
  · rfl
  · simpa using h.first_ne_nil

theorem ofPath_zoom (h : Segments path.toList [map, zoom, x, y]) (hzoom : ¬ IsZoom zoom) :
    Key.ofPath path = .error (.invalidComponent .zoom (String.ofList zoom)) := by
  rw [ofPath_four h, Key.number, readZoom_none_iff.mpr hzoom]
  rfl

theorem ofPath_x (h : Segments path.toList [map, zoom, x, y]) {nz : UInt32}
    (hzoom : Text.Unsigned nz.toNat zoom) (hx : ¬ IsIndex x) :
    Key.ofPath path = .error (.invalidComponent .x (String.ofList x)) := by
  rw [ofPath_four h, number_ok (readZoom_iff.mpr hzoom), Key.number, readIndex_none_iff.mpr hx]
  rfl

theorem ofPath_y (h : Segments path.toList [map, zoom, x, y]) {nz : UInt32}
    (hzoom : Text.Unsigned nz.toNat zoom) {nx : Int64} (hx : Text.Signed nx.toInt x)
    (hy : ¬ IsIndex (stem y)) :
    Key.ofPath path = .error (.invalidComponent .y (String.ofList (stem y))) := by
  rw [ofPath_four h, number_ok (readZoom_iff.mpr hzoom), number_ok (readIndex_iff.mpr hx),
    Key.number, readIndex_none_iff.mpr hy]
  rfl

theorem ofPath_numbers (h : Segments path.toList [map, zoom, x, y]) {nz : UInt32}
    (hzoom : Text.Unsigned nz.toNat zoom) {nx : Int64} (hx : Text.Signed nx.toInt x) {ny : Int64}
    (hy : Text.Signed ny.toInt (stem y)) :
    Key.ofPath path = .ok ⟨String.ofList map, nz, nx, ny, none⟩ := by
  rw [ofPath_four h, number_ok (readZoom_iff.mpr hzoom), number_ok (readIndex_iff.mpr hx),
    number_ok (readIndex_iff.mpr hy)]
  rfl

end

/-- **Every path names a tile, by the numbers of its numerals, or has a fault.** -/
theorem ofPath_cases (path : String) :
    (∃ map zoom x y nz nx ny, Segments path.toList [map, zoom, x, y] ∧
      Text.Unsigned (UInt32.toNat nz) zoom ∧ Text.Signed (Int64.toInt nx) x ∧
      Text.Signed (Int64.toInt ny) (stem y) ∧
      Key.ofPath path = .ok ⟨String.ofList map, nz, nx, ny, none⟩) ∨
    ∃ ss e, Segments path.toList ss ∧ Fault path ss e ∧ Key.ofPath path = .error e := by
  obtain ⟨ss, hss⟩ : ∃ ss, Segments path.toList ss := ⟨_, segments_iff.mpr rfl⟩
  -- in the order of reading: the first test that fails gives the fault
  by_cases hcount : ss.length = 4
  · match ss, hcount with
    | [map, zoom, x, y], _ =>
      by_cases hzoom : IsZoom zoom
      · obtain ⟨nz, hnz⟩ := hzoom
        by_cases hx : IsIndex x
        · obtain ⟨nx, hnx⟩ := hx
          by_cases hy : IsIndex (stem y)
          · obtain ⟨ny, hny⟩ := hy
            exact Or.inl ⟨map, zoom, x, y, nz, nx, ny, hss, hnz, hnx, hny,
              ofPath_numbers hss hnz hnx hny⟩
          · exact Or.inr ⟨_, _, hss, .y ⟨nz, hnz⟩ ⟨nx, hnx⟩ hy, ofPath_y hss hnz hnx hy⟩
        · exact Or.inr ⟨_, _, hss, .x ⟨nz, hnz⟩ hx, ofPath_x hss hnz hx⟩
      · exact Or.inr ⟨_, _, hss, .zoom hzoom, ofPath_zoom hss hzoom⟩
  · exact Or.inr ⟨ss, _, hss, .count hcount, ofPath_count hss hcount⟩

/-- **The paths that name a tile.** The numbers of the key are those of the numerals. -/
theorem ofPath_ok_iff {path : String} {k : Key} : Key.ofPath path = .ok k ↔
    ∃ zoom x y, Segments path.toList [k.map.toList, zoom, x, y] ∧
      Text.Unsigned k.zoom.toNat zoom ∧ Text.Signed k.x.toInt x ∧
      Text.Signed k.y.toInt (stem y) ∧ k.fingerprint = none := by
  constructor
  · intro h
    rcases ofPath_cases path with ⟨map, zoom, x, y, nz, nx, ny, hss, hz, hx, hy, hok⟩ |
      ⟨_, _, _, _, herror⟩
    · rw [h] at hok
      cases hok
      refine ⟨zoom, x, y, ?_, hz, hx, hy, rfl⟩
      rw [String.toList_ofList]
      exact hss
    · rw [h] at herror
      cases herror
  · rintro ⟨zoom, x, y, hss, hz, hx, hy, hplain⟩
    rw [ofPath_numbers hss hz hx hy, String.ofList_toList, ← hplain]

/-- **What is reported of a path that names no tile.** -/
theorem ofPath_error_iff {path : String} {e : KeyError} : Key.ofPath path = .error e ↔
    ∃ ss, Segments path.toList ss ∧ Fault path ss e := by
  constructor
  · intro h
    rcases ofPath_cases path with ⟨_, _, _, _, _, _, _, _, _, _, _, hok⟩ |
      ⟨ss, e', hss, hfault, herror⟩
    · rw [h] at hok
      cases hok
    · rw [h] at herror
      cases herror
      exact ⟨ss, hss, hfault⟩
  · rintro ⟨ss, hss, hfault⟩
    cases hfault with
    | count hcount => exact ofPath_count hss hcount
    | zoom hzoom => exact ofPath_zoom hss hzoom
    | x hzoom hx =>
        obtain ⟨nz, hz⟩ := hzoom
        exact ofPath_x hss hz hx
    | y hzoom hx hy =>
        obtain ⟨nz, hz⟩ := hzoom
        obtain ⟨nx, hx⟩ := hx
        exact ofPath_y hss hz hx hy

end TileDepot.Tile
