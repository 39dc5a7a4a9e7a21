import TileDepot.Proofs.Tile.Grammar
import TileDepot.Tile.Request

/-!
# Which tiles share an entry

The text of a key is four segments: the map with the fingerprint, and the three numbers of the tile.
As there is no slash inside any of them, the text says what they are (`text_eq_iff`), and so only the
first one can be read in two ways. A map's name is whatever a client asks for. It may end in an
underscore and 32 hexadecimal digits, as if a fingerprint stood there; then the plain tile of this
map has the entry of a tile that was asked for with a query (`same_entry_iff`,
`plain_tile_takes_scoped_entry`). Nothing else is ever shared.
-/

namespace TileDepot.Tile

/-! ## Fingerprints -/

theorem length_bigEndian (n v : Nat) : (Digest.bigEndian n v).length = n := by
  induction n generalizing v with
  | zero => rfl
  | succ n ih =>
      rw [Digest.bigEndian, List.length_append, ih]
      rfl

theorem length_sha256 (bs : Bytes) : (Digest.sha256 bs).length = 32 := by
  unfold Digest.sha256 Digest.Chain.words
  simp [length_bigEndian]

theorem length_toHex (bs : Bytes) : (Bytes.toHex bs).toList.length = 2 * bs.length := by
  unfold Bytes.toHex
  rw [String.toList_ofList]
  induction bs with
  | nil => rfl
  | cons b bs ih =>
      rw [List.flatMap_cons, List.length_append, ih, List.length_cons]
      show 2 + _ = _
      omega

/-- The digits of hexadecimal numerals. -/
def hexDigits : List Char := "0123456789abcdef".toList

theorem lowerDigit_mem {n : Nat} (h : n < 16) : Bytes.lowerDigit n ∈ hexDigits := by
  have hall : ∀ n < 16, Bytes.lowerDigit n ∈ hexDigits := by decide
  exact hall n h

theorem toHex_digits {bs : Bytes} {c : Char} (h : c ∈ (Bytes.toHex bs).toList) : c ∈ hexDigits := by
  unfold Bytes.toHex at h
  rw [String.toList_ofList, List.mem_flatMap] at h
  obtain ⟨b, _, hc⟩ := h
  have hb := b.toNat_lt
  rcases List.mem_cons.mp hc with rfl | hc
  · exact lowerDigit_mem (by omega)
  · rw [List.mem_singleton.mp hc]
    exact lowerDigit_mem (by omega)

/-- **A fingerprint has 32 hexadecimal digits.** -/
theorem fingerprint_digits (query : String) : (fingerprint query).toList.length = 32 ∧
    ∀ c ∈ (fingerprint query).toList, c ∈ hexDigits := by
  refine ⟨?_, fun c hc => toHex_digits hc⟩
  unfold fingerprint
  rw [length_toHex, List.length_take, length_sha256]
  rfl

/-! ## Texts of keys -/

/-- There is no slash in the map, and if there is a fingerprint it is that of a query. -/
structure Key.Plain (k : Key) : Prop where
  map : '/' ∉ k.map.toList
  fingerprint : ∀ f, k.fingerprint = some f → ∃ q, f = Tile.fingerprint q

theorem slash_not_mem_fingerprint (query : String) : '/' ∉ (fingerprint query).toList :=
  fun h => absurd ((fingerprint_digits query).2 '/' h) (by decide)

theorem slash_not_mem_scope {k : Key} (h : k.Plain) : '/' ∉ k.scope.toList := by
  unfold Key.scope
  split
  · rename_i f hf
    obtain ⟨q, rfl⟩ := h.fingerprint f hf
    rw [String.toList_append, String.toList_append, List.mem_append, List.mem_append]
    rintro ((hmap | hmark) | hdigits)
    · exact h.map hmap
    · exact absurd hmark (by decide)
    · exact slash_not_mem_fingerprint q hdigits
  · exact h.map

theorem slash_not_mem_repr (n : Int) : '/' ∉ n.repr.toList := by
  intro h
  rcases Text.isDigit_of_mem_repr h with hdigit | hsign
  · exact absurd hdigit (by decide)
  · exact absurd hsign (by decide)

/-- The numerals of a tile have slashes between them. -/
theorem tile_chars (t : Grid.TileId) : t.text.toList = (toString t.zoom).toList ++ '/' ::
    ((toString t.x).toList ++ '/' :: (toString t.y).toList) := by
  show (toString t.zoom ++ "/" ++ toString t.x ++ "/" ++ toString t.y).toList = _
  simp [String.toList_append]

/-- The numbers of a tile, each a segment of its own. -/
theorem segments_tile (t : Grid.TileId) : segments t.text.toList =
    [(toString t.zoom).toList, (toString t.x).toList, (toString t.y).toList] := by
  have hzoom : '/' ∉ (toString t.zoom).toList := slash_not_mem_repr t.zoom.toNat
  have hx : '/' ∉ (toString t.x).toList := slash_not_mem_repr t.x.toInt
  have hy : '/' ∉ (toString t.y).toList := slash_not_mem_repr t.y.toInt
  rw [tile_chars, segments_cut hzoom, segments_cut hx, segments_single hy]

/-- **The text of a key says which tile it is of, and its scope**, but no more. -/
theorem text_eq_iff {k k' : Key} (h : k.Plain) (h' : k'.Plain) :
    k.text = k'.text ↔ k.tile = k'.tile ∧ k.scope = k'.scope := by
  have hcut : ∀ k : Key, k.Plain →
      segments k.text.toList = k.scope.toList :: segments k.tile.text.toList := by
    intro k h
    have htext : k.text.toList = k.scope.toList ++ '/' :: k.tile.text.toList := by
      show (k.scope ++ "/" ++ k.tile.text).toList = _
      simp [String.toList_append]
    rw [htext, segments_cut (slash_not_mem_scope h)]
  constructor
  · intro heq
    have hsegments := (hcut k h).symm.trans (heq ▸ hcut k' h')
    rw [segments_tile, segments_tile] at hsegments
    obtain ⟨hscope, hnumbers⟩ := List.cons.inj hsegments
    obtain ⟨hzoom, hnumbers⟩ := List.cons.inj hnumbers
    obtain ⟨hx, hnumbers⟩ := List.cons.inj hnumbers
    have hz := Text.uint32_toString_inj (String.toList_inj.mp hzoom)
    have hx := Text.int64_toString_inj (String.toList_inj.mp hx)
    have hy := Text.int64_toString_inj (String.toList_inj.mp (List.cons.inj hnumbers).1)
    refine ⟨?_, String.toList_inj.mp hscope⟩
    show (⟨k.tile.zoom, k.tile.x, k.tile.y⟩ : Grid.TileId) = ⟨k'.tile.zoom, k'.tile.x, k'.tile.y⟩
    rw [hz, hx, hy]
  · rintro ⟨htile, hscope⟩
    unfold Key.text
    rw [htile, hscope]

/-! ## Scopes -/

/-- Two maps with fingerprints behind them are told apart by what the last 33 characters are not. -/
theorem append_fingerprint_inj {map map' query query' : String}
    (h : map ++ "_" ++ fingerprint query = map' ++ "_" ++ fingerprint query') :
    map = map' ∧ fingerprint query = fingerprint query' := by
  have hlists := congrArg String.toList h
  simp only [String.toList_append] at hlists
  have hlength := (fingerprint_digits query).1.trans (fingerprint_digits query').1.symm
  obtain ⟨hfront, hback⟩ := List.append_inj' hlists hlength
  exact ⟨String.toList_inj.mp (List.append_inj' hfront rfl).1, String.toList_inj.mp hback⟩

/-- A path that names a tile gives its map, which is not empty and has no slash. -/
theorem ofPath_ok {path : String} {k : Key} (h : Key.ofPath path = .ok k) :
    k.map ≠ "" ∧ '/' ∉ k.map.toList ∧ k.fingerprint = none := by
  obtain ⟨zoom, x, y, hsegments, _, _, _, hplain⟩ := ofPath_ok_iff.mp h
  refine ⟨fun hempty => ?_, hsegments.whole _ List.mem_cons_self, hplain⟩
  exact hsegments.first_ne_nil (String.toList_eq_nil_iff.mpr hempty)

/-- The key that a request is cached under has the fingerprint of its query. -/
theorem cacheKey_ok {r : Request} {k : Key} (hquery : r.query ≠ some "")
    (h : r.cacheKey = .ok k) : k.Plain ∧ k.fingerprint = r.query.map fingerprint := by
  unfold Request.cacheKey at h
  cases hkey : r.key with
  | error e => rw [hkey] at h; exact absurd h (by simp [bind, Except.bind])
  | ok k₀ =>
      rw [hkey] at h
      obtain ⟨_, hmap, hnone⟩ := ofPath_ok hkey
      cases hq : r.query with
      | none =>
          rw [hq] at h
          have hk : k₀ = k := Except.ok.inj h
          subst hk
          exact ⟨⟨hmap, fun f hf => absurd hf (by simp [hnone])⟩, hnone⟩
      | some q =>
          rw [hq] at h
          have hk : k₀.withQuery q = k := Except.ok.inj h
          have hsome : (k₀.withQuery q).fingerprint = some (fingerprint q) := by
            unfold Key.withQuery
            rw [if_neg]
            intro hempty
            exact hquery (by rw [hq, String.isEmpty_iff.mp hempty])
          subst hk
          refine ⟨⟨hmap, fun f hf => ⟨q, ?_⟩⟩, hsome⟩
          exact (Option.some.inj (hsome.symm.trans hf)).symm

theorem scope_plain {k : Key} (h : k.fingerprint = none) : k.scope = k.map := by
  unfold Key.scope
  rw [h]

theorem scope_scoped {k : Key} {f : String} (h : k.fingerprint = some f) :
    k.scope = k.map ++ "_" ++ f := by
  unfold Key.scope
  rw [h]

/--
**Two requests share an entry if they are for the same tile with the same query**, and else only if
one of them is a plain one for a map whose name ends as if there were the other's fingerprint.
-/
theorem same_entry_iff {r r' : Request} {k k' : Key} (hquery : r.query ≠ some "")
    (hquery' : r'.query ≠ some "") (hk : r.cacheKey = .ok k) (hk' : r'.cacheKey = .ok k')
    (hdigest : ∀ q q', r.query = some q → r'.query = some q' →
      fingerprint q = fingerprint q' → q = q') :
    k.text = k'.text ↔ k.tile = k'.tile ∧
      (k.map = k'.map ∧ r.query = r'.query ∨
        (∃ q, r.query = some q ∧ r'.query = none ∧ k'.map = k.map ++ "_" ++ fingerprint q) ∨
        ∃ q, r'.query = some q ∧ r.query = none ∧ k.map = k'.map ++ "_" ++ fingerprint q) := by
  obtain ⟨hplain, hfp⟩ := cacheKey_ok hquery hk
  obtain ⟨hplain', hfp'⟩ := cacheKey_ok hquery' hk'
  rw [text_eq_iff hplain hplain']
  refine and_congr_right fun _ => ?_
  cases hq : r.query with
  | none =>
      rw [hq] at hfp
      rw [scope_plain hfp]
      cases hq' : r'.query with
      | none =>
          rw [hq'] at hfp'
          rw [scope_plain hfp']
          simp
      | some q' =>
          rw [hq'] at hfp'
          rw [scope_scoped hfp']
          simp
  | some q =>
      rw [hq] at hfp
      rw [scope_scoped hfp]
      cases hq' : r'.query with
      | none =>
          rw [hq'] at hfp'
          rw [scope_plain hfp']
          simp [eq_comm]
      | some q' =>
          -- both have a fingerprint, so the names end where the last 33 characters begin
          rw [hq'] at hfp'
          rw [scope_scoped hfp']
          constructor
          · intro hscope
            obtain ⟨hmap, hdigits⟩ := append_fingerprint_inj hscope
            exact Or.inl ⟨hmap, congrArg some (hdigest q q' hq hq' hdigits)⟩
          · rintro (⟨hmap, hsame⟩ | ⟨_, _, hnone, _⟩ | ⟨_, _, hnone, _⟩)
            · rw [hmap, Option.some.inj hsame]
            · exact absurd hnone (by simp)
            · exact absurd hnone (by simp)

/-- The tile of a run. -/
def scopedTile : Request := ⟨"/osm/3/4/2", some "task_id=abc"⟩

/-- The same tile of a map whose name ends in the fingerprint of that run's query. -/
def plainTile : Request := ⟨"/osm_7c543226e5b68d21edd852bf6649b43f/3/4/2", none⟩

theorem scopedTile_fingerprint :
    fingerprint "task_id=abc" = "7c543226e5b68d21edd852bf6649b43f" := by decide +kernel

theorem scopedTile_key : scopedTile.cacheKey =
    .ok ⟨"osm", 3, 4, 2, some "7c543226e5b68d21edd852bf6649b43f"⟩ := by
  rw [← scopedTile_fingerprint]
  rfl

theorem plainTile_key : plainTile.cacheKey =
    .ok ⟨"osm_7c543226e5b68d21edd852bf6649b43f", 3, 4, 2, none⟩ := rfl

theorem same_entry_of_mimicry : ∃ k k', scopedTile.cacheKey = .ok k ∧ plainTile.cacheKey = .ok k' ∧
    k.text = k'.text := by
  refine ⟨_, _, scopedTile_key, plainTile_key, ?_⟩
  refine (same_entry_iff (by decide) (by decide) scopedTile_key plainTile_key
    (by simp [plainTile])).mpr ⟨rfl, Or.inr (Or.inl ⟨_, rfl, rfl, ?_⟩)⟩
  rw [scopedTile_fingerprint]
  rfl

/-- **Different tiles can share an entry**: one of a run, and a plain one of another map. -/
theorem plain_tile_takes_scoped_entry : ∃ k k', scopedTile.cacheKey = .ok k ∧
    plainTile.cacheKey = .ok k' ∧ k.text = k'.text ∧ k.map ≠ k'.map ∧
    scopedTile.query ≠ plainTile.query :=
  ⟨_, _, scopedTile_key, plainTile_key, rfl, by decide, by decide⟩

end TileDepot.Tile
