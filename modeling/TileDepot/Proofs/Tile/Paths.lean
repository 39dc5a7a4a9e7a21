import TileDepot.Proofs.Tile.Naming

/-!
# Paths of tiles

What is written for a tile is read back: the path of a request for it, if the map's name is one that
a path can have (`key_ofTile`), and the text of any key that was read from a path (`ofPath_text`).
Both are four segments, and the last three of them are the numerals of the tile.
-/

namespace TileDepot.Tile

/-! ## Numerals of tiles -/

theorem dot_not_mem_repr (n : Int) : '.' ∉ n.repr.toList := by
  intro h
  rcases Text.isDigit_of_mem_repr h with hdigit | hsign
  · exact absurd hdigit (by decide)
  · exact absurd hsign (by decide)

theorem numeral_ne_nil {n : Int} : n.repr.toList ≠ [] := by
  intro hnil
  have hread := Text.integer?_repr n
  rw [hnil] at hread
  cases hread

theorem zoom_numeral (n : UInt32) : Text.Unsigned n.toNat (toString n).toList :=
  Text.uint32?_eq_some_iff.mp (Text.uint32?_toString n)

theorem index_numeral (n : Int64) : Text.Signed n.toInt (toString n).toList :=
  Text.int64?_eq_some_iff.mp (Text.int64?_toString n)

theorem stem_append {cs : List Char} (h : '.' ∉ cs) (rest : List Char) :
    stem (cs ++ rest) = cs ++ stem rest := by
  refine List.takeWhile_append_of_pos fun c hc => ?_
  rw [bne_iff_ne]
  exact fun heq => h (heq ▸ hc)

/-- The last part is cut at its first dot. -/
theorem stem_dotted {cs : List Char} (h : '.' ∉ cs) (extension : List Char) :
    stem (cs ++ '.' :: extension) = cs := by
  rw [stem_append h, stem, List.takeWhile_cons_of_neg (by simp), List.append_nil]

theorem stem_bare {cs : List Char} (h : '.' ∉ cs) : stem cs = cs := by
  have hstem := stem_append h []
  have hempty : stem [] = [] := rfl
  rwa [hempty, List.append_nil] at hstem

/-! ## Four segments -/

/-- Parts without slashes are the segments of what they make with slashes between them, whether there
are slashes in front or not. -/
theorem segments_joined (front : List Char) {map zoom x y : List Char}
    (hfront : ∀ c ∈ front, c = '/') (hmap : '/' ∉ map) (hzoom : '/' ∉ zoom) (hx : '/' ∉ x)
    (hy : '/' ∉ y) (hfirst : map ≠ []) (hlast : y ≠ []) :
    Segments (front ++ (map ++ '/' :: (zoom ++ '/' :: (x ++ '/' :: y)))) [map, zoom, x, y] := by
  have hjoin : ['/'].intercalate [map, zoom, x, y]
      = map ++ '/' :: (zoom ++ '/' :: (x ++ '/' :: y)) := by simp
  refine ⟨by simp, by simp [hmap, hzoom, hx, hy], ⟨front, [], by rw [hjoin]; simp, hfront, by simp⟩,
    ?_, ?_⟩
  · rw [hjoin]
    intro hhead
    cases map with
    | nil => exact hfirst rfl
    | cons c map => exact hmap (Option.some.inj hhead ▸ List.mem_cons_self)
  · rw [hjoin]
    intro hend
    refine hy (List.mem_of_getLast? (a := '/') ?_)
    rw [← hend]
    simp [List.getLast?_append, List.getLast?_cons, List.getLast?_eq_some_getLast hlast]

/-- The characters of a tile's path. -/
theorem path_ofTile (map extension : String) (t : Grid.TileId) :
    (Request.ofTile map t extension).path.toList = '/' :: (map.toList ++ '/' ::
      ((toString t.zoom).toList ++ '/' :: ((toString t.x).toList ++ '/' ::
        ((toString t.y).toList ++ '.' :: extension.toList)))) := by
  have htext : ("/" ++ map ++ "/" ++ t.text ++ "." ++ extension).toList = '/' :: (map.toList ++
      '/' :: ((toString t.zoom).toList ++ '/' :: ((toString t.x).toList ++ '/' ::
        ((toString t.y).toList ++ '.' :: extension.toList)))) := by
    simp [String.toList_append, tile_chars]
  unfold Request.ofTile Request.ofPath
  dsimp only
  rw [htext, if_pos (by rfl)]
  exact htext

/-- **Reading a tile's path undoes writing it**, whatever the extension. -/
theorem key_ofTile {map extension : String} (t : Grid.TileId) (hmap : map ≠ "")
    (hslash : '/' ∉ map.toList) (hext : '/' ∉ extension.toList) :
    (Request.ofTile map t extension).key = .ok (Key.ofTile map t) := by
  have hzoom : '/' ∉ (toString t.zoom).toList := slash_not_mem_repr t.zoom.toNat
  have hx : '/' ∉ (toString t.x).toList := slash_not_mem_repr t.x.toInt
  have hy : '/' ∉ (toString t.y).toList := slash_not_mem_repr t.y.toInt
  have hdot : '.' ∉ (toString t.y).toList := dot_not_mem_repr t.y.toInt
  have hfile : '/' ∉ (toString t.y).toList ++ '.' :: extension.toList := by
    simp [hy, hext]
  have hfirst : map.toList ≠ [] := fun hnil => hmap (String.toList_eq_nil_iff.mp hnil)
  refine ofPath_ok_iff.mpr ⟨_, _, (toString t.y).toList ++ '.' :: extension.toList, ?_,
    zoom_numeral t.zoom, index_numeral t.x, ?_, rfl⟩
  · rw [path_ofTile]
    exact segments_joined ['/'] (by simp) hslash hzoom hx hfile hfirst (by simp)
  · rw [stem_dotted hdot]
    exact index_numeral t.y

/-- **What was read from a path is read back from the key's text.** -/
theorem ofPath_text {path : String} {k : Key} (h : Key.ofPath path = .ok k) :
    Key.ofPath k.text = .ok k := by
  obtain ⟨hmap, hslash, hplain⟩ := ofPath_ok h
  have hzoom : '/' ∉ (toString k.zoom).toList := slash_not_mem_repr k.zoom.toNat
  have hx : '/' ∉ (toString k.x).toList := slash_not_mem_repr k.x.toInt
  have hy : '/' ∉ (toString k.y).toList := slash_not_mem_repr k.y.toInt
  have hdot : '.' ∉ (toString k.y).toList := dot_not_mem_repr k.y.toInt
  have hfirst : k.map.toList ≠ [] := fun hnil => hmap (String.toList_eq_nil_iff.mp hnil)
  have hlast : (toString k.y).toList ≠ [] := numeral_ne_nil (n := k.y.toInt)
  have htext : k.text.toList = k.map.toList ++ '/' :: k.tile.text.toList := by
    unfold Key.text
    rw [scope_plain hplain]
    simp [String.toList_append]
  refine ofPath_ok_iff.mpr ⟨_, _, (toString k.y).toList, ?_, zoom_numeral k.zoom,
    index_numeral k.x, ?_, hplain⟩
  · rw [htext, tile_chars]
    exact segments_joined [] (by simp) hslash hzoom hx hy hfirst hlast
  · rw [stem_bare hdot]
    exact index_numeral k.y

/--
**Writing and reading tile paths agree, and reading accepts its grammar and no more.**

The path of a request for a tile is read as the key of that tile, if the map's name is not empty and
neither it nor the extension has a slash; and what was read from any path is read again from its
text. A path is read as a key just when its segments are four: the map, the numeral of the zoom, that
of the column, and that of the row up to the first dot, where the numbers of the key are those of the
numerals. All other paths have a fault, which is the wrong number of segments or else the first of
zoom, column and row that is no numeral.
-/
theorem tile_paths_agree :
    (∀ (map extension : String) (t : Grid.TileId), map ≠ "" → '/' ∉ map.toList →
      '/' ∉ extension.toList →
      Key.ofPath (Request.ofTile map t extension).path = .ok ⟨map, t.zoom, t.x, t.y, none⟩) ∧
    (∀ path k, Key.ofPath path = .ok k → Key.ofPath k.text = .ok k) ∧
    (∀ path k, Key.ofPath path = .ok k ↔ ∃ zoom x y,
      Segments path.toList [k.map.toList, zoom, x, y] ∧ Text.Unsigned k.zoom.toNat zoom ∧
      Text.Signed k.x.toInt x ∧ Text.Signed k.y.toInt (stem y) ∧ k.fingerprint = none) ∧
    ∀ path e, Key.ofPath path = .error e ↔ ∃ ss, Segments path.toList ss ∧ Fault path ss e :=
  ⟨fun _ _ t hmap hslash hext => key_ofTile t hmap hslash hext, fun _ _ h => ofPath_text h,
    fun _ _ => ofPath_ok_iff, fun _ _ => ofPath_error_iff⟩

/-- Numerals with signs are read, and so is a file name with two dots. -/
theorem odd_paths_agree :
    Key.ofPath (Request.ofTile "maps.osm" ⟨3, 4, -2⟩ "tar.gz").path
        = .ok ⟨"maps.osm", 3, 4, -2, none⟩ ∧
      Key.ofPath "//osm/+3/-4/2.tar.gz/" = .ok ⟨"osm", 3, -4, 2, none⟩ ∧
      Key.ofPath "/osm/3/4" = .error (.invalidPath "/osm/3/4") := by
  obtain ⟨hwritten, _, hread, hfault⟩ := tile_paths_agree
  refine ⟨hwritten "maps.osm" "tar.gz" ⟨3, 4, -2⟩ (by decide) (by decide) (by decide), ?_, ?_⟩
  · refine (hread _ _).mpr ⟨['+', '3'], ['-', '4'], "2.tar.gz".toList, ?_, ?_, ?_, ?_, rfl⟩
    · exact ⟨by simp, by decide, ⟨['/', '/'], ['/'], by decide, by simp, by simp⟩, by decide,
        by decide⟩
    · exact .plus ⟨by simp, by simp, by decide⟩
    · exact .minus (n := 4) ⟨by simp, by simp, by decide⟩
    · exact .bare (n := 2) ⟨by decide, by simp [stem], by decide⟩
  · refine (hfault _ _).mpr ⟨["osm".toList, ['3'], ['4']], ?_, .count (by decide)⟩
    exact ⟨by simp, by decide, ⟨['/'], [], by decide, by simp, by simp⟩, by decide, by decide⟩

end TileDepot.Tile
