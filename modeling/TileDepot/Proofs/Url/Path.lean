import Mathlib.Data.List.Basic
import TileDepot.Proofs.Tile.Grammar
import TileDepot.Proofs.Url.Reading

/-!
# Paths that stay

A path is cut at its slashes, its dot segments are resolved, and its segments are encoded. A path
whose segments mean nothing of that kind (`PlainSegment`) comes back when it is decoded
(`pathText_plain`). Any other comes back as a text that is shorter (`pathText_length`): resolving
drops a segment with its slash, and decoding makes one character of three. What begins with a slash
behind the scheme is such a path, up to its query (`hostUrl_path`).
-/

namespace TileDepot

namespace Bytes

/-- Slashes are bytes of their own. -/
theorem ofText_slashed (segs : List (List Char)) :
    ofText (String.ofList (segs.flatMap ('/' :: ·)))
      = segs.flatMap fun s => 0x2F :: ofText (String.ofList s) := by
  rw [ofText_ofList, List.flatMap_assoc]
  refine congrArg (List.flatMap · segs) (funext fun s => ?_)
  rw [List.flatMap_cons, ofText_ofList]
  rfl

end Bytes

namespace Url

/-- A segment that is not resolved and not decoded. -/
structure PlainSegment (segment : List Char) : Prop where
  decoded : percentDecode (Bytes.ofText (String.ofList segment))
    = Bytes.ofText (String.ofList segment)
  notDot : segment ≠ ['.']
  notDots : segment ≠ ['.', '.']

instance (segment : List Char) : Decidable (PlainSegment segment) :=
  decidable_of_iff
    (percentDecode (Bytes.ofText (String.ofList segment)) = Bytes.ofText (String.ofList segment) ∧
      segment ≠ ['.'] ∧ segment ≠ ['.', '.'])
    ⟨fun ⟨hdecoded, hdot, hdots⟩ => ⟨hdecoded, hdot, hdots⟩,
      fun h => ⟨h.decoded, h.notDot, h.notDots⟩⟩

/-! ## Dots -/

/-- What the characters of dot segments may have been in upper case. -/
theorem of_toLower (c : Char) :
    (c.toLower = '.' → c = '.') ∧ (c.toLower = '%' → c = '%') ∧ (c.toLower = '2' → c = '2') ∧
      (c.toLower = 'e' → c = 'e' ∨ c = 'E') := by
  have hall : ∀ n < 0x80, ((Char.ofNat n).toLower = '.' → Char.ofNat n = '.') ∧
      ((Char.ofNat n).toLower = '%' → Char.ofNat n = '%') ∧
      ((Char.ofNat n).toLower = '2' → Char.ofNat n = '2') ∧
      ((Char.ofNat n).toLower = 'e' → Char.ofNat n = 'e' ∨ Char.ofNat n = 'E') := by
    decide +kernel
  by_cases hascii : c.toNat < 0x80
  · rw [← Char.ofNat_toNat c]
    exact hall c.toNat hascii
  · have hsame : c.toLower = c := by
      unfold Char.toLower
      refine dif_neg fun hupper => hascii ?_
      exact Nat.lt_of_le_of_lt hupper.2 (by decide)
    rw [hsame]
    exact ⟨id, id, id, Or.inl⟩

/-- A dot in lower case, as itself and encoded. -/
def lowerDots : List (List Char) :=
  [".".toList, "%2e".toList]

theorem of_mem_lowerDots {cs : List Char} (h : cs.map Char.toLower ∈ lowerDots) :
    cs ∈ "%2E".toList :: lowerDots := by
  unfold lowerDots at *
  rcases List.mem_cons.mp h with h | h
  · obtain ⟨a, as, rfl, ha, has⟩ := List.map_eq_cons_iff.mp h
    rw [List.map_eq_nil_iff.mp has, (of_toLower a).1 ha]
    decide
  · obtain ⟨a, as, rfl, ha, has⟩ := List.map_eq_cons_iff.mp (List.mem_singleton.mp h)
    obtain ⟨b, bs, rfl, hb, hbs⟩ := List.map_eq_cons_iff.mp has
    obtain ⟨c, cs, rfl, hc, hcs⟩ := List.map_eq_cons_iff.mp hbs
    rw [(of_toLower a).2.1 ha, (of_toLower b).2.2.1 hb, List.map_eq_nil_iff.mp hcs]
    rcases (of_toLower c).2.2.2 hc with rfl | rfl <;> decide

theorem isSingleDot_decoded {segment : String} (h : isSingleDot segment = true) :
    percentDecode (Bytes.ofText segment) = [0x2E] := by
  have hform : segment.toList.map Char.toLower ∈ lowerDots := by
    unfold isSingleDot at h
    rw [← String.toList_map]
    exact List.mem_map_of_mem (List.contains_iff_mem.mp h)
  have hall : ∀ cs ∈ "%2E".toList :: lowerDots,
      percentDecode (cs.flatMap String.utf8EncodeChar) = [0x2E] := by
    decide +kernel
  rw [← String.ofList_toList (s := segment), Bytes.ofText_ofList]
  exact hall _ (of_mem_lowerDots hform)

theorem isDoubleDot_decoded {segment : String} (h : isDoubleDot segment = true) :
    percentDecode (Bytes.ofText segment) = [0x2E, 0x2E] := by
  have hform : ∃ front ∈ lowerDots, ∃ back ∈ lowerDots,
      segment.toList.map Char.toLower = front ++ back := by
    have hpairs : ∀ form ∈ ["..", "%2e.", ".%2e", "%2e%2e"],
        ∃ front ∈ lowerDots, ∃ back ∈ lowerDots, form.toList = front ++ back := by
      decide
    unfold isDoubleDot at h
    rw [← String.toList_map]
    exact hpairs _ (List.contains_iff_mem.mp h)
  have hall : ∀ front ∈ "%2E".toList :: lowerDots, ∀ back ∈ "%2E".toList :: lowerDots,
      percentDecode ((front ++ back).flatMap String.utf8EncodeChar) = [0x2E, 0x2E] := by
    decide +kernel
  obtain ⟨front, hfront, back, hback, hsplit⟩ := hform
  obtain ⟨cs, ds, hcs, rfl, rfl⟩ := List.map_eq_append_iff.mp hsplit
  rw [← String.ofList_toList (s := segment), hcs, Bytes.ofText_ofList]
  exact hall _ (of_mem_lowerDots hfront) _ (of_mem_lowerDots hback)

theorem percentDecode_encodeText (segment : List Char) :
    percentDecode (Bytes.ofText (encodeText pathSet (String.ofList segment)))
      = percentDecode (Bytes.ofText (String.ofList segment)) := by
  unfold encodeText
  have h := @percentDecode_encoded _ pathSet_reversible (Bytes.ofText (String.ofList segment)) []
    (by simp)
  rw [List.append_nil, percentDecode, List.append_nil] at h
  rw [ofText_percentEncode pathSet_high, h]

/-- A plain segment has no form that is resolved. -/
theorem PlainSegment.stays {segment : List Char} (h : PlainSegment segment) :
    isSingleDot (encodeText pathSet (String.ofList segment)) = false ∧
      isDoubleDot (encodeText pathSet (String.ofList segment)) = false := by
  have hdecoded := percentDecode_encodeText segment
  rw [h.decoded] at hdecoded
  have hne : ∀ cs : List Char, segment ≠ cs →
      percentDecode (Bytes.ofText (encodeText pathSet (String.ofList segment)))
        ≠ Bytes.ofText (String.ofList cs) := by
    intro cs hcs heq
    rw [hdecoded] at heq
    exact hcs (String.ofList_injective (Bytes.ofText_inj heq))
  constructor
  · refine Bool.eq_false_iff.mpr fun hdot => hne _ h.notDot ?_
    rw [isSingleDot_decoded hdot, Bytes.ofText_ofList]
    rfl
  · refine Bool.eq_false_iff.mpr fun hdots => hne _ h.notDots ?_
    rw [isDoubleDot_decoded hdots, Bytes.ofText_ofList]
    rfl

theorem resolveDots_stays {done segs : List String}
    (h : ∀ s ∈ segs, isSingleDot s = false ∧ isDoubleDot s = false) :
    resolveDots done segs = done.reverse ++ segs := by
  induction segs generalizing done with
  | nil => rw [resolveDots, List.append_nil]
  | cons s segs ih =>
      obtain ⟨⟨hdot, hdots⟩, hrest⟩ := List.forall_mem_cons.mp h
      rw [resolveDots, if_neg (by simp [hdots]), if_neg (by simp [hdot]), ih hrest]
      simp

/-! ## Segments -/

/-- There is one slash that cuts, as in the paths of tiles. -/
theorem segments_tile (cs : List Char) : segments false cs = Tile.segments cs := by
  induction cs with
  | nil => rfl
  | cons c cs ih =>
      rw [segments, Tile.segments, ih]
      cases Tile.segments cs <;> simp [isSlash]

/-- Separators between texts, and one before the first. -/
theorem cons_intercalate {α : Type} (x : α) {ls : List (List α)} (h : ls ≠ []) :
    x :: [x].intercalate ls = ls.flatMap (x :: ·) := by
  induction ls with
  | nil => exact absurd rfl h
  | cons l ls ih =>
      cases ls with
      | nil => simp
      | cons l' ls =>
          rw [List.intercalate_cons_cons, List.flatMap_cons, ← ih (by simp)]
          simp

theorem segments_joined_slashes (cs : List Char) :
    (segments false cs).flatMap ('/' :: ·) = '/' :: cs := by
  rw [segments_tile, Tile.segments_eq, ← cons_intercalate '/' (List.splitOn_ne_nil _ _),
    List.intercalate_splitOn]

theorem segments_ne_nil (cs : List Char) : segments false cs ≠ [] := by
  rw [segments_tile, Tile.segments_eq]
  exact List.splitOn_ne_nil _ _

/-! ## Paths -/

/-- The segments of a path in their encoded form, less those that are resolved. -/
def resolved (cs : List Char) : List String :=
  resolveDots [] ((segments false cs).map fun s => encodeText pathSet (String.ofList s))

/-- What is resolved at the end leaves an empty segment. -/
theorem resolveDots_ne_nil {done segs : List String} (h : segs ≠ []) :
    resolveDots done segs ≠ [] := by
  induction segs generalizing done with
  | nil => exact absurd rfl h
  | cons s segs ih =>
      rw [resolveDots]
      cases segs with
      | nil =>
          dsimp only [List.isEmpty_nil]
          split
          · simp [resolveDots]
          · split <;> simp [resolveDots]
      | cons next segs =>
          dsimp only
          split
          · exact ih (by simp)
          · split <;> exact ih (by simp)

theorem ofText_pathText (cs : List Char) :
    Bytes.ofText (pathText false cs) = (resolved cs).flatMap fun t => 0x2F :: Bytes.ofText t := by
  have hne : (resolved cs).map String.toList ≠ [] := by
    unfold resolved
    simpa using resolveDots_ne_nil (by simpa using segments_ne_nil cs)
  have htext : pathText false cs
      = String.ofList (((resolved cs).map String.toList).flatMap ('/' :: ·)) := by
    unfold pathText
    rw [← cons_intercalate '/' hne]
    refine String.toList_inj.mp ?_
    rw [String.toList_ofList, String.toList_append, String.toList_intercalate]
    rfl
  rw [htext, Bytes.ofText_slashed, List.flatMap_map]
  simp only [String.ofList_toList]

/-- Slashes are no digits, so texts between them are decoded one by one. -/
theorem percentDecode_slashed (ts : List String) :
    percentDecode (ts.flatMap fun t => 0x2F :: Bytes.ofText t)
      = ts.flatMap fun t => 0x2F :: percentDecode (Bytes.ofText t) := by
  induction ts with
  | nil => rfl
  | cons t ts ih =>
      have hnext : ∀ b ∈ (ts.flatMap fun t => 0x2F :: Bytes.ofText t).head?,
          digitValue? b = none := by
        intro b hb
        cases ts with
        | nil => cases hb
        | cons =>
            cases hb
            decide
      rw [List.flatMap_cons, List.flatMap_cons, List.cons_append, List.cons_append,
        percentDecode_cons (by decide), percentDecode_append _ hnext, ih]

theorem percentDecode_pathText (cs : List Char) :
    percentDecode (Bytes.ofText (pathText false cs))
      = (resolved cs).flatMap fun t => 0x2F :: percentDecode (Bytes.ofText t) := by
  rw [ofText_pathText, percentDecode_slashed]

/-- **A path of plain segments is read as it is written.** -/
theorem pathText_plain {cs : List Char} (h : ∀ s ∈ segments false cs, PlainSegment s) :
    percentDecode (Bytes.ofText (pathText false cs))
      = Bytes.ofText (String.ofList ('/' :: cs)) := by
  have hresolved : resolved cs
      = (segments false cs).map fun s => encodeText pathSet (String.ofList s) := by
    refine resolveDots_stays fun t ht => ?_
    obtain ⟨s, hs, rfl⟩ := List.mem_map.mp ht
    exact (h s hs).stays
  rw [percentDecode_pathText, hresolved, List.flatMap_map, ← segments_joined_slashes,
    Bytes.ofText_slashed]
  refine List.flatMap_congr fun s hs => ?_
  rw [percentDecode_encodeText, (h s hs).decoded]

/-! ## What is lost -/

/-- The characters that a segment stands for. -/
def charsOf (t : String) : Nat :=
  (Bytes.scan none (percentDecode (Bytes.ofText t))).length

/-- The characters that segments stand for, with a slash before each. -/
def weight : List String → Nat
  | [] => 0
  | t :: ts => charsOf t + 1 + weight ts

theorem length_slashed (ts : List String) :
    (Bytes.scan none (ts.flatMap fun t => 0x2F :: percentDecode (Bytes.ofText t))).length
      ≤ weight ts := by
  induction ts with
  | nil => exact Nat.le_refl 0
  | cons t ts ih =>
      rw [List.flatMap_cons, weight]
      have hparts := @Bytes.length_scan_append none (by simp)
        (0x2F :: percentDecode (Bytes.ofText t))
        (ts.flatMap fun t => 0x2F :: percentDecode (Bytes.ofText t))
      have hone := Bytes.length_scan_cons 0x2F (percentDecode (Bytes.ofText t))
      unfold charsOf
      omega

theorem weight_append (ts us : List String) : weight (ts ++ us) = weight ts + weight us := by
  induction ts with
  | nil => exact (Nat.zero_add _).symm
  | cons t ts ih =>
      rw [List.cons_append, weight, weight, ih]
      omega

theorem weight_reverse (ts : List String) : weight ts.reverse = weight ts := by
  induction ts with
  | nil => rfl
  | cons t ts ih =>
      rw [List.reverse_cons, weight_append, ih, weight, weight, weight]
      omega

/-- **Resolving loses characters**, if there is anything to resolve. -/
theorem weight_resolveDots (done segs : List String) :
    weight (resolveDots done segs) ≤ weight done + weight segs ∧
      (weight (resolveDots done segs) = weight done + weight segs →
        ∀ s ∈ segs, isSingleDot s = false ∧ isDoubleDot s = false) := by
  induction segs generalizing done with
  | nil =>
      rw [resolveDots, weight_reverse]
      exact ⟨Nat.le_refl _, fun _ => by simp⟩
  | cons s segs ih =>
      have hempty : charsOf "" = 0 := by
        unfold charsOf
        rw [Bytes.ofText_eq]
        rfl
      have hlast : ∀ ts, weight (if segs.isEmpty = true then "" :: ts else ts) ≤ weight ts + 1 := by
        intro ts
        split
        · rw [weight, hempty]
          omega
        · exact Nat.le_succ _
      rw [resolveDots, weight]
      by_cases hdots : isDoubleDot s = true
      · -- two characters and a slash go, and nothing but a slash may come for them
        have hs : charsOf s = 2 := by
          unfold charsOf
          rw [isDoubleDot_decoded hdots]
          rfl
        rw [if_pos hdots]
        dsimp only
        have habove : weight (if (done.head?.any beginsWithDrive) = true then done else done.drop 1)
            ≤ weight done := by
          split
          · exact Nat.le_refl _
          · cases done with
            | nil => exact Nat.le_refl _
            | cons t ts => exact Nat.le_add_left _ _
        generalize (if (done.head?.any beginsWithDrive) = true then done else done.drop 1)
          = above at habove ⊢
        have hstart := hlast above
        have hrest := (ih (if segs.isEmpty = true then "" :: above else above)).1
        exact ⟨by omega, fun heq => by omega⟩
      by_cases hdot : isSingleDot s = true
      · have hs : charsOf s = 1 := by
          unfold charsOf
          rw [isSingleDot_decoded hdot]
          rfl
        have hstart := hlast done
        have hrest := (ih (if segs.isEmpty = true then "" :: done else done)).1
        rw [if_neg hdots, if_pos hdot]
        exact ⟨by omega, fun heq => by omega⟩
      · rw [if_neg hdots, if_neg hdot]
        obtain ⟨hle, hsame⟩ := ih (s :: done)
        rw [weight] at hle hsame
        refine ⟨by omega, fun heq => ?_⟩
        have hrest := hsame (by omega)
        exact List.forall_mem_cons.mpr ⟨⟨by simpa using hdot, by simpa using hdots⟩, hrest⟩

/-- A segment that is neither resolved nor decoded is plain. -/
theorem plainSegment_of_stays {segment : List Char}
    (hdecoded : percentDecode (Bytes.ofText (String.ofList segment))
      = Bytes.ofText (String.ofList segment))
    (hstays : isSingleDot (encodeText pathSet (String.ofList segment)) = false ∧
      isDoubleDot (encodeText pathSet (String.ofList segment)) = false) : PlainSegment segment where
  decoded := hdecoded
  notDot heq := absurd hstays.1 (by rw [heq]; decide +kernel)
  notDots heq := absurd hstays.2 (by rw [heq]; decide +kernel)

/-- **No path is read as a longer one**, and one that is read as a text of the same length has
plain segments only. -/
theorem pathText_length (cs : List Char) :
    (Bytes.scan none (percentDecode (Bytes.ofText (pathText false cs)))).length ≤ cs.length + 1 ∧
      ((Bytes.scan none (percentDecode (Bytes.ofText (pathText false cs)))).length = cs.length + 1 →
        ∀ s ∈ segments false cs, PlainSegment s) := by
  have hsegments : ∀ segs : List (List Char),
      weight (segs.map fun s => encodeText pathSet (String.ofList s))
        ≤ (segs.flatMap ('/' :: ·)).length ∧
      (weight (segs.map fun s => encodeText pathSet (String.ofList s))
        = (segs.flatMap ('/' :: ·)).length →
        ∀ s ∈ segs, percentDecode (Bytes.ofText (String.ofList s))
          = Bytes.ofText (String.ofList s)) := by
    intro segs
    induction segs with
    | nil => exact ⟨Nat.le_refl 0, fun _ => by simp⟩
    | cons s segs ih =>
        obtain ⟨hle, hsame⟩ := ih
        obtain ⟨hle', hsame'⟩ := decodedLength_le s
        have hchars : charsOf (encodeText pathSet (String.ofList s)) = decodedLength s := by
          unfold charsOf decodedLength
          rw [percentDecode_encodeText]
        rw [List.map_cons, weight, hchars, List.flatMap_cons, List.length_append, List.length_cons]
        refine ⟨by omega, fun heq => ?_⟩
        exact List.forall_mem_cons.mpr ⟨hsame' (by omega), hsame (by omega)⟩
  obtain ⟨hle, hdecoded⟩ := hsegments (segments false cs)
  obtain ⟨hle', hstays⟩ := weight_resolveDots [] ((segments false cs).map fun s =>
    encodeText pathSet (String.ofList s))
  have hlength := length_slashed (resolved cs)
  rw [segments_joined_slashes, List.length_cons] at hle hdecoded
  rw [weight, Nat.zero_add] at hle' hstays
  rw [percentDecode_pathText]
  unfold resolved at hlength ⊢
  refine ⟨by omega, fun heq s hs => ?_⟩
  exact plainSegment_of_stays (hdecoded (by omega) s hs)
    (hstays (by omega) _ (List.mem_map_of_mem hs))

theorem resolveDots_last (done segs : List String) :
    ∃ front, resolveDots done (segs ++ [""]) = front ++ [""] := by
  induction segs generalizing done with
  | nil =>
      refine ⟨done.reverse, ?_⟩
      rw [List.nil_append, resolveDots, if_neg (by decide +kernel), if_neg (by decide +kernel),
        resolveDots, List.reverse_cons]
  | cons s segs ih =>
      rw [List.cons_append, resolveDots]
      split
      · exact ih _
      split
      · exact ih _
      · exact ih _

/-- A path that ends in a slash is read as one that does. -/
theorem pathText_slash {cs : List Char} (h : ('/' :: cs).getLast? = some '/') :
    ∃ front, percentDecode (Bytes.ofText (pathText false cs)) = front ++ [0x2F] := by
  obtain ⟨init, last, hsegs⟩ : ∃ init last, segments false cs = init ++ [last] :=
    (List.eq_nil_or_concat' _).resolve_left (segments_ne_nil cs)
  have hempty : last = [] := by
    rcases List.eq_nil_or_concat' last with hnil | ⟨before, c, rfl⟩
    · exact hnil
    · have hlast : ('/' :: cs).getLast? = some c := by
        rw [← segments_joined_slashes, hsegs, List.flatMap_append, List.flatMap_singleton,
          ← List.cons_append, ← List.append_assoc, List.getLast?_concat]
      have hslash : '/' ∈ before ++ [c] := by
        rw [Option.some.inj (hlast.symm.trans h)]
        exact List.mem_append_right _ (List.mem_singleton.mpr rfl)
      have hmem : before ++ [c] ∈ Tile.segments cs := by
        rw [← segments_tile, hsegs]
        exact List.mem_append_right _ (List.mem_singleton.mpr rfl)
      exact absurd hslash (Tile.slash_not_mem_segments hmem)
  obtain ⟨front, hfront⟩ := resolveDots_last []
    (init.map fun s => encodeText pathSet (String.ofList s))
  have hresolved : resolved cs = front ++ [""] := by
    unfold resolved
    rw [hsegs, List.map_append, List.map_singleton, hempty, encodeText_nil, hfront]
  refine ⟨front.flatMap fun t => 0x2F :: percentDecode (Bytes.ofText t), ?_⟩
  rw [percentDecode_pathText, hresolved, List.flatMap_append, List.flatMap_singleton, Bytes.ofText_eq]
  rfl

/-! ## URLs that are paths -/

/-- What is read as the path, before the query and the fragment. -/
def pathPart (cs : List Char) : List Char :=
  cs.takeWhile fun c => c != '#' && c != '?'

/-- The path goes to the end, or to one of two characters. -/
theorem pathPart_split (cs : List Char) :
    (∃ tail, cs = pathPart cs ++ tail ∧ ∀ c ∈ tail.head?, c = '#' ∨ c = '?') ∧
      ∀ c ∈ pathPart cs, c ≠ '#' ∧ c ≠ '?' := by
  unfold pathPart
  constructor
  · refine ⟨_, List.takeWhile_append_dropWhile.symm, fun c hc => ?_⟩
    have hhead := List.head?_dropWhile_not (fun c : Char => c != '#' && c != '?') cs
    rw [Option.mem_def.mp hc] at hhead
    by_contra hnone
    rw [not_or] at hnone
    simp [hnone.1, hnone.2] at hhead
  · intro c hc
    simpa using List.all_eq_true.mp List.all_takeWhile c hc

theorem splitTail_slash (cs : List Char) : ∃ query fragment,
    splitTail ('/' :: cs) = ('/' :: pathPart cs, query, fragment) ∧
      (pathPart cs = cs → query = none) := by
  have hpath : (('/' :: cs).takeWhile fun c => !(c == '#')).takeWhile (fun c => !(c == '?'))
      = '/' :: pathPart cs := by
    unfold pathPart
    rw [List.takeWhile_takeWhile, List.takeWhile_cons_of_pos (by decide)]
    refine congrArg ('/' :: ·) (congrArg (List.takeWhile · cs) (funext fun c => ?_))
    rw [Bool.eq_iff_iff]
    simp [and_comm]
  unfold splitTail spanTo
  dsimp only
  rw [hpath]
  refine ⟨_, _, rfl, fun hall => ?_⟩
  have hfree : ∀ c ∈ ('/' :: cs).takeWhile (fun c => !(c == '#')), (!(c == '?')) = true := by
    intro c hc
    rcases List.mem_cons.mp (List.takeWhile_subset _ hc) with rfl | hc
    · decide
    · simpa using ((pathPart_split cs).2 c (by rw [hall]; exact hc)).2
  rw [List.dropWhile_eq_nil_iff.mpr hfree]

/-- No host, and no error. -/
theorem authority_nil : authority "redis+unix" [] false = .ok (⟨"", none, none, none⟩, []) := by
  have hhost : opaqueHost [] = .ok (.domain "") :=
    congrArg (fun name => Except.ok (Host.domain name)) (encodeText_nil controlSet)
  have hnone : splitUser? [] = none := rfl
  have hempty : spanHost false [] = ([], []) := rfl
  have hport : port? none [] = .ok (none, []) := rfl
  have hscheme : isAddressScheme "redis+unix" := Or.inr (Or.inr rfl)
  obtain ⟨hspecial, hnoport⟩ := isSpecial_address hscheme
  unfold authority
  simpa [hspecial, hnoport, hnone, hempty, hhost, hport, bind, Except.bind, pure, Except.pure]
    using encodeText_nil userInfoSet

/-- **What begins with a slash has no host**: it is a path, perhaps with a query and a fragment. -/
theorem hostUrl_path (cs : List Char) : ∃ query fragment,
    hostUrl "redis+unix" ('/' :: cs) = .ok ⟨"redis+unix", true, "", none, none, none,
      pathText false (pathPart cs), false, query, fragment⟩ ∧
    (pathPart cs = cs → query = none) := by
  obtain ⟨query, fragment, htail, hquery⟩ := splitTail_slash cs
  have hspan : spanTo (fun c => isSlash (isSpecial "redis+unix") c || c == '?' || c == '#')
      ('/' :: cs) = ([], '/' :: cs) := rfl
  refine ⟨query.map fun q => encodeText querySet (String.ofList q),
    fragment.map fun f => encodeText fragmentSet (String.ofList f), ?_,
    fun hall => by rw [hquery hall]; rfl⟩
  unfold hostUrl
  rw [hspan]
  dsimp only [List.isEmpty_cons, bind, Except.bind]
  rw [authority_nil]
  dsimp only
  rw [List.nil_append]
  unfold withTail
  rw [htail]
  rfl

end Url

end TileDepot
