import Mathlib.Data.List.TakeDrop
import Mathlib.Data.List.TakeWhile
import TileDepot.Proofs.Url.Host
import TileDepot.Url.Basic

/-!
# Reading URLs of other schemes

A URL whose scheme is none of the web's: what is read of its host, and what has to be written for it.
The text between the two slashes and the path is cut into user, host and port (`authority_parts`), and
what is cut off the path is query and fragment.
-/

namespace TileDepot.Url

/-! ## From the text to the host -/

/-- Characters that readers do not drop. -/
def isKept (c : Char) : Bool :=
  c != '\t' && c != '\n' && c != '\r'

/-- The characters up to the last one that is visible. -/
def visiblePart (cs : List Char) : List Char :=
  (cs.reverse.dropWhile fun c => decide (c.toNat ≤ 0x20)).reverse

theorem visiblePart_eq {cs : List Char} (h : ∀ c ∈ cs.getLast?, 0x20 < c.toNat) :
    visiblePart cs = cs := by
  unfold visiblePart
  rw [Text.dropWhile_eq_self, List.reverse_reverse]
  intro c hc
  rw [List.head?_reverse] at hc
  exact decide_eq_false (Nat.not_le_of_lt (h c hc))

theorem visiblePart_append {front : List Char} (h : ∀ c ∈ front.getLast?, 0x20 < c.toNat)
    (cs : List Char) : visiblePart (front ++ cs) = front ++ visiblePart cs := by
  have hfront := visiblePart_eq h
  unfold visiblePart at hfront ⊢
  rw [List.reverse_append, List.dropWhile_append]
  split
  · rename_i hnone
    rw [hfront, List.isEmpty_iff.mp hnone, List.reverse_nil, List.append_nil]
  · rw [List.reverse_append, List.reverse_reverse]

theorem visiblePart_split (cs : List Char) : (∃ blanks, cs = visiblePart cs ++ blanks) ∧
    ∀ c ∈ (visiblePart cs).getLast?, 0x20 < c.toNat := by
  unfold visiblePart
  constructor
  · refine ⟨(cs.reverse.takeWhile fun c => decide (c.toNat ≤ 0x20)).reverse, ?_⟩
    rw [← List.reverse_append, List.takeWhile_append_dropWhile, List.reverse_reverse]
  · intro c hc
    have hhead := List.head?_dropWhile_not (fun c : Char => decide (c.toNat ≤ 0x20)) cs.reverse
    rw [List.getLast?_reverse] at hc
    rw [Option.mem_def.mp hc] at hhead
    simpa using hhead

/-- The schemes that addresses are written with. -/
def isAddressScheme (scheme : String) : Prop :=
  scheme = "redis" ∨ scheme = "rediss" ∨ scheme = "redis+unix"

theorem isSpecial_address {scheme : String} (h : isAddressScheme scheme) :
    isSpecial scheme = false ∧ (specialPort? scheme).getD none = none := by
  rcases h with rfl | rfl | rfl <;> exact ⟨by decide, by decide⟩

theorem cleaned_scheme {name : List Char} (hname : ∀ c ∈ name, isKept c = true ∧ 0x20 < c.toNat)
    (cs : List Char) : cleaned (String.ofList name ++ "://" ++ String.ofList cs)
      = name ++ ':' :: '/' :: '/' :: (visiblePart cs).filter isKept := by
  have htext : String.ofList name ++ "://" ++ String.ofList cs
      = String.ofList (name ++ [':', '/', '/'] ++ cs) := by
    refine String.toList_inj.mp ?_
    simp only [String.toList_append, String.toList_ofList]
    rfl
  have hfirst : ∀ c ∈ (name ++ [':', '/', '/'] ++ cs).head?, decide (c.toNat ≤ 0x20) = false := by
    intro c hc
    cases name with
    | nil =>
        cases hc
        decide
    | cons x name =>
        cases hc
        exact decide_eq_false (Nat.not_le_of_lt (hname _ List.mem_cons_self).2)
  have hlast : ∀ c ∈ (name ++ [':', '/', '/']).getLast?, 0x20 < c.toNat := by
    intro c hc
    rw [List.getLast?_append] at hc
    cases hc
    decide
  unfold cleaned
  rw [htext, String.toList_ofList, Text.dropWhile_eq_self hfirst]
  show (visiblePart (name ++ [':', '/', '/'] ++ cs)).filter isKept = _
  rw [visiblePart_append hlast, List.filter_append, List.filter_append,
    List.filter_eq_self.mpr fun c hc => (hname c hc).1]
  simp [isKept]

/-- An address is read after its scheme and two slashes, less what readers drop. -/
theorem parse_address {scheme : String} (h : isAddressScheme scheme) (cs : List Char) :
    parse (scheme ++ "://" ++ String.ofList cs)
      = hostUrl scheme ((visiblePart cs).filter isKept) := by
  have hclean : ∀ name : List Char, (name.all fun c => isKept c && decide (0x20 < c.toNat)) = true →
      splitScheme? (cleaned (String.ofList name ++ "://" ++ String.ofList cs))
        = splitScheme? (name ++ ':' :: '/' :: '/' :: (visiblePart cs).filter isKept) := by
    intro name hname
    refine congrArg _ (cleaned_scheme (fun c hc => ?_) cs)
    simpa using List.all_eq_true.mp hname c hc
  unfold parse
  rcases h with rfl | rfl | rfl
  · rw [show ("redis" : String) = String.ofList "redis".toList by decide, hclean _ (by decide)]
    rfl
  · rw [show ("rediss" : String) = String.ofList "rediss".toList by decide, hclean _ (by decide)]
    rfl
  · rw [show ("redis+unix" : String) = String.ofList "redis+unix".toList by decide,
      hclean _ (by decide)]
    rfl

/-! ## From the host to the port -/

theorem spanHost_append (inside : Bool) (cs : List Char) :
    (spanHost inside cs).1 ++ (spanHost inside cs).2 = cs := by
  induction cs generalizing inside with
  | nil => rfl
  | cons c cs ih =>
      rw [spanHost]
      split
      · rfl
      · exact congrArg (c :: ·) (ih _)

theorem spanHost_rest (inside : Bool) (cs : List Char) :
    (spanHost inside cs).2 = [] ∨ ∃ r, (spanHost inside cs).2 = ':' :: r := by
  induction cs generalizing inside with
  | nil => exact Or.inl rfl
  | cons c cs ih =>
      rw [spanHost]
      split
      · rename_i hcolon
        rw [Bool.and_eq_true] at hcolon
        exact Or.inr ⟨cs, by rw [eq_of_beq hcolon.1]⟩
      · exact ih _

theorem port_cases {cs rest : List Char} {port : Option Nat} (h : port? none cs = .ok (port, rest)) :
    ∃ numeral, cs = numeral ++ rest ∧ (∀ c ∈ numeral, c.isDigit = true) ∧
      (rest = [] ∨ rest.head? = some '\\') ∧
      port = if numeral = [] then none else some ((Text.digits? numeral).getD 0) := by
  unfold port? at h
  rw [List.span_eq_takeWhile_dropWhile] at h
  dsimp only at h
  split at h
  · cases h
  · rename_i hgood
    rw [Bool.or_eq_true, not_or] at hgood
    obtain ⟨hport, hrest⟩ := Prod.mk.inj (Except.ok.inj h)
    refine ⟨cs.takeWhile Char.isDigit, ?_, ?_, ?_, ?_⟩
    · rw [← hrest, List.takeWhile_append_dropWhile]
    · exact fun c hc => List.all_eq_true.mp List.all_takeWhile c hc
    · rw [← hrest]
      exact or_iff_not_imp_left.mpr (by simpa using hgood.2)
    · rw [← hport]
      simp

/-- The text behind the user. -/
def placeOf (cs : List Char) : List Char :=
  match splitUser? cs with
  | some (_, host) => host
  | none => cs

/-- **What is read of a host with its user and port.** -/
theorem authority_parts {scheme : String} (hscheme : isAddressScheme scheme) {cs rest : List Char}
    {last : Bool} {a : Authority} (h : authority scheme cs last = .ok (a, rest)) :
    ∃ host, opaqueHost (spanHost false (placeOf cs)).1 = .ok host ∧
      port? none ((spanHost false (placeOf cs)).2.drop 1) = .ok (a.port, rest) ∧
      a.host = (if host = .domain "" then none else some host) ∧
      (splitUser? cs = none → a.username = "" ∧ a.password = none) := by
  obtain ⟨hspecial, hport⟩ := isSpecial_address hscheme
  unfold authority at h
  unfold placeOf
  rw [hspecial, hport] at h
  cases hsplit : splitUser? cs with
  | none | some =>
      rw [hsplit] at h
      dsimp only [bind, Except.bind] at h
      simp only [Bool.false_and, Bool.false_eq_true, if_false] at h
      -- one split for each check: a user, a host and a port have to be there and to be readable
      split at h
      · cases h
      split at h
      · cases h
      rename_i host hhost
      split at h
      · cases h
      split at h
      · cases h
      rename_i found hfound
      split at h
      · cases h
      cases h
      refine ⟨host, hhost, hfound, ?_, ?_⟩
      · by_cases hempty : host = .domain ""
        · rw [if_pos hempty, if_pos (beq_iff_eq.mpr hempty)]
        · rw [if_neg hempty, if_neg (mt beq_iff_eq.mp hempty)]
      · first
          | exact fun _ => ⟨encodeText_nil _, rfl⟩
          | exact fun hno => absurd hno (by simp)

/-- **What is read of a URL is read of its host, and the rest is path, query and fragment.** -/
theorem hostUrl_parts {scheme : String} {cs : List Char} {u : Url} (h : hostUrl scheme cs = .ok u) :
    ∃ a rest, authority scheme
        (spanTo (fun c => isSlash (isSpecial scheme) c || c == '?' || c == '#') cs).1
        (spanTo (fun c => isSlash (isSpecial scheme) c || c == '?' || c == '#') cs).2.isEmpty
          = .ok (a, rest) ∧
      u = withTail scheme (some a)
        (rest ++ (spanTo (fun c => isSlash (isSpecial scheme) c || c == '?' || c == '#') cs).2) := by
  unfold hostUrl at h
  dsimp only [bind, Except.bind] at h
  split at h
  · cases h
  · rename_i both hboth
    cases h
    exact ⟨both.1, both.2, hboth, rfl⟩

/-! ## Plain addresses -/

theorem ne_of_plain {c : Char} (hc : isPlain c = true) {x : Char} (hx : isPlain x = false) :
    c ≠ x := by
  rintro rfl
  exact absurd (hc.symm.trans hx) (by decide)

/-- **A plain text is all host and port.** -/
theorem place_plain {scheme : String} (hscheme : isAddressScheme scheme) {cs : List Char}
    (h : ∀ c ∈ cs, isPlain c = true) :
    cs.filter isKept = cs ∧
      spanTo (fun c => isSlash (isSpecial scheme) c || c == '?' || c == '#') cs = (cs, []) ∧
      splitUser? cs = none ∧ placeOf cs = cs := by
  have hstops : ∀ c ∈ cs, (!(isSlash (isSpecial scheme) c || c == '?' || c == '#')) = true := by
    intro c hc
    have hne : ∀ x, isPlain x = false → (c == x) = false :=
      fun x hx => beq_false_of_ne (ne_of_plain (h c hc) hx)
    unfold isSlash
    rw [(isSpecial_address hscheme).1, hne '/' (by decide), hne '?' (by decide),
      hne '#' (by decide)]
    rfl
  have huser : splitUser? cs = none := by
    unfold splitUser?
    refine if_neg fun hat => ?_
    exact ne_of_plain (h '@' (List.contains_iff_mem.mp hat)) (by decide) rfl
  refine ⟨List.filter_eq_self.mpr fun c hc => ?_, ?_, huser, ?_⟩
  · have hne : ∀ x, isPlain x = false → (c != x) = true :=
      fun x hx => bne_iff_ne.mpr (ne_of_plain (h c hc) hx)
    unfold isKept
    rw [hne '\t' (by decide), hne '\n' (by decide), hne '\r' (by decide)]
    rfl
  · unfold spanTo
    rw [List.takeWhile_eq_self_iff.mpr hstops, List.dropWhile_eq_nil_iff.mpr hstops]
  · unfold placeOf
    rw [huser]

end TileDepot.Url
