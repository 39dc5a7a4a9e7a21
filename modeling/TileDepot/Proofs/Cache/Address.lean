import TileDepot.Cache.Connection
import TileDepot.Proofs.Text.Encoding
import TileDepot.Proofs.Url.Path

/-!
# Where settings lead

Settings without a URI of their own are put together as one, which is then read. What is written
into it as a host or a path may be read as something else: a number sign ends the host, an at-sign
makes what stands before it a user, and so on. So a connection goes where the settings say just when
the host has plain characters only, or the path of the socket has nothing in it that a URL reads
otherwise (`settings_lead`, `PlainPath`). The database and the password are not part of the URI and
always as set.

What a path loses on the way cannot come back, since no step makes it longer: blanks and line breaks
go, then what follows a number sign or a question mark, then dot segments, and what is decoded has
one character for three. So a path that arrives as it was has lost nothing (`plain_of_socket`).
-/

namespace TileDepot.Cache.Connection

open Url (isPlain isAddressScheme)

/-! ## Host and port -/

theorem splitPort_eq {host port : List Char} (hport : ':' ∉ port) :
    splitPort? (host ++ ':' :: port) = some (host, port) := by
  have hother : ∀ c ∈ port.reverse, (c != ':') = true := by
    intro c hc
    rw [bne_iff_ne]
    exact fun heq => hport (heq ▸ List.mem_reverse.mp hc)
  have hlast : ((host ++ ':' :: port).reverse.takeWhile (· != ':')).reverse = port := by
    rw [List.reverse_append, List.reverse_cons, List.append_assoc,
      List.takeWhile_append_of_pos hother, List.singleton_append,
      List.takeWhile_cons_of_neg (by decide), List.append_nil, List.reverse_reverse]
  have hcontains : (host ++ ':' :: port).contains ':' = true := by simp
  unfold splitPort?
  rw [if_pos hcontains]
  dsimp only
  rw [hlast, List.length_append, List.length_cons,
    show host.length + (port.length + 1) - port.length - 1 = host.length by omega,
    List.take_left]

/-- There is one last colon. -/
theorem cut_unique {host port host' port' : List Char}
    (h : host ++ ':' :: port = host' ++ ':' :: port') (hport : ':' ∉ port) (hport' : ':' ∉ port') :
    host = host' ∧ port = port' := by
  have hcut := @splitPort_eq host port hport
  rw [h, splitPort_eq hport'] at hcut
  obtain ⟨hhost, hnumeral⟩ := Prod.mk.inj (Option.some.inj hcut)
  exact ⟨hhost.symm, hnumeral.symm⟩

theorem splitPort_some {cs host port : List Char} (h : splitPort? cs = some (host, port)) :
    cs = host ++ ':' :: port ∧ ':' ∉ port := by
  have hcolon : ':' ∈ cs.reverse := by
    unfold splitPort? at h
    split at h
    · rename_i hcontains
      exact List.mem_reverse.mpr (List.contains_iff_mem.mp hcontains)
    · cases h
  obtain ⟨back, front, hsplit, hback⟩ := List.eq_append_cons_of_mem hcolon
  have hcs : cs = front.reverse ++ ':' :: back.reverse := by
    rw [← List.reverse_reverse cs, hsplit]
    simp
  have hfree : ':' ∉ back.reverse := fun hmem => hback (List.mem_reverse.mp hmem)
  rw [hcs, splitPort_eq hfree] at h
  cases h
  exact ⟨hcs, hfree⟩

theorem hostAndPort_ok {address host : String} {port : UInt16}
    (h : hostAndPort address = .ok (host, port)) :
    ∃ written numeral, address.toList = written ++ ':' :: numeral ∧ ':' ∉ numeral ∧
      host = String.ofList written ∧ Text.uint16? (String.ofList numeral) = some port := by
  unfold hostAndPort at h
  split at h
  · cases h
  · rename_i written numeral hsplit
    obtain ⟨haddress, hfree⟩ := splitPort_some hsplit
    dsimp only at h
    split at h
    · cases h
    · split at h
      · rename_i n hn
        cases h
        exact ⟨written, numeral, haddress, hfree, rfl, hn⟩
      · cases h

/-! ## Connections to hosts -/

/-- The host that is written in settings: an address in brackets is meant, and not how it is
written. -/
def Names (written : List Char) (name : String) : Prop :=
  name = String.ofList written ∨ ∃ inner parts, written = '[' :: inner ++ [']'] ∧
    Url.ipv6? inner = some parts ∧ name = hostName (.ipv6 parts)

theorem hostName_plain {cs : List Char} {h : Url.Host} (hok : Url.opaqueHost cs = .ok h) :
    ∀ c ∈ (hostName h).toList, isPlain c = true := by
  rcases Url.opaqueHost_cases hok with ⟨inner, parts, _, _, rfl⟩ | ⟨hfree, rfl⟩
  · unfold hostName
    dsimp only
    split
    · intro c hc
      rw [String.toList_append] at hc
      rcases List.mem_append.mp hc with hc | hc
      · exact List.all_eq_true.mp (show "::ffff:".toList.all isPlain = true by decide) c hc
      · exact Url.ipv4Text_plain _ c hc
    · exact Url.ipv6Text_plain parts
  · exact Url.domain_plain hfree

theorem Names.plain {written : List Char} {name : String} (h : Names written name)
    (hname : ∀ c ∈ name.toList, isPlain c = true) : ∀ c ∈ written, isPlain c = true := by
  rcases h with rfl | ⟨inner, parts, rfl, hparts, _⟩
  · rw [String.toList_ofList] at hname
    exact hname
  · intro c hc
    simp only [List.mem_append, List.mem_cons, List.not_mem_nil, or_false] at hc
    rcases hc with (rfl | hc) | rfl
    · decide
    · exact Url.ipv6_plain (by simp [hparts]) c hc
    · decide

/-- What a URI says of a connection to a host. -/
theorem ofHostUri_ok {u : Url} {pairs : List (String × String)} {c : Connection}
    (h : ofHostUri u pairs = .ok c) : ∃ host insecure, u.host = some host ∧
      c.place = (if u.scheme = "rediss" then .tls (hostName host) (u.port.getD defaultPort) insecure
        else .tcp (hostName host) (u.port.getD defaultPort)) ∧
      (u.fragment = none → insecure = false) ∧ (u.username = "" → c.username = none) := by
  unfold ofHostUri at h
  cases hhost : u.host with
  | none =>
      rw [hhost] at h
      cases h
  | some host =>
      rw [hhost] at h
      dsimp only [bind, Except.bind] at h
      have hnamed : ∀ {name : Option String}, ¬ u.username.isEmpty = true → u.username = "" →
          name = none := fun hfull hempty => absurd (by rw [hempty]; rfl) hfull
      split at h
      · rename_i htls
        simp only [eq_of_beq htls, if_true]
        split at h
        · refine ⟨host, false, rfl, ?_⟩
          repeat' split at h
          all_goals cases h
          all_goals exact ⟨rfl, fun _ => rfl, by first | exact fun _ => rfl | exact hnamed ‹_›⟩
        · rename_i hf
          refine ⟨host, true, rfl, ?_⟩
          repeat' split at h
          all_goals cases h
          all_goals exact ⟨rfl, fun hno => absurd (hf.symm.trans hno) (by simp),
            by first | exact fun _ => rfl | exact hnamed ‹_›⟩
      · rename_i htcp
        simp only [mt beq_iff_eq.mpr htcp, if_false]
        refine ⟨host, false, rfl, ?_⟩
        repeat' split at h
        all_goals cases h
        all_goals exact ⟨rfl, fun _ => rfl, by first | exact fun _ => rfl | exact hnamed ‹_›⟩

/-- The scheme that settings are written with. -/
def hostScheme (s : RedisSettings) : String :=
  if s.tls then "rediss" else "redis"

theorem hostScheme_address (s : RedisSettings) : isAddressScheme (hostScheme s) ∧
    (hostScheme s = "rediss" ↔ s.tls = true) := by
  unfold hostScheme isAddressScheme
  cases s.tls <;> simp

/-- The text that is read as user, host and port. -/
def addressText (written : List Char) (port : UInt16) : List Char :=
  written ++ ':' :: (toString port.toNat).toList

theorem digits_text (n : Nat) : (toString n).toList = Nat.toDigits 10 n := Nat.toList_repr

theorem digits_not_nil (n : Nat) : (toString n).toList ≠ [] :=
  digits_text n ▸ Nat.toDigits_ne_nil

theorem digit_of_mem {n : Nat} {c : Char} (hc : c ∈ (toString n).toList) : c.isDigit = true :=
  Nat.isDigit_of_mem_toDigits (by decide) (by decide) (digits_text n ▸ hc)

/-- The last character of an address is a digit. -/
theorem addressText_last (written : List Char) (port : UInt16) :
    ∀ c ∈ (addressText written port).getLast?, c.isDigit = true := by
  intro c hc
  have htext : addressText written port = (written ++ [':']) ++ (toString port.toNat).toList := by
    unfold addressText
    simp
  rw [htext, List.getLast?_append,
    Option.or_of_isSome (List.getLast?_isSome.mpr (digits_not_nil port.toNat))] at hc
  exact digit_of_mem (List.mem_of_getLast? hc)

theorem visible_of_plain {c : Char} (hc : isPlain c = true) : 0x20 < c.toNat := by
  unfold isPlain at hc
  rw [Bool.and_eq_true, Bool.and_eq_true, decide_eq_true_eq] at hc
  exact hc.1.1

/-- What is read of the URI of a host and a port. -/
theorem ofUri_host {s : RedisSettings} {written : List Char} {port : UInt16} {c : Connection}
    (h : ofUri (hostScheme s ++ "://" ++ String.ofList (addressText written port)) = .ok c) :
    ∃ u pairs, Url.hostUrl (hostScheme s) ((addressText written port).filter Url.isKept) = .ok u ∧
      ofHostUri u pairs = .ok c := by
  unfold ofUri at h
  rw [Url.parse_address (hostScheme_address s).1, Url.visiblePart_eq fun c hc =>
    visible_of_plain (Url.isPlain_of_digit (addressText_last written port c hc))] at h
  cases hurl : Url.hostUrl (hostScheme s) ((addressText written port).filter Url.isKept) with
  | error e =>
      rw [hurl] at h
      cases h
  | ok u =>
      rw [hurl] at h
      obtain ⟨a, rest, _, hu⟩ := Url.hostUrl_parts hurl
      have hscheme : u.scheme = hostScheme s := by rw [hu]; rfl
      have hredis : (u.scheme == "redis" || u.scheme == "rediss") = true := by
        rw [hscheme]
        unfold hostScheme
        cases s.tls <;> decide
      dsimp only at h
      rw [if_pos hredis] at h
      exact ⟨u, _, rfl, h⟩

theorem addressText_plain {written : List Char} (h : ∀ c ∈ written, isPlain c = true)
    (port : UInt16) : ∀ c ∈ addressText written port, isPlain c = true := by
  intro c hc
  unfold addressText at hc
  rcases List.mem_append.mp hc with hc | hc
  · exact h c hc
  rcases List.mem_cons.mp hc with rfl | hc
  · decide
  · exact Url.isPlain_of_digit (digit_of_mem hc)

theorem colon_not_digit {cs : List Char} (h : ∀ c ∈ cs, c.isDigit = true) : ':' ∉ cs :=
  fun hmem => absurd (h ':' hmem) (by decide)

/-- In a plain address, nothing but the last colon divides the host from the port. -/
theorem cut_plain {written : List Char} {port : UInt16} {found : Url.Host} {number : Option Nat}
    {rest : List Char} (hplain : ∀ c ∈ written, isPlain c = true)
    (hread : Url.opaqueHost (Url.spanHost false (addressText written port)).1 = .ok found)
    (hport : Url.port? none ((Url.spanHost false (addressText written port)).2.drop 1)
      = .ok (number, rest)) :
    (Url.spanHost false (addressText written port)).1 = written ∧ number = some port.toNat ∧
      rest = [] := by
  have htext := Url.spanHost_append false (addressText written port)
  rcases Url.spanHost_rest false (addressText written port) with hnone | ⟨tail, htail⟩
  · -- without a colon of its own the whole text would be the host
    rw [hnone, List.append_nil] at htext
    rw [htext] at hread
    rcases Url.opaqueHost_cases hread with ⟨inner, parts, hbracket, _⟩ | ⟨hfree, _⟩
    · have hlast := addressText_last written port ']' (by rw [hbracket, List.getLast?_concat]; rfl)
      cases hlast
    · exact absurd (by decide) (hfree ':' (by simp [addressText]))
  · rw [htail] at hport htext
    obtain ⟨numeral, hnumeral, hdigits, hrest, hnumber⟩ := Url.port_cases hport
    rw [List.drop_one, List.tail_cons] at hnumeral
    have hend : rest = [] := by
      refine hrest.resolve_right fun hbackslash => ?_
      have hmem : '\\' ∈ addressText written port := by
        rw [← htext, hnumeral]
        simp [List.mem_of_head? hbackslash]
      exact Url.ne_of_plain (addressText_plain hplain port _ hmem) (by decide) rfl
    rw [hend, List.append_nil] at hnumeral
    subst hnumeral
    -- the number of the port has no colon, however it is read
    obtain ⟨hhost, htail⟩ :=
      cut_unique htext (colon_not_digit hdigits) (colon_not_digit fun _ => digit_of_mem)
    refine ⟨hhost, ?_, hend⟩
    rw [hnumber, htail, if_neg (digits_not_nil port.toNat), digits_text, Text.digits?_toDigits]
    rfl

/-- A host of plain characters is not encoded. -/
theorem domain_stays {cs : List Char} (h : ∀ c ∈ cs, isPlain c = true) :
    Url.encodeText Url.controlSet (String.ofList cs) = String.ofList cs := by
  have hall : ∀ n < 0x7F, 0x20 < n → Url.controlSet (UInt8.ofNat n) = false := by decide +kernel
  refine Url.encodeText_plain fun c hc => ?_
  have hlow := h c hc
  unfold isPlain at hlow
  rw [Bool.and_eq_true, Bool.and_eq_true, decide_eq_true_eq, decide_eq_true_eq] at hlow
  exact ⟨Nat.lt_trans hlow.1.2 (by decide), hall c.toNat hlow.1.2 hlow.1.1⟩

/-- **Where a host and a port lead.** -/
theorem host_leads {s : RedisSettings} {written : List Char} {port : UInt16} {c : Connection}
    (h : ofUri (hostScheme s ++ "://" ++ String.ofList (addressText written port)) = .ok c) :
    ∃ name number insecure,
      c.place = (if s.tls = true then .tls name number insecure else .tcp name number) ∧
      (Names written name → ∀ c ∈ written, isPlain c = true) ∧
      ((∀ c ∈ written, isPlain c = true) →
        Names written name ∧ number = port.toNat ∧ insecure = false ∧ c.username = none) := by
  obtain ⟨u, pairs, hurl, hok⟩ := ofUri_host h
  obtain ⟨host, insecure, hhost, hplace, hinsecure, huser⟩ := ofHostUri_ok hok
  obtain ⟨a, rest, hauthority, rfl⟩ := Url.hostUrl_parts hurl
  obtain ⟨found, hread, hport, hfound, hnobody⟩ :=
    Url.authority_parts (hostScheme_address s).1 hauthority
  have hsame : found = host := by
    have hhost' : a.host = some host := hhost
    rw [hfound] at hhost'
    split at hhost'
    · cases hhost'
    · exact Option.some.inj hhost'
  subst hsame
  refine ⟨hostName found, a.port.getD defaultPort, insecure, ?_,
    fun hnames => hnames.plain (hostName_plain hread), fun hplain => ?_⟩
  · rw [hplace]
    exact if_congr (hostScheme_address s).2 rfl rfl
  · obtain ⟨hkept, hspan, hnouser, hall⟩ :=
      Url.place_plain (hostScheme_address s).1 (addressText_plain hplain port)
    rw [hkept, hspan] at hnobody hread hport hinsecure huser
    rw [hall] at hread hport
    obtain ⟨hhost, hnumber, hend⟩ := cut_plain hplain hread hport
    rw [hhost] at hread
    subst hend
    refine ⟨?_, by rw [hnumber]; rfl, hinsecure rfl, huser (hnobody hnouser).1⟩
    rcases Url.opaqueHost_cases hread with ⟨inner, parts, hbracket, hparts, rfl⟩ | ⟨_, rfl⟩
    · exact Or.inr ⟨inner, parts, hbracket, hparts, rfl⟩
    · exact Or.inl (domain_stays hplain)

/-! ## Connections to sockets -/

/-- A path that is read from a URI as it is written there. A letter with a colon at the end would be
a drive, which is given a slash. -/
structure PlainPath (path : String) : Prop where
  absolute : path.toList.head? = some '/'
  kept : ∀ c ∈ path.toList, Url.isKept c = true ∧ c ≠ '#' ∧ c ≠ '?'
  segments : ∀ s ∈ Url.segments false (path.toList.drop 1), Url.PlainSegment s
  visible : ∀ c ∈ path.toList.getLast?, 0x20 < c.toNat
  noDrive : Url.isDrive (path.toList.drop (path.toList.length - 2)) = false

instance (path : String) : Decidable (PlainPath path) :=
  decidable_of_iff (path.toList.head? = some '/' ∧
      (path.toList.all fun c => decide (Url.isKept c = true ∧ c ≠ '#' ∧ c ≠ '?')) = true ∧
      (∀ s ∈ Url.segments false (path.toList.drop 1), Url.PlainSegment s) ∧
      (path.toList.getLast?.all fun c => decide (0x20 < c.toNat)) = true ∧
      Url.isDrive (path.toList.drop (path.toList.length - 2)) = false)
    ⟨fun ⟨habsolute, hkept, hsegments, hvisible, hdrive⟩ =>
      ⟨habsolute, fun c hc => of_decide_eq_true (List.all_eq_true.mp hkept c hc), hsegments,
        fun c hc => of_decide_eq_true ((Option.all_eq_true _ _).mp hvisible c hc), hdrive⟩,
      fun h => ⟨h.absolute, List.all_eq_true.mpr fun c hc => decide_eq_true (h.kept c hc),
        h.segments, (Option.all_eq_true _ _).mpr fun c hc => decide_eq_true (h.visible c hc),
        h.noDrive⟩⟩

/-- What is left of a path when what readers drop is gone. -/
def readPart (rest : List Char) : List Char :=
  (Url.visiblePart rest).filter Url.isKept

/-- Nothing is put in, and what has the same length is the same. -/
theorem readPart_length (rest : List Char) : (readPart rest).length ≤ rest.length ∧
    ((readPart rest).length = rest.length → (∀ c ∈ rest, Url.isKept c = true) ∧
      (∀ c ∈ rest.getLast?, 0x20 < c.toNat) ∧ readPart rest = rest) := by
  obtain ⟨⟨blanks, hblanks⟩, hvisible⟩ := Url.visiblePart_split rest
  have hsplit := congrArg List.length hblanks
  have hfilter := List.length_filter_le Url.isKept (Url.visiblePart rest)
  rw [List.length_append] at hsplit
  unfold readPart
  refine ⟨by omega, fun hlength => ?_⟩
  have hall : Url.visiblePart rest = rest := by
    rw [List.eq_nil_of_length_eq_zero (show blanks.length = 0 by omega), List.append_nil] at hblanks
    exact hblanks.symm
  rw [hall] at hlength hvisible ⊢
  have hkept := List.length_filter_eq_length_iff.mp hlength
  exact ⟨hkept, hvisible, List.filter_eq_self.mpr hkept⟩

/-- What is read of a path that begins with a slash. -/
theorem ofUri_socket {path : String} {rest : List Char} (hpath : path.toList = '/' :: rest) :
    ∃ query fragment, ofUri ("redis+unix://" ++ path) =
      ofSocketUri ⟨"redis+unix", true, "", none, none, none,
        Url.pathText false (Url.pathPart (readPart rest)), false, query, fragment⟩
        (Url.formPairs (query.getD "")) ∧
      (Url.pathPart (readPart rest) = readPart rest → query = none) := by
  obtain ⟨query, fragment, hurl, hquery⟩ := Url.hostUrl_path (readPart rest)
  refine ⟨query, fragment, ?_, hquery⟩
  have hslash : ∀ c ∈ ['/'].getLast?, 0x20 < c.toNat := by
    intro c hc
    cases hc
    decide
  have hparse := @Url.parse_address "redis+unix" (Or.inr (Or.inr rfl)) path.toList
  rw [String.ofList_toList, hpath, ← List.singleton_append, Url.visiblePart_append hslash,
    List.filter_append] at hparse
  have hread : Url.parse ("redis+unix://" ++ path)
      = Url.hostUrl "redis+unix" ('/' :: readPart rest) := hparse
  unfold ofUri
  rw [hread, hurl]
  dsimp only
  rw [if_neg (by decide), if_pos (by decide)]

/-- The bytes end in a drive, with something before it. -/
def endsInDrive (bs : Bytes) : Bool :=
  match bs.reverse with
  | mark :: letter :: _ :: _ => (mark == 0x3A || mark == 0x7C) && (Char.ofNat letter.toNat).isAlpha
  | _ => false

/-- The path of a socket is decoded, with a slash behind a drive. -/
theorem socketPath_eq (cs : List Char) (query fragment : Option String) :
    socketPath? ⟨"redis+unix", true, "", none, none, none, Url.pathText false cs, false, query,
        fragment⟩
      = some (Bytes.toTextLossy
        (if endsInDrive (Url.percentDecode (Bytes.ofText (Url.pathText false cs))) = true
          then Url.percentDecode (Bytes.ofText (Url.pathText false cs)) ++ [0x2F]
          else Url.percentDecode (Bytes.ofText (Url.pathText false cs)))) := by
  have hhead : (Url.pathText false cs).toList.head? = some '/' := by
    unfold Url.pathText
    rw [String.toList_append]
    rfl
  unfold socketPath?
  dsimp only
  rw [hhead, if_pos (by decide)]
  rfl

theorem endsInDrive_cases {bs : Bytes} : endsInDrive bs = true ↔
    ∃ front before letter mark, bs = front ++ [before, letter, mark] ∧
      (Char.ofNat letter.toNat).isAlpha = true ∧ (mark = 0x3A ∨ mark = 0x7C) := by
  unfold endsInDrive
  constructor
  · intro h
    split at h
    · rename_i mark letter before more hreverse
      rw [Bool.and_eq_true, Bool.or_eq_true, beq_iff_eq, beq_iff_eq] at h
      refine ⟨more.reverse, before, letter, mark, ?_, h.2, h.1⟩
      rw [← List.reverse_reverse bs, hreverse]
      simp
    · cases h
  · rintro ⟨front, before, letter, mark, rfl, hletter, hmark⟩
    have hreverse : (front ++ [before, letter, mark]).reverse
        = mark :: letter :: before :: front.reverse := by
      simp
    rw [hreverse]
    dsimp only
    rw [Bool.and_eq_true, Bool.or_eq_true, beq_iff_eq, beq_iff_eq]
    exact ⟨hmark, hletter⟩

theorem isDrive_cases {cs : List Char} : Url.isDrive (cs.drop (cs.length - 2)) = true ↔
    ∃ front letter mark, cs = front ++ [letter, mark] ∧ letter.isAlpha = true ∧
      (mark = ':' ∨ mark = '|') := by
  constructor
  · intro h
    have hsplit := List.take_append_drop (cs.length - 2) cs
    unfold Url.isDrive at h
    split at h
    · rename_i letter mark hdrive
      rw [Bool.and_eq_true, Bool.or_eq_true, beq_iff_eq, beq_iff_eq] at h
      rw [hdrive] at hsplit
      exact ⟨_, letter, mark, hsplit.symm, h⟩
    · cases h
  · rintro ⟨front, letter, mark, rfl, hletter, hmark⟩
    have hdrive : (front ++ [letter, mark]).drop ((front ++ [letter, mark]).length - 2)
        = [letter, mark] := by
      simp
    rw [hdrive]
    unfold Url.isDrive
    dsimp only
    rw [Bool.and_eq_true, Bool.or_eq_true, beq_iff_eq, beq_iff_eq]
    exact ⟨hletter, hmark⟩

/-- The drive is in the bytes just when it is in the text. -/
theorem endsInDrive_iff {path : String} (hslash : path.toList.head? = some '/') :
    endsInDrive (Bytes.ofText path) = true ↔
      Url.isDrive (path.toList.drop (path.toList.length - 2)) = true := by
  rw [endsInDrive_cases, isDrive_cases]
  constructor
  · rintro ⟨front, before, letter, mark, hbytes, hletter, hmark⟩
    have hascii : ∀ b : UInt8, (Char.ofNat b.toNat).isAlpha = true → b.toNat < 0x80 :=
      Url.forall_byte (by decide +kernel)
    have hlow : mark.toNat < 0x80 := by rcases hmark with rfl | rfl <;> decide
    obtain ⟨init, hinit, hletters⟩ := @Bytes.last_of_ofText path.toList
      (front ++ [before] ++ [letter]) mark (by rw [String.ofList_toList, hbytes]; simp) hlow
    obtain ⟨first, rfl, _⟩ := Bytes.last_of_ofText hletters (hascii letter hletter)
    refine ⟨first, _, _, by rw [hinit, List.append_assoc]; rfl, hletter, ?_⟩
    exact hmark.imp (fun heq => by rw [heq]; rfl) fun heq => by rw [heq]; rfl
  · rintro ⟨first, letter, mark, hpath, hletter, hmark⟩
    -- the slash is before the letter
    have hne : first ≠ [] := by
      rintro rfl
      rw [hpath] at hslash
      cases hslash
      cases hletter
    have hlow : letter.toNat < 0x80 := by
      have hall := hletter
      unfold Char.isAlpha Char.isUpper Char.isLower at hall
      simp only [Bool.or_eq_true, Bool.and_eq_true, decide_eq_true_eq] at hall
      rcases hall with hall | hall <;> exact Nat.lt_of_le_of_lt hall.2 (by decide)
    have hlow' : mark.toNat < 0x80 := by rcases hmark with rfl | rfl <;> decide
    obtain ⟨front, before, hfirst⟩ : ∃ front before,
        first.flatMap String.utf8EncodeChar = front ++ [before] := by
      refine (List.eq_nil_or_concat' _).resolve_left fun hnone => ?_
      obtain ⟨c, cs, rfl⟩ := List.exists_cons_of_ne_nil hne
      rw [List.flatMap_cons] at hnone
      exact String.utf8EncodeChar_ne_nil (List.append_eq_nil_iff.mp hnone).1
    refine ⟨front, before, UInt8.ofNat letter.toNat, UInt8.ofNat mark.toNat, ?_, ?_, ?_⟩
    · rw [← String.ofList_toList (s := path), hpath, Bytes.ofText_ofList, List.flatMap_append,
        hfirst, List.flatMap_cons, List.flatMap_singleton, Bytes.utf8_ascii hlow,
        Bytes.utf8_ascii hlow', List.append_assoc]
      rfl
    · rw [UInt8.toNat_ofNat_of_lt' (Nat.lt_trans hlow (by decide)), Char.ofNat_toNat]
      exact hletter
    · exact hmark.imp (fun heq => by rw [heq]; rfl) fun heq => by rw [heq]; rfl

/-- **A plain path leads to its socket.** -/
theorem socket_leads {path : String} (h : PlainPath path) :
    ofUri ("redis+unix://" ++ path) = .ok ⟨.socket path, 0, none, none⟩ := by
  obtain ⟨rest, hpath⟩ := List.head?_eq_some_iff.mp h.absolute
  have hkept : ∀ c ∈ rest, Url.isKept c = true ∧ c ≠ '#' ∧ c ≠ '?' :=
    fun c hc => h.kept c (hpath ▸ List.mem_cons_of_mem _ hc)
  have hvisible : ∀ c ∈ rest.getLast?, 0x20 < c.toNat := by
    intro c hc
    refine h.visible c ?_
    rw [hpath, List.getLast?_cons, Option.mem_def.mp hc]
    rfl
  have hread : readPart rest = rest := by
    unfold readPart
    rw [Url.visiblePart_eq hvisible, List.filter_eq_self]
    exact fun c hc => (hkept c hc).1
  have hpart : Url.pathPart rest = rest := by
    unfold Url.pathPart
    rw [List.takeWhile_eq_self_iff]
    exact fun c hc => by simp [(hkept c hc).2]
  have hsegments : ∀ s ∈ Url.segments false rest, Url.PlainSegment s := by
    have hall := h.segments
    rw [hpath] at hall
    exact hall
  obtain ⟨query, fragment, huri, hquery⟩ := ofUri_socket hpath
  rw [hread, hpart] at huri hquery
  rw [hquery rfl] at huri
  have hpairs : Url.formPairs "" = [] := by
    unfold Url.formPairs
    rw [Bytes.ofText_eq]
    rfl
  have hdrive : ¬ endsInDrive (Bytes.ofText path) = true := by
    rw [endsInDrive_iff h.absolute, h.noDrive]
    decide
  have hsocket : socketPath? ⟨"redis+unix", true, "", none, none, none, Url.pathText false rest,
      false, none, fragment⟩ = some path := by
    rw [socketPath_eq, Url.pathText_plain hsegments, ← hpath, String.ofList_toList, if_neg hdrive,
      Bytes.toTextLossy_ofText]
  rw [huri, Option.getD_none, hpairs]
  unfold ofSocketUri
  rw [hsocket]
  rfl

theorem ofSocketUri_ok {u : Url} {pairs : List (String × String)} {c : Connection}
    (h : ofSocketUri u pairs = .ok c) :
    ∃ path, socketPath? u = some path ∧ c.place = .socket path := by
  unfold ofSocketUri at h
  cases hpath : socketPath? u with
  | none =>
      rw [hpath] at h
      cases h
  | some path =>
      rw [hpath] at h
      dsimp only [bind, Except.bind] at h
      refine ⟨path, rfl, ?_⟩
      repeat' split at h
      all_goals cases h
      all_goals rfl

/-- The path of a socket begins with a slash. -/
theorem socketPath_slash {u : Url} {path : String} (h : socketPath? u = some path) :
    path.toList.head? = some '/' := by
  unfold socketPath? at h
  dsimp only at h
  obtain ⟨hlocal, hread⟩ := Option.ite_none_right_eq_some.mp h
  rw [Bool.and_eq_true, beq_iff_eq] at hlocal
  obtain ⟨rest, hrest⟩ := List.head?_eq_some_iff.mp hlocal.2
  have hbytes : Url.percentDecode (Bytes.ofText u.path)
      = 0x2F :: Url.percentDecode (Bytes.ofText (String.ofList rest)) := by
    rw [← String.ofList_toList (s := u.path), hrest, Bytes.ofText_ofList, Bytes.ofText_ofList,
      List.flatMap_cons]
    exact Url.percentDecode_cons (by decide) _
  have hslash : ∀ bs, (Bytes.toTextLossy (0x2F :: bs)).toList.head? = some '/' := by
    intro bs
    unfold Bytes.toTextLossy
    rw [String.toList_ofList]
    rfl
  rw [← Option.some.inj hread, hbytes, List.cons_append, ← apply_ite (List.cons 0x2F)]
  exact hslash _

/-- A socket has an absolute path, however the URI is read. -/
theorem ofUri_slash {uri path : String} {c : Connection} (h : ofUri uri = .ok c)
    (hplace : c.place = .socket path) : path.toList.head? = some '/' := by
  unfold ofUri at h
  split at h
  · cases h
  dsimp only at h
  split at h
  · obtain ⟨host, insecure, -, hhost, -⟩ := ofHostUri_ok h
    rw [hplace] at hhost
    split at hhost <;> cases hhost
  split at h
  · obtain ⟨path', hsocket, hplace'⟩ := ofSocketUri_ok h
    obtain rfl : path = path' := Place.socket.inj (hplace.symm.trans hplace')
    exact socketPath_slash hsocket
  · cases h

/-- A slash at the end is neither blank nor dropped. -/
theorem readPart_slash {rest : List Char} (h : ('/' :: rest).getLast? = some '/') :
    ('/' :: readPart rest).getLast? = some '/' := by
  rcases List.eq_nil_or_concat' rest with rfl | ⟨init, c, rfl⟩
  · rfl
  · rw [← List.cons_append, List.getLast?_concat] at h
    obtain rfl : c = '/' := Option.some.inj h
    have hvisible : ∀ c ∈ (init ++ ['/']).getLast?, 0x20 < c.toNat := by
      intro c hc
      rw [List.getLast?_concat] at hc
      cases hc
      decide
    have hkept : readPart (init ++ ['/']) = init.filter Url.isKept ++ ['/'] := by
      unfold readPart
      rw [Url.visiblePart_eq hvisible, List.filter_append]
      rfl
    rw [hkept, ← List.cons_append, List.getLast?_concat]

/-- The slash behind a drive is none that the path has lost: a path with a slash at its end is read
with that slash, or without two characters at least. -/
theorem no_slash_added {path : String} {rest : List Char} (hpath : path.toList = '/' :: rest)
    {bs : Bytes}
    (hbytes : bs = Url.percentDecode (Bytes.ofText
      (Url.pathText false (Url.pathPart (readPart rest)))))
    (hdrive : endsInDrive bs = true) : path ≠ Bytes.toTextLossy (bs ++ [0x2F]) := by
  intro hread
  have hlast : ('/' :: readPart rest).getLast? = some '/' := by
    refine readPart_slash ?_
    rw [← hpath, hread]
    unfold Bytes.toTextLossy Bytes.decodeLossy
    rw [String.toList_ofList, List.getLast?_map, Bytes.scan_slash (by simp)]
    rfl
  obtain ⟨⟨tail, htail, hmark⟩, -⟩ := Url.pathPart_split (readPart rest)
  cases tail with
  | nil =>
      rw [List.append_nil] at htail
      rw [htail] at hlast
      obtain ⟨front, hfront⟩ := Url.pathText_slash hlast
      obtain ⟨front', before, letter, mark, hdrive, -, hcolon⟩ := endsInDrive_cases.mp hdrive
      have hsame : (front ++ [0x2F]).getLast? = (front' ++ [before, letter, mark]).getLast? :=
        congrArg List.getLast? (hfront.symm.trans (hbytes.symm.trans hdrive))
      rw [List.getLast?_concat, List.getLast?_append] at hsame
      obtain rfl : 0x2F = mark := Option.some.inj hsame
      exact absurd hcolon (by decide)
  | cons c tail =>
      -- the slash at the end is behind the character that ends the path
      have htwo : tail ≠ [] := by
        rintro rfl
        rw [htail, ← List.cons_append, List.getLast?_concat] at hlast
        obtain rfl : c = '/' := Option.some.inj hlast
        exact absurd (hmark '/' rfl) (by decide)
      have hcount : path.toList.length = (Bytes.scan none (bs ++ [0x2F])).length := by
        rw [hread, Bytes.length_toTextLossy]
      have happend := @Bytes.length_scan_append none (by simp) bs [0x2F]
      have hone : (Bytes.scan none [0x2F]).length = 1 := rfl
      have hle := (Url.pathText_length (Url.pathPart (readPart rest))).1
      have hcut := congrArg List.length htail
      have hpart := (readPart_length rest).1
      have hpositive := List.length_pos_iff.mpr htwo
      rw [← hbytes] at hle
      rw [List.length_append, List.length_cons] at hcut
      rw [hpath, List.length_cons] at hcount
      omega

/-- **A socket path that arrives is plain.** -/
theorem plain_of_socket {path : String} {c : Connection}
    (h : ofUri ("redis+unix://" ++ path) = .ok c) (hplace : c.place = .socket path) :
    PlainPath path := by
  have hslash := ofUri_slash h hplace
  obtain ⟨rest, hpath⟩ := List.head?_eq_some_iff.mp hslash
  obtain ⟨query, fragment, huri, -⟩ := ofUri_socket hpath
  rw [huri] at h
  obtain ⟨path', hsocket, hplace'⟩ := ofSocketUri_ok h
  obtain rfl : path = path' := Place.socket.inj (hplace.symm.trans hplace')
  rw [socketPath_eq] at hsocket
  have hread := (Option.some.inj hsocket).symm
  have hnodrive : ¬ endsInDrive (Url.percentDecode (Bytes.ofText
      (Url.pathText false (Url.pathPart (readPart rest))))) = true := by
    intro hdrive
    rw [if_pos hdrive] at hread
    exact no_slash_added hpath rfl hdrive hread
  rw [if_neg hnodrive] at hread
  -- on the way from the path to what is read of it nothing can be won, so nothing was lost
  obtain ⟨hle, hplain⟩ := Url.pathText_length (Url.pathPart (readPart rest))
  obtain ⟨⟨tail, htail, -⟩, hfree⟩ := Url.pathPart_split (readPart rest)
  have hcount : path.toList.length = (Bytes.scan none (Url.percentDecode (Bytes.ofText
      (Url.pathText false (Url.pathPart (readPart rest)))))).length := by
    rw [← Bytes.length_toTextLossy, ← hread]
  have hcut := congrArg List.length htail
  rw [List.length_append] at hcut
  rw [hpath, List.length_cons] at hcount
  obtain ⟨hlength, hall⟩ := readPart_length rest
  obtain ⟨hkept, hvisible, hsame⟩ := hall (by omega)
  have hpart : Url.pathPart rest = rest := by
    rw [hsame] at htail hcut hcount hle
    rw [List.eq_nil_of_length_eq_zero (show tail.length = 0 by omega), List.append_nil] at htail
    exact htail.symm
  rw [hsame, hpart] at hplain hfree hnodrive hcount
  have hsegments := hplain hcount.symm
  rw [Url.pathText_plain hsegments, ← hpath, String.ofList_toList,
    endsInDrive_iff hslash] at hnodrive
  refine ⟨hslash, fun c hc => ?_, ?_, fun c hc => ?_, Bool.eq_false_iff.mpr hnodrive⟩
  · rw [hpath] at hc
    rcases List.mem_cons.mp hc with rfl | hc
    · decide
    · exact ⟨hkept c hc, hfree c hc⟩
  · rw [hpath]
    exact hsegments
  · rw [hpath, List.getLast?_cons] at hc
    cases hrest : rest.getLast? with
    | none =>
        rw [hrest] at hc
        cases hc
        decide
    | some last =>
        rw [hrest] at hc
        cases hc
        exact hvisible last hrest

/-! ## Connections of settings -/

/-- A host and a port of settings. -/
theorem addressUri_tcp {s : RedisSettings} {uri : String} (htcp : s.network = .tcp)
    (h : addressUri s = .ok uri) : ∃ written numeral port,
      s.address.toList = written ++ ':' :: numeral ∧ ':' ∉ numeral ∧
      Text.uint16? (String.ofList numeral) = some port ∧
      uri = hostScheme s ++ "://" ++ String.ofList (addressText written port) := by
  unfold addressUri at h
  rw [htcp] at h
  dsimp only [bind, Except.bind] at h
  split at h
  · cases h
  · rename_i both hboth
    cases h
    obtain ⟨written, numeral, haddress, hfree, hhost, hport⟩ := hostAndPort_ok hboth
    refine ⟨written, numeral, both.2, haddress, hfree, hport, ?_⟩
    rw [hhost]
    unfold addressText hostScheme
    refine String.toList_inj.mp ?_
    simp

/-- The connection is the one that settings describe. -/
structure Describes (s : RedisSettings) (c : Connection) : Prop where
  tcp : s.network = .tcp → ∃ written numeral port name,
    s.address.toList = written ++ ':' :: numeral ∧ ':' ∉ numeral ∧
      Text.uint16? (String.ofList numeral) = some port ∧ Names written name ∧
      c.place = if s.tls then .tls name port.toNat false else .tcp name port.toNat
  unix : s.network = .unix → c.place = .socket s.address
  database : c.database = s.database
  password : c.password = s.password.filter fun p => !p.isEmpty
  username : c.username = none

/-- A host or a path that means itself in a URI. -/
structure PlainAddress (s : RedisSettings) : Prop where
  tcp : s.network = .tcp → ∀ written numeral, s.address.toList = written ++ ':' :: numeral →
    ':' ∉ numeral → ∀ c ∈ written, isPlain c = true
  unix : s.network = .unix → PlainPath s.address

/-- Without a URI, the address is read, and the rest is as set. -/
theorem ofSettings_ok {s : RedisSettings} {c : Connection}
    (huri : ∀ u ∈ s.uri, Text.isBlankText u = true) (h : ofSettings s = .ok c) :
    ∃ uri found, addressUri s = .ok uri ∧ ofUri uri = .ok found ∧
      c = { found with
        database := s.database
        password := s.password.filter fun p => !p.isEmpty } := by
  have hnone : (s.uri.filter fun u => !Text.isBlankText u) = none := by
    refine Option.filter_eq_none_iff.mpr fun u hu => ?_
    simp [huri u hu]
  unfold ofSettings at h
  rw [hnone] at h
  dsimp only [bind, Except.bind] at h
  split at h
  · cases h
  · rename_i uri haddress
    split at h
    · rename_i found hfound
      cases h
      exact ⟨uri, found, haddress, hfound, rfl⟩
    · cases h

theorem addressUri_unix {s : RedisSettings} {uri : String} (hunix : s.network = .unix)
    (h : addressUri s = .ok uri) : uri = "redis+unix://" ++ s.address := by
  unfold addressUri at h
  rw [hunix] at h
  dsimp only at h
  split at h
  · cases h
  · cases h
    rfl

/-- **Where settings lead.** A connection is the one that settings describe just when their host or
path has nothing in it that means something else in a URI. -/
theorem settings_lead {s : RedisSettings} {c : Connection}
    (huri : ∀ u ∈ s.uri, Text.isBlankText u = true) (h : ofSettings s = .ok c) :
    c.database = s.database ∧ c.password = (s.password.filter fun p => !p.isEmpty) ∧
      (s.network = .tcp → ∃ name number insecure,
        c.place = if s.tls then .tls name number insecure else .tcp name number) ∧
      (Describes s c ↔ PlainAddress s) := by
  obtain ⟨uri, found, haddress, hfound, rfl⟩ := ofSettings_ok huri h
  refine ⟨rfl, rfl, ?_⟩
  cases hnetwork : s.network with
  | tcp =>
    obtain ⟨written, numeral, port, htext, hfree, hport, rfl⟩ := addressUri_tcp hnetwork haddress
    obtain ⟨name, number, insecure, hplace, hnames, hplain⟩ := host_leads hfound
    have hnot : s.network ≠ .unix := by simp [hnetwork]
    refine ⟨fun _ => ⟨name, number, insecure, hplace⟩, fun hdescribes => ?_, fun haddress => ?_⟩
    · obtain ⟨host, digits, port', name', hcut, hdigits, _, hhost, hplace'⟩ :=
        hdescribes.tcp hnetwork
      have hname : name' = name := by
        rw [hplace] at hplace'
        split at hplace' <;> cases hplace' <;> rfl
      obtain ⟨rfl, rfl⟩ := cut_unique (hcut.symm.trans htext) hdigits hfree
      refine ⟨fun _ written numeral hcut' hfree' => ?_, fun hunix => absurd hunix hnot⟩
      obtain ⟨rfl, rfl⟩ := cut_unique (hcut.symm.trans hcut') hdigits hfree'
      exact hnames (hname ▸ hhost)
    · obtain ⟨hnamed, hnumber, hinsecure, huser⟩ :=
        hplain (haddress.tcp hnetwork written numeral htext hfree)
      refine ⟨fun _ => ?_, fun hunix => absurd hunix hnot, rfl, rfl, huser⟩
      rw [hnumber, hinsecure] at hplace
      exact ⟨written, numeral, port, name, htext, hfree, hport, hnamed, hplace⟩
  | unix =>
    obtain rfl := addressUri_unix hnetwork haddress
    have hnot : s.network ≠ .tcp := by simp [hnetwork]
    refine ⟨fun htcp => (nomatch htcp), fun hdescribes => ?_, fun haddress => ?_⟩
    · exact ⟨fun htcp => absurd htcp hnot,
        fun hunix => plain_of_socket hfound (hdescribes.unix hunix)⟩
    · rw [socket_leads (haddress.unix hnetwork)] at hfound
      cases hfound
      exact ⟨fun htcp => absurd htcp hnot, fun _ => rfl, rfl, rfl, rfl⟩

/-- Settings whose address and password have characters that would mean something else elsewhere. -/
def secureSettings : RedisSettings where
  address := "[::1]:6380"
  tls := true
  password := some "p@ss/word"
  database := 3

def socketSettings : RedisSettings where
  network := .unix
  address := "/run/tile depot/%/cache:1.sock"

theorem plain_settings_lead :
    (ofSettings secureSettings = .ok ⟨.tls "::1" 6380 false, 3, none, some "p@ss/word"⟩ ∧
      Describes secureSettings ⟨.tls "::1" 6380 false, 3, none, some "p@ss/word"⟩) ∧
    (ofSettings socketSettings = .ok ⟨.socket "/run/tile depot/%/cache:1.sock", 0, none, none⟩ ∧
      Describes socketSettings ⟨.socket "/run/tile depot/%/cache:1.sock", 0, none, none⟩) := by
  have hsecure : ofSettings secureSettings
      = .ok ⟨.tls "::1" 6380 false, 3, none, some "p@ss/word"⟩ := by
    decide +kernel
  have hsocket : ofSettings socketSettings
      = .ok ⟨.socket "/run/tile depot/%/cache:1.sock", 0, none, none⟩ := by
    decide +kernel
  have hsecurePlain : PlainAddress secureSettings := by
    refine ⟨fun _ written numeral hcut hfree => ?_, fun hunix => absurd hunix (by decide)⟩
    have haddress : secureSettings.address.toList = "[::1]".toList ++ ':' :: "6380".toList := by
      decide
    obtain ⟨rfl, -⟩ := cut_unique (haddress.symm.trans hcut) (by decide) hfree
    exact List.all_eq_true.mp (by decide)
  have hsocketPlain : PlainAddress socketSettings := by
    refine ⟨fun htcp => ?_, fun _ => by decide +kernel⟩
    cases htcp
  exact ⟨⟨hsecure, (settings_lead (by decide) hsecure).2.2.2.mpr hsecurePlain⟩,
    ⟨hsocket, (settings_lead (by decide) hsocket).2.2.2.mpr hsocketPlain⟩⟩

/-- What a URI takes for a query or a user is lost to the path or the host. -/
theorem address_read_otherwise :
    (∃ c, ofSettings { network := .unix, address := "/run/a?b.sock" } = .ok c ∧
      c.place = .socket "/run/a" ∧
      ¬ Describes { network := .unix, address := "/run/a?b.sock" } c) ∧
    (∃ c, ofSettings { address := "user@host:80" } = .ok c ∧
      c.place = .tcp "host" 80 ∧ c.username = some "user" ∧
      ¬ Describes { address := "user@host:80" } c) := by
  refine ⟨⟨⟨.socket "/run/a", 0, none, none⟩, by decide +kernel, rfl, fun hdescribes => ?_⟩,
    ⟨⟨.tcp "host" 80, 0, some "user", none⟩, by decide +kernel, rfl, rfl, fun hdescribes => ?_⟩⟩
  · exact absurd (hdescribes.unix rfl) (by decide)
  · exact absurd hdescribes.username (by decide)

end TileDepot.Cache.Connection
