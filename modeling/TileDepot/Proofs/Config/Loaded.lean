import TileDepot.Proofs.Config.Values

/-!
# What loaded settings satisfy

Each rule checks the value of one key, and each default passes the check of its own. So whatever
text settings are loaded from, every number of theirs is within its limits, every text is there and
trimmed, and the items of lists have no commas (`load_sound`). The one value that depends on more
than its text is the log file, whose home directory is filled in when it is read; since home
directories are absolute, that happens once only.
-/

namespace TileDepot.Config

open Text (Solid)

/-- A chain that comes to a value has come to one at its first step. -/
theorem bind_ok {ε α β : Type} {x : Except ε α} {f : α → Except ε β} {b : β}
    (h : x >>= f = .ok b) : ∃ a, x = .ok a ∧ f a = .ok b := by
  cases x with
  | error e => cases h
  | ok a => exact ⟨a, rfl, h⟩

/-! ## Rules that keep a property -/

section Rules

variable {σ : Type} {P : σ → Prop}

/-- Whatever value the rule takes, it keeps `P`. -/
def Rule.Keeps (P : σ → Prop) (r : Rule σ) : Prop :=
  ∀ v t t', P t → r.read v t = .ok t' → P t'

theorem readAll_keeps {s : IniSection} {name : String} {rules : List (Rule σ)}
    (hrules : ∀ r ∈ rules, r.Keeps P) {t t' : σ} (ht : P t)
    (h : Rule.readAll s name rules t = .ok t') : P t' := by
  induction rules generalizing t with
  | nil =>
      cases h
      exact ht
  | cons r rules ih =>
      have hrest := fun r' hr' => hrules r' (List.mem_cons_of_mem _ hr')
      unfold Rule.readAll at h
      split at h
      · exact ih hrest ht h
      · rename_i v hv
        split at h
        · rename_i t₁ hread
          exact ih hrest (hrules r List.mem_cons_self v t t₁ ht hread) h
        · cases h

theorem readSection_keeps {t : IniText} {name : String} {rules : List (Rule σ)}
    (hrules : ∀ r ∈ rules, r.Keeps P) {s s' : σ} (hs : P s)
    (h : readSection t name rules s = .ok s') : P s' := by
  unfold readSection at h
  split at h
  · exact readAll_keeps hrules hs h
  · cases h
    exact hs

theorem Rule.text_keeps {key : String} {put : σ → String → σ}
    (hput : ∀ t v, P t → Solid v → P (put t v)) : (Rule.text key put).Keeps P := by
  intro v t t' ht h
  cases h
  split
  · exact ht
  · rename_i hblank
    exact hput t _ ht (Text.solid_trim (by simpa using hblank))

theorem Rule.optionalText_keeps {key : String} {put : σ → Option String → σ}
    (hput : ∀ t (o : Option String), P t → (∀ v ∈ o, Solid v) → P (put t o)) :
    (Rule.optionalText key put).Keeps P := by
  intro v t t' ht h
  cases h
  apply hput _ _ ht
  intro w hw
  split at hw
  · cases hw
  · rename_i hblank
    cases hw
    exact Text.solid_trim (by simpa using hblank)

theorem Rule.ofOption_keeps {α : Type} {key reason : String} {read? : String → Option α}
    {put : σ → α → σ} (hput : ∀ t v a, P t → read? v = some a → P (put t a)) :
    (Rule.ofOption key reason read? put).Keeps P := by
  intro v t t' ht h
  simp only [Rule.ofOption] at h
  split at h
  · rename_i a ha
    cases h
    exact hput t v a ht ha
  · cases h

theorem Rule.ofExcept_keeps {α : Type} {key : String} {read : String → Except String α}
    {put : σ → α → σ} (hput : ∀ t v a, P t → read v = .ok a → P (put t a)) :
    (Rule.ofExcept key read put).Keeps P := by
  intro v t t' ht h
  simp only [Rule.ofExcept] at h
  cases hread : read v with
  | error e =>
    rw [hread] at h
    cases h
  | ok a =>
    rw [hread] at h
    cases h
    exact hput t v a ht hread

end Rules

/-! ## Numbers -/

theorem natural_lt {limit n : Nat} {v : String} (h : Rule.natural? limit v = some n) :
    n < limit := by
  unfold Rule.natural? Text.natural? at h
  have := (Option.filter_eq_some_iff.1 h).2
  simpa using this

theorem positive_lt {limit n : Nat} {v : String} (h : Rule.positive? limit v = some n) :
    0 < n ∧ n < limit := by
  obtain ⟨hread, hpos⟩ := Option.filter_eq_some_iff.1 h
  exact ⟨by simpa using hpos, natural_lt hread⟩

/-! ## Each section -/

structure Server.Sound (s : Server) : Prop where
  bind : Solid s.bind
  remoteUrl : ∀ v ∈ s.remoteUrl, Solid v
  remoteTimeout : 0 < s.remoteTimeout ∧ s.remoteTimeout < UInt64.size

structure CacheSection.Sound (s : CacheSection) : Prop where
  maxZoom : s.maxZoom.toNat ≤ Grid.maxZoom.toNat
  address : Solid s.address
  password : ∀ v ∈ s.password, Solid v
  database : 0 ≤ s.database
  uri : ∀ v ∈ s.uri, Solid v
  dialTimeout : 0 < s.dialTimeout ∧ s.dialTimeout < UInt64.size
  cacheable : ∀ i ∈ s.cacheable, IsItem i

structure Bulk.Sound (s : Bulk) : Prop where
  maxConcurrent : 0 < s.maxConcurrent ∧ s.maxConcurrent < UInt64.size
  tileTimeout : 0 < s.tileTimeout ∧ s.tileTimeout < UInt64.size
  tileStep : 0 < s.tileStep ∧ s.tileStep < UInt64.size
  percentStep : (decide (s.percentStep > 0.0) && decide (s.percentStep ≤ 100.0)) = true
  queueCapacity : 0 < s.queueCapacity ∧ s.queueCapacity < UInt64.size
  initialDelay : s.initialDelay < UInt64.size
  map : Solid s.map
  baseUrl : Solid s.baseUrl
  address : ∃ u, Url.parse s.baseUrl = .ok u

structure Postgis.Sound (s : Postgis) : Prop where
  url : ∀ v ∈ s.url, Solid v
  maxConnections : 0 < s.maxConnections ∧ s.maxConnections < UInt32.size
  geometry : Solid s.geometry

/-- The log file is the one that is opened: its home directory is filled in already. -/
structure Logging.Sound (home : Option String) (s : Logging) : Prop where
  level : Solid s.level
  file : ∀ f ∈ s.file, Solid f ∧ expandHome home f = f

structure MapSection.Sound (m : MapSection) : Prop where
  name : Solid m.name
  template : Solid m.template
  params : ∀ i ∈ m.params, IsItem i

structure ParamSection.Sound (p : ParamSection) : Prop where
  name : Solid p.name
  token : Solid p.token
  fragment : Solid p.fragment

theorem Server.sound_default : Server.Sound {} where
  bind := ⟨by decide, by decide⟩
  remoteUrl := by
    intro v hv
    cases hv
  remoteTimeout := by decide

theorem Server.sound_rules : ∀ r ∈ serverRules, r.Keeps Server.Sound := by
  intro r hr
  simp only [serverRules, List.mem_cons, List.not_mem_nil, or_false] at hr
  rcases hr with rfl | rfl | rfl | rfl
  · exact Rule.text_keeps fun t v ht hv => { ht with bind := hv }
  · exact Rule.ofExcept_keeps fun t v a ht ha => { ht with }
  · exact Rule.optionalText_keeps fun t o ht ho => { ht with remoteUrl := ho }
  · exact Rule.ofOption_keeps fun t v n ht hn => { ht with remoteTimeout := positive_lt hn }

theorem CacheSection.sound_default : CacheSection.Sound {} where
  maxZoom := by decide
  address := ⟨by decide, by decide⟩
  password := by
    intro v hv
    cases hv
  database := by decide
  uri := by
    intro v hv
    cases hv
  dialTimeout := by decide
  cacheable := by
    intro i hi
    have hall : ∀ i ∈ Cache.defaultCacheable, Text.trim i = i ∧ i ≠ "" ∧ ',' ∉ i.toList := by
      decide
    obtain ⟨h1, h2, h3⟩ := hall i hi
    exact ⟨⟨h1, h2⟩, h3⟩

theorem CacheSection.sound_rules : ∀ r ∈ cacheRules, r.Keeps CacheSection.Sound := by
  intro r hr
  simp only [cacheRules, List.mem_cons, List.not_mem_nil, or_false] at hr
  rcases hr with rfl | rfl | rfl | rfl | rfl | rfl | rfl | rfl | rfl | rfl | rfl | rfl
  · exact Rule.ofExcept_keeps fun t v a ht ha => { ht with }
  · refine Rule.ofOption_keeps fun t v n ht hn => { ht with maxZoom := ?_ }
    obtain ⟨hread, hzoom⟩ := Option.filter_eq_some_iff.1 hn
    change (UInt32.ofNat n).toNat ≤ Grid.maxZoom.toNat
    rw [UInt32.toNat_ofNat_of_lt' (natural_lt hread)]
    simpa using hzoom
  · exact Rule.ofOption_keeps fun t v n ht hn => { ht with }
  · exact Rule.ofExcept_keeps fun t v a ht ha => { ht with }
  · exact Rule.ofExcept_keeps fun t v a ht ha => { ht with }
  · exact Rule.text_keeps fun t v ht hv => { ht with address := hv }
  · exact Rule.optionalText_keeps fun t o ht ho => { ht with password := ho }
  · refine Rule.ofOption_keeps fun t v n ht hn => { ht with database := ?_ }
    simpa using (Option.filter_eq_some_iff.1 hn).2
  · exact Rule.ofOption_keeps fun t v b ht hb => { ht with }
  · exact Rule.optionalText_keeps fun t o ht ho => { ht with uri := ho }
  · exact Rule.ofOption_keeps fun t v n ht hn => { ht with dialTimeout := positive_lt hn }
  · refine Rule.ofOption_keeps fun t v items ht hitems => { ht with cacheable := ?_ }
    cases hitems
    exact fun i hi => isItem_of_mem hi

theorem Bulk.sound_default : Bulk.Sound {} where
  maxConcurrent := by decide
  tileTimeout := by decide
  tileStep := by decide
  percentStep := by decide +kernel
  queueCapacity := by decide
  initialDelay := by decide
  map := ⟨by decide, by decide⟩
  baseUrl := ⟨by decide, by decide⟩
  address := by
    have hok : (Url.parse "http://127.0.0.1:19089").isOk = true := by decide +kernel
    cases h : Url.parse "http://127.0.0.1:19089" with
    | ok u => exact ⟨u, rfl⟩
    | error f =>
      rw [h] at hok
      cases hok

theorem Bulk.sound_rules : ∀ r ∈ bulkRules, r.Keeps Bulk.Sound := by
  intro r hr
  simp only [bulkRules, List.mem_cons, List.not_mem_nil, or_false] at hr
  rcases hr with rfl | rfl | rfl | rfl | rfl | rfl | rfl | rfl | rfl
  · exact Rule.ofOption_keeps fun t v n ht hn => { ht with maxConcurrent := positive_lt hn }
  · exact Rule.ofOption_keeps fun t v n ht hn => { ht with tileTimeout := positive_lt hn }
  · exact Rule.ofOption_keeps fun t v n ht hn => { ht with tileStep := positive_lt hn }
  · refine Rule.ofExcept_keeps fun t v x ht hx => { ht with percentStep := ?_ }
    unfold Config.percentStep at hx
    split at hx
    · cases hx
    · split at hx
      · rename_i hshare
        cases hx
        exact hshare
      · cases hx
  · exact Rule.ofOption_keeps fun t v n ht hn => { ht with queueCapacity := positive_lt hn }
  · exact Rule.ofOption_keeps fun t v n ht hn => { ht with initialDelay := natural_lt hn }
  · exact Rule.text_keeps fun t v ht hv => { ht with map := hv }
  · exact Rule.ofExcept_keeps fun t v a ht ha => { ht with }
  · intro v t t' ht h
    simp only [baseUrlRule] at h
    split at h
    · cases h
      exact ht
    · rename_i hblank
      split at h
      · rename_i u hu
        cases h
        exact { ht with baseUrl := Text.solid_trim (by simpa using hblank), address := ⟨u, hu⟩ }
      · cases h

theorem Postgis.sound_default : Postgis.Sound {} where
  url := by
    intro v hv
    cases hv
  maxConnections := by decide
  geometry := ⟨by decide, by decide⟩

theorem Postgis.sound_rules : ∀ r ∈ postgisRules, r.Keeps Postgis.Sound := by
  intro r hr
  simp only [postgisRules, List.mem_cons, List.not_mem_nil, or_false] at hr
  rcases hr with rfl | rfl | rfl
  · exact Rule.optionalText_keeps fun t o ht ho => { ht with url := ho }
  · exact Rule.ofOption_keeps fun t v n ht hn => { ht with maxConnections := positive_lt hn }
  · exact Rule.text_keeps fun t v ht hv => { ht with geometry := hv }

/-! ## The log file -/

/-- The home directory, where there is one, has an absolute path. -/
def Rooted (home : Option String) : Prop :=
  ∀ h ∈ home, h.toList.head? = some '/'

/-- An absolute path needs no home directory. -/
theorem expandHome_absolute {path : String} (h : path.toList.head? = some '/')
    (home : Option String) : expandHome home path = path := by
  unfold expandHome
  split
  · rename_i heq
    rw [heq] at h
    cases h
  · rfl

/-- What filling in the home directory makes of a path. -/
theorem expandHome_cases (home : Option String) (path : String) :
    expandHome home path = path ∨
    ∃ r dir, path.toList = '~' :: '/' :: r ∧ home = some dir ∧
      (r.head? = some '/' ∧ expandHome home path = String.ofList r ∨
        dir.toList.getLast? = some '/' ∧ expandHome home path = dir ++ String.ofList r ∨
        expandHome home path = dir ++ "/" ++ String.ofList r) := by
  cases home with
  | none =>
      left
      unfold expandHome
      split
      · rename_i heq
        cases heq
      · rfl
  | some dir =>
    by_cases htilde : ∃ r, path.toList = '~' :: '/' :: r
    · obtain ⟨r, hr⟩ := htilde
      have hvalue : expandHome (some dir) path =
          if r.head? == some '/' then String.ofList r
          else if dir.toList.getLast? == some '/' then dir ++ String.ofList r
          else dir ++ "/" ++ String.ofList r := by
        unfold expandHome
        rw [hr]
        rfl
      refine .inr ⟨r, dir, hr, rfl, ?_⟩
      rw [hvalue]
      split
      · rename_i hslash
        exact .inl ⟨beq_iff_eq.1 hslash, rfl⟩
      · split
        · rename_i hend
          exact .inr (.inl ⟨beq_iff_eq.1 hend, rfl⟩)
        · exact .inr (.inr rfl)
    · left
      unfold expandHome
      split
      · rename_i r _ heq _
        exact absurd ⟨r, heq⟩ htilde
      · rfl

/-- A path in another directory is there if the path in the home directory is. -/
theorem solid_moved {front r : List Char} (hfront : front = [] ∨ front.getLast? = some '/')
    (hhead : (front ++ r).head? = some '/') {path : String} (hpath : path.toList = '~' :: '/' :: r)
    (h : Solid path) : Solid (String.ofList (front ++ r)) := by
  have hblank : Text.isBlank '/' = false := by decide
  have hlast := (Text.trim_eq_self_iff.1 h.trim).2
  refine ⟨Text.trim_eq_self_iff.2 ⟨?_, ?_⟩, ?_⟩
  · rw [String.toList_ofList, hhead]
    intro c hc
    cases hc
    exact hblank
  · rw [String.toList_ofList]
    intro c hc
    rw [List.getLast?_append] at hc
    cases hr : r.getLast? with
    | some d =>
      have hpath' : path.toList = ['~', '/'] ++ r := hpath
      apply hlast c
      rw [hpath', List.getLast?_append, hr]
      rw [hr] at hc
      exact hc
    | none =>
      rw [hr, Option.none_or] at hc
      rcases hfront with rfl | hfront
      · cases hc
      · rw [hfront] at hc
        cases hc
        exact hblank
  · intro hempty
    have hnil := congrArg String.toList hempty
    rw [String.toList_ofList] at hnil
    rw [hnil] at hhead
    cases hhead

theorem expandHome_sound {home : Option String} (hroot : Rooted home) {path : String}
    (h : Solid path) :
    Solid (expandHome home path) ∧ expandHome home (expandHome home path) = expandHome home path := by
  -- in the home directory the path becomes absolute, and elsewhere it stays
  have hmoved : ∀ front r : List Char, path.toList = '~' :: '/' :: r →
      (front = [] ∨ front.getLast? = some '/') → (front ++ r).head? = some '/' →
      ∀ path', path'.toList = front ++ r → Solid path' ∧ expandHome home path' = path' := by
    intro front r hpath hfront hhead path' hpath'
    have hsolid := solid_moved hfront hhead hpath h
    rw [← hpath', String.ofList_toList] at hsolid
    exact ⟨hsolid, expandHome_absolute (by rw [hpath']; exact hhead) home⟩
  rcases expandHome_cases home path with hsame | ⟨r, dir, hpath, rfl, hcase⟩
  · rw [hsame]
    exact ⟨h, hsame⟩
  · have hdir := hroot dir rfl
    have hfirst : ∀ cs : List Char, (dir.toList ++ cs).head? = some '/' := by
      intro cs
      rw [List.head?_append, hdir]
      rfl
    rcases hcase with ⟨hslash, heq⟩ | ⟨hend, heq⟩ | heq
    · exact hmoved [] r hpath (.inl rfl) hslash _ (by rw [heq]; simp)
    · exact hmoved dir.toList r hpath (.inr hend) (hfirst r) _ (by rw [heq]; simp)
    · have hfront : (dir.toList ++ ['/']).getLast? = some '/' := by simp
      refine hmoved (dir.toList ++ ['/']) r hpath (.inr hfront) ?_ _ (by rw [heq]; simp)
      rw [List.append_assoc]
      exact hfirst _

theorem Logging.sound_default (home : Option String) : Logging.Sound home {} where
  level := ⟨by decide, by decide⟩
  file := by
    intro f hf
    cases hf

theorem Logging.sound_rules {home : Option String} (hroot : Rooted home) :
    ∀ r ∈ loggingRules home, r.Keeps (Logging.Sound home) := by
  intro r hr
  simp only [loggingRules, List.mem_cons, List.not_mem_nil, or_false] at hr
  rcases hr with rfl | rfl
  · exact Rule.text_keeps fun t v ht hv => { ht with level := hv }
  · refine Rule.optionalText_keeps fun t o ht ho => { ht with file := ?_ }
    intro f hf
    obtain ⟨path, hpath, rfl⟩ := Option.map_eq_some_iff.1 hf
    exact expandHome_sound hroot (ho path hpath)

/-! ## Maps and parameters -/

theorem required_solid {s : IniSection} {name key reason v : String}
    (h : required s name key reason = .ok v) : Solid v := by
  unfold required at h
  split at h
  · rename_i w hw
    cases h
    exact Text.solid_trim (by simpa using (Option.filter_eq_some_iff.1 hw).2)
  · cases h

theorem readMap_sound {s : IniSection} {name suffix : String} {m : MapSection}
    (h : readMap s name suffix = .ok m) : m.Sound := by
  unfold readMap at h
  split at h
  · cases h
  · rename_i hblank
    obtain ⟨template, htemplate, h⟩ := bind_ok h
    cases h
    exact {
      name := Text.solid_trim (by simpa using hblank)
      template := required_solid htemplate
      params := fun i hi => isItem_of_mem hi }

theorem readParam_sound {s : IniSection} {name suffix : String} {p : ParamSection}
    (h : readParam s name suffix = .ok p) : p.Sound := by
  unfold readParam at h
  cases hblank : Text.isBlankText suffix with
  | true =>
    rw [hblank] at h
    cases h
  | false =>
    simp only [hblank, Bool.false_eq_true, if_false] at h
    obtain ⟨token, htoken, h⟩ := bind_ok h
    obtain ⟨fragment, hfragment, h⟩ := bind_ok h
    have hp : ∃ kind, ⟨Text.trim suffix, token, fragment, kind, s.get? "default"⟩ = p := by
      split at h
      · cases h
        exact ⟨_, rfl⟩
      · split at h
        · cases h
          exact ⟨_, rfl⟩
        · cases h
    obtain ⟨kind, rfl⟩ := hp
    exact {
      name := Text.solid_trim hblank
      token := required_solid htoken
      fragment := required_solid hfragment }

/-! ## Everything -/

structure Settings.Sound (home : Option String) (c : Settings) : Prop where
  server : c.server.Sound
  cache : c.cache.Sound
  bulk : c.bulk.Sound
  postgis : c.postgis.Sound
  logging : c.logging.Sound home
  maps : ∀ m ∈ c.maps, m.Sound
  params : ∀ p ∈ c.params, p.Sound

/-- Reading maps and parameters adds to what is there, and all that it adds is as it should be. -/
theorem readDefinitions_adds {ss : List IniSection} {c c' : Settings}
    (h : readDefinitions c ss = .ok c') : ∃ ms ps,
      c' = { c with maps := c.maps ++ ms, params := c.params ++ ps } ∧
      (∀ m ∈ ms, m.Sound) ∧ ∀ p ∈ ps, p.Sound := by
  induction ss generalizing c with
  | nil =>
      cases h
      exact ⟨[], [], by simp, by simp, by simp⟩
  | cons s ss ih =>
      unfold readDefinitions at h
      split at h
      · exact ih h
      · split at h
        · obtain ⟨m, hm, h⟩ := bind_ok h
          obtain ⟨ms, ps, rfl, hms, hps⟩ := ih h
          exact ⟨m :: ms, ps, by simp, List.forall_mem_cons.2 ⟨readMap_sound hm, hms⟩, hps⟩
        · obtain ⟨p, hp, h⟩ := bind_ok h
          obtain ⟨ms, ps, rfl, hms, hps⟩ := ih h
          exact ⟨ms, p :: ps, by simp, hms, List.forall_mem_cons.2 ⟨readParam_sound hp, hps⟩⟩
        · exact ih h

/-- Where the settings of an INI text come from: each section is read by its own rules. -/
structure Settings.ReadFrom (home : Option String) (t : IniText) (c : Settings) : Prop where
  server : readSection t "server" serverRules {} = .ok c.server
  cache : readSection t "cache" cacheRules {} = .ok c.cache
  bulk : readSection t "bulk" bulkRules {} = .ok c.bulk
  postgis : readSection t "postgis" postgisRules {} = .ok c.postgis
  logging : readSection t "logging" (loggingRules home) {} = .ok c.logging
  maps : ∀ m ∈ c.maps, m.Sound
  params : ∀ p ∈ c.params, p.Sound

theorem load_reads {home : Option String} {s : String} {c : Settings}
    (h : Settings.load home s = .ok c) : ∃ t, IniText.parse s = .ok t ∧ c.ReadFrom home t := by
  unfold Settings.load at h
  split at h
  · cases h
  · rename_i t ht
    cases hini : Settings.ofIni home t with
    | error e =>
      rw [hini] at h
      cases h
    | ok c' =>
      rw [hini] at h
      cases h
      unfold Settings.ofIni at hini
      obtain ⟨server, hserver, hini⟩ := bind_ok hini
      obtain ⟨cache, hcache, hini⟩ := bind_ok hini
      obtain ⟨bulk, hbulk, hini⟩ := bind_ok hini
      obtain ⟨postgis, hpostgis, hini⟩ := bind_ok hini
      obtain ⟨logging, hlogging, hini⟩ := bind_ok hini
      obtain ⟨ms, ps, rfl, hms, hps⟩ := readDefinitions_adds hini
      exact ⟨t, ht, hserver, hcache, hbulk, hpostgis, hlogging, hms, hps⟩

/-- **Whatever is loaded is within its limits**, and its texts are there and trimmed. -/
theorem load_sound {home : Option String} (hroot : Rooted home) {s : String} {c : Settings}
    (h : Settings.load home s = .ok c) : c.Sound home := by
  obtain ⟨t, _, hread⟩ := load_reads h
  exact {
    server := readSection_keeps Server.sound_rules Server.sound_default hread.server
    cache := readSection_keeps CacheSection.sound_rules CacheSection.sound_default hread.cache
    bulk := readSection_keeps Bulk.sound_rules Bulk.sound_default hread.bulk
    postgis := readSection_keeps Postgis.sound_rules Postgis.sound_default hread.postgis
    logging :=
      readSection_keeps (Logging.sound_rules hroot) (Logging.sound_default home) hread.logging
    maps := hread.maps
    params := hread.params }

end TileDepot.Config
