import TileDepot.Config.Derived
import TileDepot.Proofs.Config.Loaded
import TileDepot.Proofs.Config.Sizes

/-!
# Loaded settings can be used

Whatever text settings are loaded from, they are such that a server can run with them
(`Settings.Usable`), and the cache and the runs get them as they are: the least values that runs
insist on are met already (`loaded_settings_usable`). That holds whether home directories are
absolute or not, so it does not go by way of `load_sound`.
-/

namespace TileDepot.Config

open Text (Solid)

/-- Settings that a server can run with. -/
structure Settings.Usable (c : Settings) : Prop where
  maxZoom : c.cache.maxZoom ≤ 22
  database : 0 ≤ c.cache.database
  percentStep : 0 < c.bulk.percentStep ∧ c.bulk.percentStep ≤ 100
  counts : ∀ n ∈ [c.server.remoteTimeout, c.cache.dialTimeout, c.bulk.maxConcurrent,
    c.bulk.tileTimeout, c.bulk.tileStep, c.bulk.queueCapacity, c.postgis.maxConnections], 1 ≤ n
  /-- Texts that have to be there: they are trimmed and not empty. -/
  texts : ∀ v ∈ [c.server.bind, c.cache.address, c.bulk.map, c.bulk.baseUrl, c.postgis.geometry,
    c.logging.level], Solid v
  /-- Texts that may be left out: none is there that is blank. -/
  options : ∀ o ∈ [c.server.remoteUrl, c.cache.password, c.cache.uri, c.postgis.url,
    c.logging.file], ∀ v ∈ o, Text.isBlankText v = false
  maps : ∀ m ∈ c.maps, Solid m.name ∧ Solid m.template
  params : ∀ p ∈ c.params, Solid p.name ∧ Solid p.token ∧ Solid p.fragment

/-! ## The log file -/

theorem not_blank_of_mem {path : String} {c : Char} (hc : c ∈ path.toList)
    (hvisible : Text.isBlank c = false) : Text.isBlankText path = false := by
  rw [Text.isBlankText, List.all_eq_false]
  exact ⟨c, hc, by simp [hvisible]⟩

/-- In whatever directory a file is put, its path is not blank: there is a slash in it. -/
theorem expandHome_not_blank (home : Option String) {path : String}
    (h : Text.isBlankText path = false) : Text.isBlankText (expandHome home path) = false := by
  have hslash : ∀ path' : String, '/' ∈ path'.toList → Text.isBlankText path' = false :=
    fun _ hmem => not_blank_of_mem hmem (by decide)
  rcases expandHome_cases home path with
    hsame | ⟨r, dir, _, _, ⟨hhead, hvalue⟩ | ⟨hlast, hvalue⟩ | hvalue⟩
  · rw [hsame]
    exact h
  · rw [hvalue]
    exact hslash _ (by rw [String.toList_ofList]; exact List.mem_of_mem_head? hhead)
  · rw [hvalue]
    refine hslash _ ?_
    rw [String.toList_append]
    exact List.mem_append_left _ (List.mem_of_getLast? hlast)
  · rw [hvalue]
    exact hslash _ (by simp)

/-- A level, and a log file that has a name. -/
structure Logging.Named (s : Logging) : Prop where
  level : Solid s.level
  file : ∀ f ∈ s.file, Text.isBlankText f = false

theorem Logging.named_rules (home : Option String) :
    ∀ r ∈ loggingRules home, r.Keeps Logging.Named := by
  intro r hr
  simp only [loggingRules, List.mem_cons, List.not_mem_nil, or_false] at hr
  rcases hr with rfl | rfl
  · exact Rule.text_keeps fun t v ht hv => { ht with level := hv }
  · refine Rule.optionalText_keeps fun t o ht ho => { ht with file := ?_ }
    intro f hf
    obtain ⟨path, hpath, rfl⟩ := Option.map_eq_some_iff.1 hf
    exact expandHome_not_blank home (ho path hpath).not_blank

/-! ## A value of its own -/

section Rules

variable {σ α : Type} {f : σ → α} {s : IniSection} {name : String}

/-- The rule has nothing to do with this part of the settings. -/
def Rule.Spares (f : σ → α) (r : Rule σ) : Prop :=
  ∀ a, r.Keeps fun t => f t = a

theorem readAll_append (rules rules' : List (Rule σ)) (t : σ) :
    Rule.readAll s name (rules ++ rules') t =
      Rule.readAll s name rules t >>= Rule.readAll s name rules' := by
  induction rules generalizing t with
  | nil => rfl
  | cons r rules ih =>
      rw [List.cons_append, Rule.readAll, Rule.readAll]
      split
      · exact ih t
      · split
        · exact ih _
        · rfl

/-- A part that one rule alone writes is what this rule makes of the value under its key; without
one it stays as it was. -/
theorem readAll_own {before after : List (Rule σ)} {r : Rule σ}
    (hbefore : ∀ r' ∈ before, r'.Spares f) (hafter : ∀ r' ∈ after, r'.Spares f) {t t' : σ}
    (h : Rule.readAll s name (before ++ r :: after) t = .ok t') :
    match s.get? r.key with
    | none => f t' = f t
    | some v => ∃ t₁ t₂, r.read v t₁ = .ok t₂ ∧ f t' = f t₂ := by
  rw [readAll_append] at h
  obtain ⟨t₁, hfirst, h⟩ := bind_ok h
  have hkept : f t₁ = f t := readAll_keeps (fun r' hr' => hbefore r' hr' (f t)) rfl hfirst
  have hrest : ∀ {t₂}, Rule.readAll s name after t₂ = .ok t' → f t' = f t₂ :=
    fun {t₂} hlast => readAll_keeps (fun r' hr' => hafter r' hr' (f t₂)) rfl hlast
  unfold Rule.readAll at h
  cases hget : s.get? r.key with
  | none =>
      rw [hget] at h
      exact (hrest h).trans hkept
  | some v =>
      rw [hget] at h
      dsimp only at h ⊢
      split at h
      · rename_i t₂ hread
        exact ⟨t₁, t₂, hread, hrest h⟩
      · cases h

end Rules

/-- The size of the memory is the one that is written under its key: no other rule of the cache
writes it. -/
theorem memorySize_written {s : IniSection} {name : String} {c : CacheSection}
    (h : Rule.readAll s name cacheRules {} = .ok c) :
    match s.get? "memory_size" with
    | none => c.memorySize = 268435456
    | some v => SaysSize (Text.trimChars v.toList) c.memorySize.toNat := by
  have hbefore : ∀ r ∈ cacheRules.take 3, r.Spares CacheSection.memorySize := by
    intro r hr a
    simp only [cacheRules, List.take, List.mem_cons, List.not_mem_nil, or_false] at hr
    rcases hr with rfl | rfl | rfl
    · exact Rule.ofExcept_keeps fun t v x ht hx => ht
    · exact Rule.ofOption_keeps fun t v n ht hn => ht
    · exact Rule.ofOption_keeps fun t v n ht hn => ht
  have hafter : ∀ r ∈ cacheRules.drop 4, r.Spares CacheSection.memorySize := by
    intro r hr a
    simp only [cacheRules, List.drop, List.mem_cons, List.not_mem_nil, or_false] at hr
    rcases hr with rfl | rfl | rfl | rfl | rfl | rfl | rfl | rfl
    · exact Rule.ofExcept_keeps fun t v x ht hx => ht
    · exact Rule.text_keeps fun t v ht hv => ht
    · exact Rule.optionalText_keeps fun t o ht ho => ht
    · exact Rule.ofOption_keeps fun t v n ht hn => ht
    · exact Rule.ofOption_keeps fun t v b ht hb => ht
    · exact Rule.optionalText_keeps fun t o ht ho => ht
    · exact Rule.ofOption_keeps fun t v n ht hn => ht
    · exact Rule.ofOption_keeps fun t v items ht hitems => ht
  have hown := readAll_own hbefore hafter (r := cacheRules[3]) h
  change match s.get? "memory_size" with
    | none => c.memorySize = 268435456
    | some v => ∃ t₁ t₂, cacheRules[3].read v t₁ = .ok t₂ ∧ c.memorySize = t₂.memorySize at hown
  cases hget : s.get? "memory_size" with
  | none =>
      rw [hget] at hown
      exact hown
  | some v =>
      rw [hget] at hown
      obtain ⟨t₁, t₂, hread, hsame⟩ := hown
      simp only [cacheRules, List.getElem_cons_succ, List.getElem_cons_zero, Rule.ofExcept] at hread
      rw [hsame]
      refine parseSize_eq_some_iff.mp ?_
      cases hsize : parseSize? v with
      | none =>
          rw [hsize] at hread
          cases hread
      | some n =>
          rw [hsize] at hread
          cases hread
          rfl

/-! ## What is done with settings -/

theorem Settings.ReadFrom.usable {home : Option String} {t : IniText} {c : Settings}
    (h : c.ReadFrom home t) : c.Usable := by
  have hserver := readSection_keeps Server.sound_rules Server.sound_default h.server
  have hcache := readSection_keeps CacheSection.sound_rules CacheSection.sound_default h.cache
  have hbulk := readSection_keeps Bulk.sound_rules Bulk.sound_default h.bulk
  have hpostgis := readSection_keeps Postgis.sound_rules Postgis.sound_default h.postgis
  have hlogging : c.logging.Named :=
    readSection_keeps (Logging.named_rules home) ⟨⟨by decide, by decide⟩, by simp⟩ h.logging
  obtain ⟨hpositive, hatMost⟩ := Bool.and_eq_true _ _ ▸ hbulk.percentStep
  exact {
    maxZoom := UInt32.le_iff_toNat_le.mpr hcache.maxZoom
    database := hcache.database
    percentStep := ⟨of_decide_eq_true hpositive, of_decide_eq_true hatMost⟩
    counts := by
      simp only [List.forall_mem_cons]
      exact ⟨hserver.remoteTimeout.1, hcache.dialTimeout.1, hbulk.maxConcurrent.1,
        hbulk.tileTimeout.1, hbulk.tileStep.1, hbulk.queueCapacity.1, hpostgis.maxConnections.1,
        by simp⟩
    texts := by
      simp only [List.forall_mem_cons]
      exact ⟨hserver.bind, hcache.address, hbulk.map, hbulk.baseUrl, hpostgis.geometry,
        hlogging.level, by simp⟩
    options := by
      simp only [List.forall_mem_cons]
      exact ⟨fun v hv => (hserver.remoteUrl v hv).not_blank,
        fun v hv => (hcache.password v hv).not_blank, fun v hv => (hcache.uri v hv).not_blank,
        fun v hv => (hpostgis.url v hv).not_blank, hlogging.file, by simp⟩
    maps := fun m hm => ⟨(h.maps m hm).name, (h.maps m hm).template⟩
    params := fun p hp => ⟨(h.params p hp).name, (h.params p hp).token, (h.params p hp).fragment⟩ }

/-- Runs get their settings as they are, as soon as these have room for a tile and an update. -/
theorem runSettings_eq {c : Settings} (hplaces : 1 ≤ c.bulk.maxConcurrent)
    (hqueue : 1 ≤ c.bulk.queueCapacity) :
    c.runSettings = {
      maxConcurrent := c.bulk.maxConcurrent
      tileTimeout := .ofSeconds c.bulk.tileTimeout
      throttle := ⟨c.bulk.tileStep, c.bulk.percentStep⟩
      queueCapacity := c.bulk.queueCapacity
      initialDelay := .ofMillis c.bulk.initialDelay
      map := c.bulk.map } := by
  unfold Settings.runSettings Warming.RunSettings.clamped
  dsimp only
  rw [Nat.max_eq_left hplaces, Nat.max_eq_left hqueue]

/-- The cache's settings have the values of their section. -/
def Settings.Backs (c : Settings) : Cache.Settings → Prop
  | .none => c.cache.store = .none
  | .memory m => c.cache.store = .memory ∧ m.maxBytes = c.cache.memorySize ∧
      m.maxZoom = c.cache.maxZoom ∧ m.timeToLive = c.cache.timeToLive
  | .redis r => c.cache.store = .redis ∧ r.network = c.cache.network ∧
      r.address = c.cache.address ∧ r.password = c.cache.password ∧
      r.database = c.cache.database ∧ r.tls = c.cache.tls ∧ r.maxZoom = c.cache.maxZoom ∧
      r.timeToLive = c.cache.timeToLive ∧ r.uri = c.cache.uri ∧
      r.dialTimeout = .ofMillis c.cache.dialTimeout

theorem backs_cacheSettings (c : Settings) : c.Backs c.cacheSettings := by
  unfold Settings.cacheSettings
  dsimp only
  split
  · rename_i hstore
    exact hstore
  · rename_i hstore
    exact ⟨hstore, rfl, rfl, rfl⟩
  · rename_i hstore
    exact ⟨hstore, rfl, rfl, rfl, rfl, rfl, rfl, rfl, rfl, rfl⟩

/--
**Loaded settings can be used, and they are used as they are written.**

From whatever text settings are loaded, a server can run with them. The memory has the size that is
written, or the default if none is. Runs and the cache are given the values of their sections, with
no least value put in the place of any.
-/
theorem loaded_settings_usable {home : Option String} {text : String} {c : Settings}
    (h : Settings.load home text = .ok c) :
    c.Usable ∧
    (∃ t, IniText.parse text = .ok t ∧
      match (t.section? "cache").bind fun s => s.get? "memory_size" with
      | none => c.cache.memorySize = 268435456
      | some v => SaysSize (Text.trimChars v.toList) c.cache.memorySize.toNat) ∧
    c.runSettings = {
      maxConcurrent := c.bulk.maxConcurrent
      tileTimeout := .ofSeconds c.bulk.tileTimeout
      throttle := ⟨c.bulk.tileStep, c.bulk.percentStep⟩
      queueCapacity := c.bulk.queueCapacity
      initialDelay := .ofMillis c.bulk.initialDelay
      map := c.bulk.map } ∧
    c.Backs c.cacheSettings := by
  obtain ⟨t, ht, hread⟩ := load_reads h
  have husable := hread.usable
  have hplaces : 1 ≤ c.bulk.maxConcurrent := husable.counts _ (by simp)
  have hqueue : 1 ≤ c.bulk.queueCapacity := husable.counts _ (by simp)
  refine ⟨husable, ⟨t, ht, ?_⟩, runSettings_eq hplaces hqueue, ?_⟩
  · have hcache := hread.cache
    unfold readSection at hcache
    cases hsection : t.section? "cache" with
    | none =>
        rw [hsection] at hcache
        rw [← Except.ok.inj hcache]
        rfl
    | some s =>
        rw [hsection] at hcache
        exact memorySize_written hcache
  · exact backs_cacheSettings c

set_option maxRecDepth 20000 in
/-- A small memory, one tile at a time, and a log file in the home directory itself. -/
theorem frugal_settings_usable : ∃ c : Settings,
    Settings.load (some "depot")
      "[cache]\nmemory_size = 2 kb\n[bulk]\nmax_concurrent = +1\n[logging]\nfile = ~/\n" = .ok c ∧
    c.cache.memorySize = 2048 ∧ c.logging.file = some "depot/" ∧ c.Usable ∧
    c.runSettings.maxConcurrent = 1 := by
  have hload : Settings.load (some "depot")
      "[cache]\nmemory_size = 2 kb\n[bulk]\nmax_concurrent = +1\n[logging]\nfile = ~/\n" =
        .ok {
          cache := { memorySize := 2048 }
          bulk := { maxConcurrent := 1 }
          logging := { file := some "depot/" } } := rfl
  obtain ⟨husable, _, hruns, _⟩ := loaded_settings_usable hload
  exact ⟨_, hload, rfl, rfl, husable, by rw [hruns]⟩

end TileDepot.Config
