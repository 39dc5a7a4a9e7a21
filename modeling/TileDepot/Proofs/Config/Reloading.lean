import TileDepot.Proofs.Config.Loaded
import TileDepot.Proofs.Pairs

/-!
# Saved settings are loaded again

Saving writes each section row by row in the order in which its rules read them. `Restores` says of
rules and rows side by side where the rules lead with what is read of the rows. It is built up row
by row, and what is loaded of saved settings follows from it for each section (`load_written`). The
settings come back as they were (`load_saved`), so long as all texts of one's own are such that a
line keeps them (`Settings.Writable`): they are written as they are, although the reader takes
quotes off and resolves escapes (`backslash_lost`).
-/

namespace TileDepot.Config

open Text (Solid)

/-! ## Rules and rows side by side -/

section Rules

variable {σ : Type} {rules : List (Rule σ)} {rows : List Row} {t t' : σ}

/-- What is read of the rows, one key after the other, leads the rules from `t` to `t'`. -/
inductive Restores : List (Rule σ) → List Row → σ → σ → Prop where
  | nil {t : σ} : Restores [] [] t t
  | remark {rules : List (Rule σ)} {rows : List Row} {t t' : σ} {text : String} :
      '\n' ∉ text.toList → Restores rules rows t t' → Restores rules (.remark text :: rows) t t'
  | pair {r : Rule σ} {rules : List (Rule σ)} {rows : List Row} {v v' : String} {t t₁ t' : σ} :
      IsKey r.key → ReadAs v v' → r.read v' t = .ok t₁ → Restores rules rows t₁ t' →
      Restores (r :: rules) (.pair r.key v :: rows) t t'

theorem Restores.text {key v : String} {put : σ → String → σ} (hkey : IsKey key) (hv : Solid v)
    (hplain : Plain v) (hrest : Restores rules rows (put t v) t') :
    Restores (.text key put :: rules) (.pair key v :: rows) t t' := by
  refine .pair hkey (tidy_solid hv hplain).readAs ?_ hrest
  simp only [Rule.text, hv.not_blank, hv.trim, Bool.false_eq_true, if_false]

theorem Restores.optionalText {key : String} {o : Option String} {put : σ → Option String → σ}
    (hkey : IsKey key) (ho : ∀ v ∈ o, Solid v) (hplain : ∀ v ∈ o, Plain v)
    (hrest : Restores rules rows (put t o) t') :
    Restores (.optionalText key put :: rules) (.pair key (o.getD "") :: rows) t t' := by
  cases o with
  | none => exact .pair hkey tidy_empty.readAs rfl hrest
  | some v =>
    have hv := ho v rfl
    refine .pair hkey (tidy_solid hv (hplain v rfl)).readAs ?_ hrest
    simp only [Rule.optionalText, hv.not_blank, hv.trim, Bool.false_eq_true, if_false]

theorem Restores.option {α : Type} {key reason v : String} {read? : String → Option α}
    {put : σ → α → σ} {a : α} (hkey : IsKey key) (hv : Tidy v) (hread : read? v = some a)
    (hrest : Restores rules rows (put t a) t') :
    Restores (.ofOption key reason read? put :: rules) (.pair key v :: rows) t t' := by
  refine .pair hkey hv.readAs ?_ hrest
  simp only [Rule.ofOption, hread]

theorem Restores.except {α : Type} {key v : String} {read : String → Except String α}
    {put : σ → α → σ} {a : α} (hkey : IsKey key) (hv : Tidy v) (hread : read v = .ok a)
    (hrest : Restores rules rows (put t a) t') :
    Restores (.ofExcept key read put :: rules) (.pair key v :: rows) t t' := by
  refine .pair hkey hv.readAs ?_ hrest
  simp only [Rule.ofExcept, hread, Except.map]

/-- The pairs have the keys of the rules, and the rules take what a section has under these keys,
also if it has more. -/
theorem Restores.pairs (h : Restores rules rows t t') : ∃ pairs, Reads rows pairs ∧
    pairs.map Prod.fst = rules.map Rule.key ∧
    ∀ (s : IniSection) (name : String), (∀ p ∈ pairs, s.get? p.1 = some p.2) →
      Rule.readAll s name rules t = .ok t' := by
  induction h with
  | nil => exact ⟨[], .nil, rfl, fun _ _ _ => rfl⟩
  | remark htext _ ih =>
      obtain ⟨pairs, hreads, hrest⟩ := ih
      exact ⟨pairs, .remark htext hreads, hrest⟩
  | @pair r _ _ _ v' _ _ _ hkey hvalue hread _ ih =>
      obtain ⟨pairs, hreads, hkeys, hrest⟩ := ih
      refine ⟨(r.key, v') :: pairs, .pair hkey hvalue hreads, congrArg (_ :: ·) hkeys, ?_⟩
      intro s name hget
      obtain ⟨hfirst, hget⟩ := List.forall_mem_cons.1 hget
      unfold Rule.readAll
      simp only [hfirst, hread]
      exact hrest s name hget

/-- The section that is read of the rows has what the rules take. -/
theorem Restores.section (h : Restores rules rows t t') (hkeys : (rules.map Rule.key).Nodup)
    (name : String) (hname : Passes { chars := [']'] } name.toList ∧ Text.trim name = name) :
    ∃ s : IniSection, s.name = some name ∧ (Written.mk name rows).Reads s ∧
      Rule.readAll s name rules t = .ok t' := by
  obtain ⟨pairs, hreads, hpairs, hrest⟩ := h.pairs
  refine ⟨⟨some name, pairs⟩, rfl, ⟨hname.1, congrArg some hname.2.symm, hreads⟩, ?_⟩
  exact hrest _ name fun _ hp => lookup_of_mem (hpairs ▸ hkeys) hp

end Rules

/-! ## The fixed sections -/

/-- Texts that a line keeps as they are. -/
structure Server.Writable (s : Server) : Prop where
  bind : Plain s.bind
  remoteUrl : ∀ v ∈ s.remoteUrl, Plain v

structure CacheSection.Writable (s : CacheSection) : Prop where
  address : Plain s.address
  password : ∀ v ∈ s.password, Plain v
  uri : ∀ v ∈ s.uri, Plain v
  cacheable : Plain (joined s.cacheable)

structure Bulk.Writable (s : Bulk) : Prop where
  map : Plain s.map
  baseUrl : Plain s.baseUrl

structure Postgis.Writable (s : Postgis) : Prop where
  url : ∀ v ∈ s.url, Plain v
  geometry : Plain s.geometry

structure Logging.Writable (s : Logging) : Prop where
  level : Plain s.level
  file : ∀ v ∈ s.file, Plain v

theorem Server.restores {s : Server} (h : s.Sound) (hw : s.Writable) :
    Restores serverRules s.written.rows {} s := by
  have hname : IsWord s.generator.name := by cases s.generator <;> decide
  have hread : Generator.parse s.generator.name = .ok s.generator := by
    cases s.generator <;> decide
  refine .remark (by decide) (.text (by decide) h.bind hw.bind ?_)
  refine .remark (by decide) (.remark (by decide) (.remark (by decide) ?_))
  refine .except (by decide) hname.tidy hread ?_
  refine .optionalText (by decide) h.remoteUrl hw.remoteUrl ?_
  refine .remark (by decide) (.option (by decide) (isWord_toString _).tidy ?_ .nil)
  exact positive_toString h.remoteTimeout.1 h.remoteTimeout.2

theorem CacheSection.restores {s : CacheSection} (h : s.Sound) (hw : s.Writable) :
    Restores cacheRules s.written.rows {} s := by
  have hstore : IsWord s.store.name ∧ Store.parse s.store.name = .ok s.store := by
    cases s.store <;> decide
  have hnetwork : IsWord s.network.name ∧
      (Cache.Network.parse s.network.name).mapError Cache.Error.message = .ok s.network := by
    cases s.network <;> decide
  have htls : IsWord (if s.tls then "true" else "false") ∧
      some (isOn (if s.tls then "true" else "false")) = some s.tls := by
    cases s.tls <;> decide
  have hzoom : (Rule.natural? UInt32.size (toString s.maxZoom.toNat)).filter
      (· ≤ Grid.maxZoom.toNat) = some s.maxZoom.toNat := by
    rw [natural_toString s.maxZoom.toNat_lt]
    simp [Option.filter, h.maxZoom]
  have hdatabase : (Text.int64? (Text.trim (toString s.database.toInt))).filter (0 ≤ ·) =
      some s.database := by
    rw [int64_toString]
    simp [Option.filter, h.database]
  have hitems : some (splitList (joined s.cacheable)) = some s.cacheable :=
    congrArg some (splitList_joined h.cacheable)
  -- fixed-width numbers come back by way of natural ones
  have hrestores : Restores cacheRules s.written.rows {}
      { s with
        maxZoom := UInt32.ofNat s.maxZoom.toNat
        timeToLive := UInt64.ofNat s.timeToLive.toNat } := by
    refine .remark (by decide) (.except (by decide) hstore.1.tidy hstore.2 ?_)
    refine .remark (by decide) (.option (by decide) (isWord_toString _).tidy hzoom ?_)
    refine .remark (by decide) (.option (by decide) (isWord_toString _).tidy
      (natural_toString s.timeToLive.toNat_lt) ?_)
    refine .remark (by decide) (.except (a := s.memorySize) (by decide) (isWord_size _).tidy
      (by simp only [parseSize_format]) ?_)
    refine .remark (by decide) (.except (by decide) hnetwork.1.tidy hnetwork.2 ?_)
    refine .text (by decide) h.address hw.address ?_
    refine .optionalText (by decide) h.password hw.password ?_
    refine .option (by decide) (isWord_int _).tidy hdatabase ?_
    refine .option (by decide) htls.1.tidy htls.2 ?_
    refine .remark (by decide) (.optionalText (by decide) h.uri hw.uri ?_)
    refine .option (by decide) (isWord_toString _).tidy
      (positive_toString h.dialTimeout.1 h.dialTimeout.2) ?_
    exact .remark (by decide) (.option (by decide) ⟨hw.cacheable, trim_joined h.cacheable⟩ hitems
      .nil)
  rwa [UInt32.ofNat_toNat, UInt64.ofNat_toNat] at hrestores

theorem Bulk.restores {s : Bulk} (h : s.Sound) (hw : s.Writable) :
    Restores bulkRules s.written.rows {} s := by
  have hnumber : ∀ n : Nat, 0 < n ∧ n < UInt64.size →
      Rule.positive? UInt64.size (toString n) = some n := fun n hn => positive_toString hn.1 hn.2
  obtain ⟨m, q, hshare⟩ := stands_of_share h.percentStep
  have hmode : IsWord s.fetchMode.name ∧ FetchMode.parse s.fetchMode.name = .ok s.fetchMode := by
    cases s.fetchMode <;> decide
  have hbase : ∀ t : Bulk, baseUrlRule.read s.baseUrl t = .ok { t with baseUrl := s.baseUrl } := by
    intro t
    obtain ⟨u, hu⟩ := h.address
    simp only [baseUrlRule, h.baseUrl.not_blank, h.baseUrl.trim, hu, Bool.false_eq_true, if_false]
  refine .remark (by decide) (.option (by decide) (isWord_toString _).tidy
    (hnumber _ h.maxConcurrent) ?_)
  refine .remark (by decide) (.option (by decide) (isWord_toString _).tidy
    (hnumber _ h.tileTimeout) ?_)
  refine .remark (by decide) (.option (by decide) (isWord_toString _).tidy
    (hnumber _ h.tileStep) ?_)
  refine .except (by decide) (isWord_plain hshare).tidy (percentStep_plain h.percentStep) ?_
  refine .option (by decide) (isWord_toString _).tidy (hnumber _ h.queueCapacity) ?_
  refine .option (by decide) (isWord_toString _).tidy (natural_toString h.initialDelay) ?_
  refine .remark (by decide) (.text (by decide) h.map hw.map ?_)
  refine .remark (by decide) (.except (by decide) hmode.1.tidy hmode.2 ?_)
  have hkey : IsKey baseUrlRule.key := by decide
  exact .pair hkey (tidy_solid h.baseUrl hw.baseUrl).readAs (hbase _) .nil

theorem Postgis.restores {s : Postgis} (h : s.Sound) (hw : s.Writable) :
    Restores postgisRules s.written.rows {} s := by
  refine .optionalText (by decide) h.url hw.url ?_
  refine .option (by decide) (isWord_toString _).tidy
    (positive_toString h.maxConnections.1 h.maxConnections.2) ?_
  exact .remark (by decide) (.text (by decide) h.geometry hw.geometry .nil)

theorem Logging.restores {home : Option String} {s : Logging} (h : s.Sound home)
    (hw : s.Writable) : Restores (loggingRules home) s.written.rows {} s := by
  have hfile : s.file.map (expandHome home) = s.file := by
    cases hs : s.file with
    | none => rfl
    | some f => exact congrArg some (h.file f hs).2
  have hrestores : Restores (loggingRules home) s.written.rows {}
      { s with file := s.file.map (expandHome home) } := by
    refine .remark (by decide) (.text (by decide) h.level hw.level ?_)
    exact .remark (by decide) (.optionalText (by decide) (fun f hf => (h.file f hf).1) hw.file .nil)
  rwa [hfile] at hrestores

/-! ## Maps and parameters -/

/-- Texts that a line keeps as they are, and a name that a heading keeps. -/
structure MapSection.Writable (m : MapSection) : Prop where
  name : Passes { chars := [']'] } m.name.toList
  template : Plain m.template
  params : Plain (joined m.params)

/-- The same. A loaded default is not trimmed, so it may have blanks that a line loses. -/
structure ParamSection.Writable (p : ParamSection) : Prop where
  name : Passes { chars := [']'] } p.name.toList
  token : Plain p.token
  fragment : Plain p.fragment
  default : ∀ d ∈ p.default, Tidy d

theorem suffix?_append (start name : String) : suffix? start (start ++ name) = some name := by
  have hdrop : (start ++ name).toList.drop start.length = name.toList := by
    rw [String.toList_append, ← String.length_toList, List.drop_left]
  unfold suffix?
  rw [hdrop, if_pos, String.ofList_toList]
  rw [List.isPrefixOf_iff_prefix, String.toList_append]
  exact List.prefix_append _ _

theorem required_get? {s : IniSection} {name key reason v : String} (h : s.get? key = some v)
    (hv : Solid v) : required s name key reason = .ok v := by
  unfold required
  rw [h]
  simp only [Option.filter, hv.not_blank, hv.trim, Bool.not_false, if_true]

/-- What is read of a map. -/
def MapSection.reread (m : MapSection) : IniSection :=
  ⟨some ("map." ++ m.name), [("sql", m.template), ("params", joined m.params)]⟩

theorem MapSection.reads {m : MapSection} (h : m.Sound) (hw : m.Writable) :
    m.written.Reads m.reread where
  ends := by
    have hstart : Passes { chars := [']'] } "map.".toList := by decide
    change Passes _ ("map." ++ m.name).toList
    rw [String.toList_append]
    exact hstart.append hw.name
  name := by
    have hstart : Solid "map." := ⟨by decide, by decide⟩
    exact congrArg some (hstart.append h.name).trim.symm
  rows := by
    have hparams : Tidy (joined m.params) := ⟨hw.params, trim_joined h.params⟩
    exact .pair (by decide) (tidy_solid h.template hw.template).readAs
      (.pair (by decide) hparams.readAs .nil)

theorem readMap_reread {m : MapSection} (h : m.Sound) (name : String) :
    readMap m.reread name m.name = .ok m := by
  have htemplate : m.reread.get? "sql" = some m.template := rfl
  have hparams : m.reread.get? "params" = some (joined m.params) := rfl
  unfold readMap
  rw [required_get? htemplate h.template, hparams]
  simp [h.name.not_blank, h.name.trim, splitList_joined h.params, bind, Except.bind, pure,
    Except.pure]

/-- What is read of a parameter. -/
def ParamSection.reread (p : ParamSection) : IniSection :=
  ⟨some ("param." ++ p.name), [("token", p.token), ("sql", p.fragment), ("type", p.kind.name)] ++
    (p.default.map (Prod.mk "default")).toList⟩

theorem ParamSection.reads {p : ParamSection} (h : p.Sound) (hw : p.Writable) :
    p.written.Reads p.reread where
  ends := by
    have hstart : Passes { chars := [']'] } "param.".toList := by decide
    change Passes _ ("param." ++ p.name).toList
    rw [String.toList_append]
    exact hstart.append hw.name
  name := by
    have hstart : Solid "param." := ⟨by decide, by decide⟩
    exact congrArg some (hstart.append h.name).trim.symm
  rows := by
    have hkind : IsWord p.kind.name := by cases p.kind <;> decide
    have hdefault : Reads (p.default.map (Row.pair "default")).toList
        (p.default.map (Prod.mk "default")).toList := by
      cases hd : p.default with
      | none => exact .nil
      | some d => exact .pair (by decide) (hw.default d hd).readAs .nil
    exact .pair (by decide) (tidy_solid h.token hw.token).readAs
      (.pair (by decide) (tidy_solid h.fragment hw.fragment).readAs
        (.pair (by decide) hkind.tidy.readAs hdefault))

theorem readParam_reread {p : ParamSection} (h : p.Sound) (name : String) :
    readParam p.reread name p.name = .ok p := by
  have htoken : p.reread.get? "token" = some p.token := rfl
  have hfragment : p.reread.get? "sql" = some p.fragment := rfl
  have htype : p.reread.get? "type" = some p.kind.name := rfl
  have hkind : Query.Kind.parse p.kind.name = .ok p.kind := by cases p.kind <;> decide
  have hdefault : p.reread.get? "default" = p.default := by
    obtain ⟨_, _, _, _, default⟩ := p
    cases default <;> rfl
  unfold readParam
  rw [required_get? htoken h.token, required_get? hfragment h.fragment, htype, hdefault]
  simp [h.name.not_blank, h.name.trim, hkind, bind, Except.bind, pure, Except.pure]

theorem readDefinitions_maps {ms : List MapSection} (h : ∀ m ∈ ms, m.Sound) (c : Settings)
    (ss : List IniSection) : readDefinitions c (ms.map MapSection.reread ++ ss) =
      readDefinitions { c with maps := c.maps ++ ms } ss := by
  induction ms generalizing c with
  | nil => simp
  | cons m ms ih =>
      have hname : m.reread.name = some ("map." ++ m.name) := rfl
      rw [List.map_cons, List.cons_append, readDefinitions, hname]
      simp only [suffix?_append, readMap_reread (h m List.mem_cons_self)]
      change readDefinitions _ _ = _
      rw [ih fun m' hm' => h m' (List.mem_cons_of_mem _ hm')]
      simp

theorem readDefinitions_params {ps : List ParamSection} (h : ∀ p ∈ ps, p.Sound) (c : Settings) :
    readDefinitions c (ps.map ParamSection.reread) =
      .ok { c with params := c.params ++ ps } := by
  induction ps generalizing c with
  | nil => simp [readDefinitions]
  | cons p ps ih =>
      have hname : p.reread.name = some ("param." ++ p.name) := rfl
      have hother : suffix? "map." ("param." ++ p.name) = none := by
        unfold suffix?
        rw [if_neg]
        rw [String.toList_append]
        exact Bool.false_ne_true
      rw [List.map_cons, readDefinitions, hname]
      simp only [suffix?_append, hother, readParam_reread (h p List.mem_cons_self)]
      change readDefinitions _ _ = _
      rw [ih fun p' hp' => h p' (List.mem_cons_of_mem _ hp')]
      simp

/-- Sections of other names define nothing. -/
theorem readDefinitions_other {s : IniSection} {name : String} (hname : s.name = some name)
    (hmap : suffix? "map." name = none) (hparam : suffix? "param." name = none) (c : Settings)
    (ss : List IniSection) : readDefinitions c (s :: ss) = readDefinitions c ss := by
  rw [readDefinitions, hname]
  simp only [hmap, hparam]

/-! ## Everything -/

theorem reads_map {α : Type} {xs : List α} {w : α → Written} {s : α → IniSection}
    (h : ∀ x ∈ xs, (w x).Reads (s x)) : List.Forall₂ Written.Reads (xs.map w) (xs.map s) := by
  rw [List.forall₂_map_left_iff, List.forall₂_map_right_iff, List.forall₂_same]
  exact h

/-- **What is loaded of saved settings**: in each fixed section what its rules make of its rows, and
the maps and parameters as they were. -/
theorem load_written {home : Option String} {c : Settings} {server : Server} {cache : CacheSection}
    {bulk : Bulk} {postgis : Postgis} {logging : Logging}
    (hserver : Restores serverRules c.server.written.rows {} server)
    (hcache : Restores cacheRules c.cache.written.rows {} cache)
    (hbulk : Restores bulkRules c.bulk.written.rows {} bulk)
    (hpostgis : Restores postgisRules c.postgis.written.rows {} postgis)
    (hlogging : Restores (loggingRules home) c.logging.written.rows {} logging)
    (hmaps : ∀ m ∈ c.maps, m.Sound ∧ m.Writable) (hparams : ∀ p ∈ c.params, p.Sound ∧ p.Writable) :
    Settings.load home c.ini = .ok { c with server, cache, bulk, postgis, logging } := by
  obtain ⟨s₁, n₁, w₁, r₁⟩ := hserver.section (by decide) "server" (by decide)
  obtain ⟨s₂, n₂, w₂, r₂⟩ := hcache.section (by decide) "cache" (by decide)
  obtain ⟨s₃, n₃, w₃, r₃⟩ := hbulk.section (by decide) "bulk" (by decide)
  obtain ⟨s₄, n₄, w₄, r₄⟩ := hpostgis.section (by decide) "postgis" (by decide)
  have hkeys : ((loggingRules home).map Rule.key).Nodup := show ["level", "file"].Nodup by decide
  obtain ⟨s₅, n₅, w₅, r₅⟩ := hlogging.section hkeys "logging" (by decide)
  have hparse : IniText.parse c.ini = .ok ⟨⟨none, []⟩ :: s₁ :: s₂ :: s₃ :: s₄ :: s₅ ::
      (c.maps.map MapSection.reread ++ c.params.map ParamSection.reread)⟩ := by
    have hms := reads_map fun m hm => MapSection.reads (hmaps m hm).1 (hmaps m hm).2
    have hps := reads_map fun p hp => ParamSection.reads (hparams p hp).1 (hparams p hp).2
    have hrest := List.rel_append hms hps
    have hwritten : c.written = c.server.written :: c.cache.written :: c.bulk.written ::
        c.postgis.written :: c.logging.written ::
        (c.maps.map MapSection.written ++ c.params.map ParamSection.written) := by
      simp [Settings.written]
    unfold Settings.ini
    rw [hwritten]
    exact parse_written (.cons w₁ (.cons w₂ (.cons w₃ (.cons w₄ (.cons w₅ hrest)))))
  have hdefinitions : ∀ c' : Settings, readDefinitions c' (⟨none, []⟩ :: s₁ :: s₂ :: s₃ :: s₄ ::
      s₅ :: (c.maps.map MapSection.reread ++ c.params.map ParamSection.reread)) =
        .ok { c' with maps := c'.maps ++ c.maps, params := c'.params ++ c.params } := by
    intro c'
    rw [readDefinitions]
    dsimp only
    rw [readDefinitions_other n₁ (by decide) (by decide),
      readDefinitions_other n₂ (by decide) (by decide),
      readDefinitions_other n₃ (by decide) (by decide),
      readDefinitions_other n₄ (by decide) (by decide),
      readDefinitions_other n₅ (by decide) (by decide),
      readDefinitions_maps fun m hm => (hmaps m hm).1,
      readDefinitions_params fun p hp => (hparams p hp).1]
  unfold Settings.load
  rw [hparse]
  simp [Settings.ofIni, readSection, IniText.section?, n₁, n₂, n₃, n₄, n₅, r₁, r₂, r₃, r₄, r₅,
    hdefinitions, bind, Except.bind, Except.mapError]

structure Settings.Writable (c : Settings) : Prop where
  server : c.server.Writable
  cache : c.cache.Writable
  bulk : c.bulk.Writable
  postgis : c.postgis.Writable
  logging : c.logging.Writable
  maps : ∀ m ∈ c.maps, m.Writable
  params : ∀ p ∈ c.params, p.Writable

theorem Settings.writable_default : Settings.Writable {} where
  server := ⟨by decide, by simp⟩
  cache := ⟨by decide, by simp, by simp, by decide⟩
  bulk := ⟨by decide, by decide⟩
  postgis := ⟨by simp, by decide⟩
  logging := ⟨by decide, by simp⟩
  maps := by simp
  params := by simp

/-- **Settings survive being saved and loaded**, all sections with all their values, if a line keeps
each text of theirs as it is. -/
theorem load_saved {home : Option String} (hroot : Rooted home) {text : String} {c : Settings}
    (h : Settings.load home text = .ok c) (hw : c.Writable) :
    Settings.load home c.ini = .ok c := by
  have hsound := load_sound hroot h
  exact load_written (Server.restores hsound.server hw.server)
    (CacheSection.restores hsound.cache hw.cache) (Bulk.restores hsound.bulk hw.bulk)
    (Postgis.restores hsound.postgis hw.postgis) (Logging.restores hsound.logging hw.logging)
    (fun m hm => ⟨hsound.maps m hm, hw.maps m hm⟩) (fun p hp => ⟨hsound.params p hp, hw.params p hp⟩)

set_option maxRecDepth 20000 in
/-- A log file in the home directory, a map and its parameter. -/
theorem map_and_log_saved : Rooted (some "/root") ∧ ∃ c : Settings,
    Settings.load (some "/root")
      "[logging]\nfile = ~/log\n[map.m]\nsql = !Y!\nparams = y\n[param.y]\ntoken = !Y!\nsql = s\ndefault = 9\n"
        = .ok c ∧
    c.Writable ∧ Settings.load (some "/root") c.ini = .ok c := by
  have hroot : Rooted (some "/root") := by
    intro h hh
    cases hh
    rfl
  have hload : Settings.load (some "/root")
      "[logging]\nfile = ~/log\n[map.m]\nsql = !Y!\nparams = y\n[param.y]\ntoken = !Y!\nsql = s\ndefault = 9\n"
        = .ok {
          logging := { file := some "/root/log" }
          maps := [⟨"m", "!Y!", ["y"]⟩]
          params := [⟨"y", "!Y!", "s", .text, some "9"⟩] } := rfl
  have hwritable : Settings.Writable {
      logging := { file := some "/root/log" }
      maps := [⟨"m", "!Y!", ["y"]⟩]
      params := [⟨"y", "!Y!", "s", .text, some "9"⟩] } :=
    { Settings.writable_default with
      logging := ⟨by decide, by simp; decide⟩
      maps := List.forall_mem_singleton.2 ⟨by decide, by decide, by decide⟩
      params := List.forall_mem_singleton.2 ⟨by decide, by decide, by decide, fun d hd => by
        cases hd
        exact IsWord.tidy (by decide)⟩ }
  exact ⟨hroot, _, hload, hwritable, load_saved hroot hload hwritable⟩

/-- The file `logs\new.log` comes back with a line end in its name: the backslash, which is written
as it is, is read as an escape. -/
theorem backslash_lost : ∃ c : Settings,
    Settings.load none "[logging]\nfile = logs\\\\new.log\n" = .ok c ∧
    c.logging.file = some "logs\\new.log" ∧
    Settings.load none c.ini = .ok { c with logging := { c.logging with file := some "logs\new.log" } } ∧
    Settings.load none c.ini ≠ .ok c := by
  have hescape : ReadAs "logs\\new.log" "logs\new.log" := by
    have hlogs : Passes IniText.lineEnd "logs".toList := by decide
    have hrest : Passes IniText.lineEnd "ew.log".toList := by decide
    have hunescapes : Unescapes IniText.lineEnd "logs\\new.log".toList "logs\new.log".toList :=
      hlogs.unescapes_append (.escape (by decide) (by decide) hrest.unescapes)
    have hread := readAs_unescaped hunescapes fun c hc => by
      cases hc
      exact ⟨by decide, by decide, by decide⟩
    have htrim : Text.trim (String.ofList "logs\new.log".toList) = "logs\new.log" := by decide
    rwa [htrim] at hread
  have hwritable := Settings.writable_default
  have hlogging : Restores (loggingRules none)
      (Logging.written { file := some "logs\\new.log" }).rows {} { file := some "logs\new.log" } := by
    have hlevel := (Logging.sound_default none).level
    refine .remark (by decide) (.text (by decide) hlevel hwritable.logging.level ?_)
    exact .remark (by decide) (.pair (by decide) hescape rfl .nil)
  have hlost : Settings.load none (Settings.ini { logging := { file := some "logs\\new.log" } }) =
      .ok { logging := { file := some "logs\new.log" } } :=
    load_written (Server.restores Server.sound_default hwritable.server)
      (CacheSection.restores CacheSection.sound_default hwritable.cache)
      (Bulk.restores Bulk.sound_default hwritable.bulk)
      (Postgis.restores Postgis.sound_default hwritable.postgis) hlogging
      (fun m hm => by cases hm) (fun p hp => by cases hp)
  have hload : Settings.load none "[logging]\nfile = logs\\\\new.log\n" =
      .ok { logging := { file := some "logs\\new.log" } } := rfl
  refine ⟨_, hload, rfl, hlost, ?_⟩
  rw [hlost]
  intro hkept
  have hfile := congrArg (fun c : Settings => c.logging.file) (Except.ok.inj hkept)
  exact absurd hfile (by decide)

end TileDepot.Config
