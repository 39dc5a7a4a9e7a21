import TileDepot.Command.Execution
import TileDepot.Proofs.Cache.Genuine
import TileDepot.Proofs.Tile.Paths

/-!
# What a purge removes

The command that purges a tile makes the key of its entry anew, from a path and a query that a user
names. It leaves out all question marks at the beginning of the query, where requests lose one of
them at most. So a tile whose query begins with no question mark can be purged, by its query as it
is or with question marks in front, and is not found again (`purge_removes_entry`). A tile whose
query still begins with one has an entry that no purge removes (`marked_tile_stays`).

The command is a program of its own, and what it shares with a server is a Redis store: both reach
the same table here. The memory of a server is out of its reach. With the memory backend it opens a
cache of its own, with nothing in it, and reports success all the same (`memory_purge_idle`).
-/

namespace TileDepot.Cache

variable {σ : Type}

/-- A purge that goes well removes the entry of its key and leaves all others as they are. -/
def Backend.Purges (b : Backend (StateM σ)) (view : View σ) : Prop :=
  ∀ key s, ((b.purge key).run s).1 = .ok () → ∀ text,
    view ((b.purge key).run s).2 text = if text = key.text then none else view s text

/-- What a store promises of a deletion that it answers. -/
def Wire.Deletes (w : Wire (StateM σ)) (view : View σ) : Prop :=
  ∀ name s a, ((w.ask (Command.ofWords ["DEL", name])).run s).1 = .ok a → ∀ text,
    view ((w.ask (Command.ofWords ["DEL", name])).run s).2 text
      = if text = name then none else view s text

theorem redis_purges {w : Wire (StateM σ)} {view : View σ} (h : w.Deletes view)
    (settings : RedisSettings) : (redis w settings).Purges view := by
  intro key s hok
  have hanswer : (((w.ask (.delete key)).run s).1.map fun _ => ()).mapError WireFault.error
      = .ok () := hok
  cases hask : ((w.ask (.delete key)).run s).1 with
  | error fault =>
      rw [hask] at hanswer
      have hfailed : (.error fault.error : Except Error Unit) = .ok () := hanswer
      exact absurd hfailed (by simp)
  | ok a => exact h key.text s a hask

/-- **A table deletes what it is told to.** -/
theorem table_deletes : tableWire.Deletes fun s text => s.lookup (Bytes.ofText text) := by
  intro name s a _ text
  rw [table_delete]
  dsimp only
  rw [lookup_filter]
  simp only [Bytes.ofText_eq_iff]

/-- What is not kept is not found. -/
theorem lookup_missed {b : Backend (StateM σ)} {view : View σ} {c : ReadThrough (StateM σ)}
    (hbackend : c.backend = some b) (hkeeps : b.Keeps view) {r : Tile.Request} {key : Tile.Key}
    {s : σ} (hkey : r.cacheKey = .ok key) (hcacheable : isCacheable c.cacheable r = true)
    (hnone : view s key.text = none) :
    ((c.lookup r).run s).1 = .miss key ∨ ∃ e, ((b.get key).run s).1 = .error e := by
  rw [lookup_run hbackend hcacheable hkey]
  dsimp only
  cases hget : ((b.get key).run s).1 with
  | error e => exact Or.inr ⟨e, rfl⟩
  | ok found =>
      cases found with
      | none => exact Or.inl rfl
      | some bytes =>
          have hkept := hkeeps.get_found key s bytes hget
          exact absurd (hnone.symm.trans hkept) (by simp)

end TileDepot.Cache

namespace TileDepot.Command

/-! ## The key that is purged -/

/-- A query without the question marks at its beginning. -/
def unmarked (query : String) : String :=
  String.ofList (query.toList.dropWhile (· == '?'))

/-- The query begins with no question mark. -/
def Bare (query : String) : Prop :=
  query.toList.head? ≠ some '?'

/-- So many question marks. -/
def marks (n : Nat) : String :=
  String.ofList (List.replicate n '?')

theorem unmarked_bare {query : String} (h : Bare query) : unmarked query = query := by
  have hstays : query.toList.dropWhile (· == '?') = query.toList :=
    Text.dropWhile_eq_self fun c hc => beq_false_of_ne fun heq => h (heq ▸ hc)
  unfold unmarked
  rw [hstays, String.ofList_toList]

theorem unmarked_marks (n : Nat) (query : String) :
    unmarked (marks n ++ query) = unmarked query := by
  unfold unmarked marks
  rw [String.toList_append, String.toList_ofList]
  congr 1
  induction n with
  | zero => rfl
  | succ n ih => exact ih

theorem bare_empty : Bare "" := fun h => absurd h (by decide)

theorem bare_unmarked (query : String) : Bare (unmarked query) := by
  intro hmark
  unfold unmarked at hmark
  rw [String.toList_ofList] at hmark
  have hnot := List.head?_dropWhile_not (· == '?') query.toList
  rw [hmark] at hnot
  exact absurd hnot (by decide)

/-- The key of a request has what its query gives it. -/
theorem cacheKey_eq (r : Tile.Request) :
    r.cacheKey = (Tile.Key.ofPath r.path).map fun k => r.query.elim k k.withQuery := by
  unfold Tile.Request.cacheKey Tile.Request.key
  cases Tile.Key.ofPath r.path with
  | error e => rfl
  | ok k => cases r.query <;> rfl

theorem purgeKey_eq (path : String) (query : Option String) : purgeKey path query =
    (Tile.Key.ofPath path).map fun k => (query.map unmarked).elim k k.withQuery := by
  unfold purgeKey
  cases Tile.Key.ofPath path with
  | error e => rfl
  | ok k => cases query <;> rfl

theorem withQuery_fingerprint (k : Tile.Key) : (k.withQuery "").fingerprint = none := by
  unfold Tile.Key.withQuery
  rw [if_pos (by decide)]

theorem withQuery_tile (k : Tile.Key) (q : String) : (k.withQuery q).tile = k.tile := rfl

theorem withQuery_scope {q : String} (h : q ≠ "") (k : Tile.Key) :
    (k.withQuery q).scope = k.map ++ "_" ++ Tile.fingerprint q := by
  refine Tile.scope_scoped ?_
  unfold Tile.Key.withQuery
  rw [if_neg fun hempty => h (String.isEmpty_iff.mp hempty)]

/-- A key that comes from a path is the same with the empty query. -/
theorem withQuery_empty {path : String} {k : Tile.Key} (h : Tile.Key.ofPath path = .ok k) :
    k.withQuery "" = k := by
  obtain ⟨_, _, hnone⟩ := Tile.ofPath_ok h
  unfold Tile.Key.withQuery
  rw [if_pos (by rfl), ← hnone]

/-- The query and no query at all come to the same if the query is empty. -/
theorem elim_withQuery {path : String} {k : Tile.Key} (h : Tile.Key.ofPath path = .ok k)
    (query : Option String) : query.elim k k.withQuery = k.withQuery (query.getD "") := by
  cases query with
  | none => exact (withQuery_empty h).symm
  | some q => rfl

/-- **A purge is for the tile of a request** if the two queries are the same less the question marks
that it leaves out. -/
theorem purgeKey_of_unmarked {r : Tile.Request} {argument : Option String}
    (h : (argument.map unmarked).getD "" = r.query.getD "") :
    purgeKey r.path argument = r.cacheKey := by
  rw [purgeKey_eq, cacheKey_eq]
  cases hpath : Tile.Key.ofPath r.path with
  | error e => rfl
  | ok k =>
      refine congrArg Except.ok ?_
      dsimp only
      rw [elim_withQuery hpath, elim_withQuery hpath, h]

/-- Two queries of one tile have different texts, unless their fingerprints are the same. -/
theorem withQuery_text_inj {k : Tile.Key} {q t : String} (hq : q ≠ "")
    (h : (k.withQuery t).text = (k.withQuery q).text) :
    Tile.fingerprint t = Tile.fingerprint q := by
  have hscopes : (k.withQuery t).scope = (k.withQuery q).scope := by
    have hlists := congrArg String.toList h
    unfold Tile.Key.text at hlists
    simp only [withQuery_tile, String.toList_append] at hlists
    exact String.toList_inj.mp (List.append_cancel_right (List.append_cancel_right hlists))
  rw [withQuery_scope hq] at hscopes
  by_cases ht : t = ""
  · -- a scope without a fingerprint is too short
    subst ht
    have hlengths := congrArg (·.toList.length) hscopes
    have hplain : (k.withQuery "").scope = k.map := Tile.scope_plain (withQuery_fingerprint k)
    simp only [hplain, String.toList_append, List.length_append,
      (Tile.fingerprint_digits q).1] at hlengths
    omega
  · rw [withQuery_scope ht] at hscopes
    exact (Tile.append_fingerprint_inj hscopes).2

/-- **A query with a question mark in front is never named**: what is left of the query that is
named has none, and if the entry is the same all the same it is because of the fingerprints. -/
theorem marked_entry {r : Tile.Request} {argument : Option String} {key named : Tile.Key}
    (hmarked : ¬ Bare (r.query.getD "")) (hkey : r.cacheKey = .ok key)
    (hnamed : purgeKey r.path argument = .ok named) (hsame : named.text = key.text) :
    ∃ t ≠ r.query.getD "", Tile.fingerprint t = Tile.fingerprint (r.query.getD "") := by
  refine ⟨(argument.map unmarked).getD "", fun heq => hmarked ?_, ?_⟩
  · rw [← heq]
    cases argument with
    | none => exact bare_empty
    | some a => exact bare_unmarked a
  · rw [purgeKey_eq] at hnamed
    rw [cacheKey_eq] at hkey
    cases hpath : Tile.Key.ofPath r.path with
    | error e =>
        rw [hpath] at hkey
        exact absurd hkey (by simp [Except.map])
    | ok k =>
        rw [hpath] at hkey hnamed
        have hk : r.query.elim k k.withQuery = key := Except.ok.inj hkey
        have hn : (argument.map unmarked).elim k k.withQuery = named := Except.ok.inj hnamed
        rw [elim_withQuery hpath] at hk hn
        rw [← hk, ← hn] at hsame
        refine withQuery_text_inj (fun hempty => hmarked ?_) hsame
        rw [hempty]
        exact bare_empty

/-! ## The purge -/

variable {σ : Type}

theorem purgeFrom_run (key : Tile.Key) (b : Cache.Backend (StateM σ)) (s : σ) :
    (purgeFrom key (some b)).run s = (match ((b.purge key).run s).1 with
      | .error e => .error (.cache e)
      | .ok () => .ok s!"Purged {key.text} from {b.name} cache\n", ((b.purge key).run s).2) := by
  unfold purgeFrom
  rw [StateT.run_bind]
  generalize (b.purge key).run s = answer
  obtain ⟨result, s'⟩ := answer
  cases result <;> rfl

variable {resources : Cache.Resources (StateM σ)} {settings : Config.Settings}
  {b : Cache.Backend (StateM σ)} {s opened : σ}

/-- The command purges the key of its path and query from the cache that it has opened. -/
theorem purgeTile_run
    (hopen : (settings.cacheSettings.openBackend resources).run s = (.ok (some b), opened))
    (path : String) (query : Option String) :
    (purgeTile resources settings path query).run s = match purgeKey path query with
      | .error e => (.error (.path e), s)
      | .ok key => (purgeFrom key (some b)).run opened := by
  unfold purgeTile
  cases purgeKey path query with
  | error e => rfl
  | ok key =>
      dsimp only
      rw [StateT.run_bind, hopen]
      rfl

/-- A purge that is made is reported. -/
theorem purgeTile_purged
    (hopen : (settings.cacheSettings.openBackend resources).run s = (.ok (some b), opened))
    {path : String} {query : Option String} {key : Tile.Key} {after : σ}
    (hkey : purgeKey path query = .ok key) (hpurge : (b.purge key).run opened = (.ok (), after)) :
    (purgeTile resources settings path query).run s
      = (.ok s!"Purged {key.text} from {b.name} cache\n", after) := by
  rw [purgeTile_run hopen, hkey]
  dsimp only
  rw [purgeFrom_run, hpurge]

/-- A purge that has been reported has been made. -/
theorem purgeTile_ok
    (hopen : (settings.cacheSettings.openBackend resources).run s = (.ok (some b), opened))
    {path report : String} {query : Option String} {after : σ}
    (h : (purgeTile resources settings path query).run s = (.ok report, after)) :
    ∃ key, purgeKey path query = .ok key ∧ (b.purge key).run opened = (.ok (), after) ∧
      report = s!"Purged {key.text} from {b.name} cache\n" := by
  rw [purgeTile_run hopen] at h
  cases hkey : purgeKey path query with
  | error e =>
      rw [hkey] at h
      exact absurd (congrArg Prod.fst h) (by simp)
  | ok key =>
      rw [hkey] at h
      dsimp only at h
      rw [purgeFrom_run] at h
      refine ⟨key, rfl, ?_⟩
      generalize (b.purge key).run opened = answer at h ⊢
      obtain ⟨result, s'⟩ := answer
      cases result with
      | error e => exact absurd (congrArg Prod.fst h) (by simp)
      | ok _ =>
          obtain ⟨hreport, rfl⟩ := Prod.mk.inj h
          exact ⟨rfl, (Except.ok.inj hreport).symm⟩

/-! ## A memory of one's own -/

/-- A memory backend is opened with nothing in it. -/
theorem memory_opens {place : σ → Cache.Entries} (hplace : Cache.Access resources.entries place)
    (hmemory : settings.cache.store = .memory) (s : σ) :
    ∃ opened, (settings.cacheSettings.openBackend resources).run s
      = (.ok (some ((Cache.memory settings.cache.maxZoom).lift resources.entries)), opened) ∧
      place opened = .empty := by
  have hsettings : ∃ m : Cache.MemorySettings, settings.cacheSettings = .memory m ∧
      m.maxZoom = settings.cache.maxZoom := by
    unfold Config.Settings.cacheSettings
    dsimp only
    rw [hmemory]
    exact ⟨_, rfl, rfl⟩
  obtain ⟨m, hsettings, hzoom⟩ := hsettings
  rw [hsettings, ← hzoom]
  exact ⟨_, rfl, hplace.after (set Cache.Entries.empty) s⟩

/-- **With the memory backend there is nothing to purge**, and the command says that it has. -/
theorem memory_purge_idle {place : σ → Cache.Entries}
    (hplace : Cache.Access resources.entries place) (hmemory : settings.cache.store = .memory)
    {path : String} {query : Option String} {key : Tile.Key}
    (hkey : purgeKey path query = .ok key) (s : σ) :
    ∃ b opened after,
      (settings.cacheSettings.openBackend resources).run s = (.ok (some b), opened) ∧
      place opened = .empty ∧
      (purgeTile resources settings path query).run s
        = (.ok s!"Purged {key.text} from {b.name} cache\n", after) ∧
      place after = .empty := by
  obtain ⟨opened, hopen, hopened⟩ := memory_opens hplace hmemory s
  have hresult := hplace.result ((Cache.memory settings.cache.maxZoom).purge key) opened
  have hafter := hplace.after ((Cache.memory settings.cache.maxZoom).purge key) opened
  -- what is removed is not there
  rw [hopened] at hresult hafter
  exact ⟨_, opened, _, hopen, hopened,
    purgeTile_purged hopen hkey (Prod.ext hresult rfl), hafter⟩

/-! ## A store that is shared -/

/-- Settings for a Redis store at its usual place, the same for a server and for the command. -/
def sharedSettings : Config.Settings :=
  { cache := { store := .redis } }

/-- What each of them opens. -/
def sharedStore : Cache.Backend (StateM Cache.Table) :=
  Cache.redis Cache.tableWire {}

/-- The server's cache over it. -/
def sharedCache : Cache.ReadThrough (StateM Cache.Table) :=
  ⟨some sharedStore, sharedSettings.cache.cacheable⟩

theorem shared_opens (t : Cache.Table) :
    (sharedSettings.cacheSettings.openBackend Cache.tableResources).run t
      = (.ok (some sharedStore), t) := by
  have hplace : Cache.Connection.ofSettings {} = .ok ⟨.tcp "127.0.0.1" 6379, 0, none, none⟩ := by
    decide +kernel
  exact Cache.table_opens hplace rfl t

/-- The server puts a tile there. -/
theorem shared_stored {key : Tile.Key} (hzoom : key.zoom ≤ Grid.maxZoom) (bytes : Bytes)
    (t : Cache.Table) :
    ((sharedStore.set key bytes).run t).2.lookup (Bytes.ofText key.text) = some bytes :=
  ((Cache.table_exact {}).set_view key bytes t hzoom key.text).trans (if_pos rfl)

/-- The server looks for a tile there. -/
theorem shared_lookup {r : Tile.Request} {key : Tile.Key} (hkey : r.cacheKey = .ok key)
    (hcacheable : Cache.isCacheable sharedCache.cacheable r = true) (t : Cache.Table) :
    ((sharedCache.lookup r).run t).1 = match t.lookup (Bytes.ofText key.text) with
      | some bytes => .hit bytes
      | none => .miss key := by
  rw [Cache.lookup_run rfl hcacheable hkey]
  dsimp only
  rw [sharedStore, (Cache.table_exact {}).get_result]
  cases t.lookup (Bytes.ofText key.text) <;> rfl

/-- The command purges a tile there. -/
theorem shared_purge {path : String} {query : Option String} {key : Tile.Key}
    (hkey : purgeKey path query = .ok key) (t : Cache.Table) :
    ∃ report after,
      (purgeTile Cache.tableResources sharedSettings path query).run t = (.ok report, after) ∧
      ∀ text, after.lookup (Bytes.ofText text)
        = if text = key.text then none else t.lookup (Bytes.ofText text) := by
  -- a table has an answer also if there was nothing to delete, so the purge goes well
  have hask : (Cache.tableWire.ask (.delete key)).run t = _ := Cache.table_delete key.text t
  have hpurge : ((sharedStore.purge key).run t).1 = .ok () := by
    show (((Cache.tableWire.ask (.delete key)).run t).1.map fun _ => ()).mapError
      Cache.WireFault.error = _
    rw [hask]
    rfl
  exact ⟨_, _, purgeTile_purged (shared_opens t) hkey (Prod.ext hpurge rfl),
    Cache.redis_purges Cache.table_deletes {} key t hpurge⟩

/-! ## What is removed -/

/--
**A purge removes the entry of a tile, and no other**, if the tile's query begins with no question
mark. The query may be named as it is, or with question marks in front, and if it is none also by
question marks alone: the key is that of the request. Once the purge of this key has been reported,
the request is not found, and all other entries are as they were when the cache was opened.

If the query does begin with a question mark, its entry stays as it is, whatever is named, unless
some other query has the same fingerprint.
-/
theorem purge_removes_entry {c : Cache.ReadThrough (StateM σ)} {view : Cache.View σ}
    {r : Tile.Request} {key : Tile.Key} (hbackend : c.backend = some b) (hkeeps : b.Keeps view)
    (hpurges : b.Purges view) (hkey : r.cacheKey = .ok key) :
    (Bare (r.query.getD "") → purgeKey r.path r.query = .ok key ∧
      ∀ n, purgeKey r.path (some (marks n ++ r.query.getD "")) = .ok key) ∧
    ∀ argument report after,
      (settings.cacheSettings.openBackend resources).run s = (.ok (some b), opened) →
      (purgeTile resources settings r.path argument).run s = (.ok report, after) →
      (purgeKey r.path argument = .ok key →
        (Cache.isCacheable c.cacheable r = true → ((c.lookup r).run after).1 = .miss key ∨
          ∃ e, ((b.get key).run after).1 = .error e) ∧
        ∀ text ≠ key.text, view after text = view opened text) ∧
      (¬ Bare (r.query.getD "") →
        (∃ t ≠ r.query.getD "", Tile.fingerprint t = Tile.fingerprint (r.query.getD "")) ∨
        view after key.text = view opened key.text) := by
  refine ⟨fun hbare => ⟨?_, fun n => ?_⟩, fun argument report after hopen hreport => ?_⟩
  · rw [← hkey]
    refine purgeKey_of_unmarked ?_
    cases hquery : r.query with
    | none => rfl
    | some q =>
        rw [hquery] at hbare
        exact unmarked_bare hbare
  · rw [← hkey]
    exact purgeKey_of_unmarked ((unmarked_marks n _).trans (unmarked_bare hbare))
  · obtain ⟨named, hnamed, hpurge, _⟩ := purgeTile_ok hopen hreport
    have hview : ∀ text,
        view after text = if text = named.text then none else view opened text := by
      intro text
      have hafter := hpurges named opened (congrArg Prod.fst hpurge) text
      rw [hpurge] at hafter
      exact hafter
    refine ⟨fun haddressed => ?_, fun hmarked => ?_⟩
    · cases haddressed.symm.trans hnamed
      refine ⟨fun hcacheable => ?_, fun text htext => (hview text).trans (if_neg htext)⟩
      exact Cache.lookup_missed hbackend hkeeps hkey hcacheable
        ((hview key.text).trans (if_pos rfl))
    · by_cases hsame : named.text = key.text
      · exact Or.inl (marked_entry hmarked hkey hnamed hsame)
      · exact Or.inr ((hview key.text).trans (if_neg (Ne.symm hsame)))

/-- A tile of a run, purged by its query with a question mark in front. It was found before. -/
theorem scoped_tile_purged : ∃ key, Tile.scopedTile.cacheKey = .ok key ∧ ∀ t bytes,
    ∃ stored report after, ((sharedStore.set key bytes).run t).2 = stored ∧
      ((sharedCache.lookup Tile.scopedTile).run stored).1 = .hit bytes ∧
      (purgeTile Cache.tableResources sharedSettings Tile.scopedTile.path
        (some "?task_id=abc")).run stored = (.ok report, after) ∧
      ((sharedCache.lookup Tile.scopedTile).run after).1 = .miss key ∧
      ∀ text ≠ key.text,
        after.lookup (Bytes.ofText text) = stored.lookup (Bytes.ofText text) := by
  have hname : marks 1 ++ Tile.scopedTile.query.getD "" = "?task_id=abc" := by decide
  have hcacheable : Cache.isCacheable sharedCache.cacheable Tile.scopedTile = true := by
    decide +kernel
  obtain ⟨key, hkey, hzoom⟩ : ∃ key, Tile.scopedTile.cacheKey = .ok key ∧
      key.zoom ≤ Grid.maxZoom := ⟨_, Tile.scopedTile_key, by decide⟩
  refine ⟨key, hkey, fun t bytes => ?_⟩
  have hstored := shared_stored hzoom bytes t
  generalize ((sharedStore.set key bytes).run t).2 = stored at hstored ⊢
  obtain ⟨hnames, hpurged⟩ := @purge_removes_entry _ Cache.tableResources sharedSettings sharedStore
    stored stored sharedCache _ _ _ rfl (Cache.redis_keeps Cache.table_serves {})
    (Cache.redis_purges Cache.table_deletes {}) hkey
  have hnamed := (hnames (fun h => absurd h (by decide))).2 1
  rw [hname] at hnamed
  obtain ⟨report, after, hrun, _⟩ := shared_purge hnamed stored
  obtain ⟨hmissed, hothers⟩ := (hpurged _ report after (shared_opens _) hrun).1 hnamed
  refine ⟨stored, report, after, rfl, ?_, hrun, ?_, hothers⟩
  · rw [shared_lookup hkey hcacheable, hstored]
  · rcases hmissed hcacheable with h | ⟨e, he⟩
    · exact h
    · -- a table answers every look-up
      exact absurd (((Cache.table_exact {}).get_result _ after).symm.trans he) (by simp)

/-- A tile that was asked for with three question marks in a row. -/
def markedTile : Tile.Request :=
  (Tile.Request.ofPath "/osm/3/4/2.pbf").withQuery "??a=1&task_id=2"

theorem markedTile_eq : markedTile = ⟨"/osm/3/4/2.pbf", some "?a=1&task_id=2"⟩ := by decide

theorem markedTile_key :
    markedTile.cacheKey = .ok ⟨"osm", 3, 4, 2, some "23ba1d24f298c4836559bbe36c77cab5"⟩ := by
  have hfingerprint : Tile.fingerprint "?a=1&task_id=2" = "23ba1d24f298c4836559bbe36c77cab5" := by
    decide +kernel
  rw [← hfingerprint, markedTile_eq]
  rfl

/-- What a purge makes of the tile's query, before and after a request has lost a question mark. -/
theorem markedTile_purgeKey {query : String} (h : unmarked query = "a=1&task_id=2") :
    purgeKey markedTile.path (some query)
      = .ok ⟨"osm", 3, 4, 2, some "d71d83bb2460bcec3373c200c01b84f3"⟩ := by
  have hfingerprint : Tile.fingerprint "a=1&task_id=2" = "d71d83bb2460bcec3373c200c01b84f3" := by
    decide +kernel
  rw [← hfingerprint, purgeKey_eq, Option.map_some, h]
  rfl

/-- **A tile can outlive every purge of its query**, and is still found, though each purge is
reported as one of a tile. -/
theorem marked_tile_stays : ∃ key named, markedTile.cacheKey = .ok key ∧ named ≠ key ∧
    ∀ query ∈ [markedTile.query, some "??a=1&task_id=2"],
      purgeKey markedTile.path query = .ok named ∧ ∀ t bytes, ∃ stored report after,
        ((sharedStore.set key bytes).run t).2 = stored ∧
        (purgeTile Cache.tableResources sharedSettings markedTile.path query).run stored
          = (.ok report, after) ∧
        ((sharedCache.lookup markedTile).run after).1 = .hit bytes := by
  have hcacheable : Cache.isCacheable sharedCache.cacheable markedTile = true := by decide +kernel
  obtain ⟨key, hkey, hzoom, hother⟩ : ∃ key, markedTile.cacheKey = .ok key ∧
      key.zoom ≤ Grid.maxZoom ∧
      key.text ≠ (⟨"osm", 3, 4, 2, some "d71d83bb2460bcec3373c200c01b84f3"⟩ : Tile.Key).text :=
    ⟨_, markedTile_key, by decide, by decide⟩
  refine ⟨key, _, hkey, fun h => hother (congrArg Tile.Key.text h.symm), fun query hquery => ?_⟩
  have hnamed : purgeKey markedTile.path query
      = .ok ⟨"osm", 3, 4, 2, some "d71d83bb2460bcec3373c200c01b84f3"⟩ := by
    rcases List.mem_cons.mp hquery with rfl | hquery
    · exact @markedTile_purgeKey "?a=1&task_id=2" (by decide)
    · rw [List.mem_singleton.mp hquery]
      exact markedTile_purgeKey (by decide)
  refine ⟨hnamed, fun t bytes => ?_⟩
  have hstored := shared_stored hzoom bytes t
  obtain ⟨report, after, hrun, hafter⟩ := shared_purge hnamed _
  refine ⟨_, report, after, rfl, hrun, ?_⟩
  rw [shared_lookup hkey hcacheable, hafter, if_neg hother, hstored]

end TileDepot.Command
