import TileDepot.Proofs.Cache.Traffic

/-!
# Only whole tiles are kept

Whatever clients do, an entry of the cache is one answer of the generator in full: a success for a
cacheable request, read to its end without an error. Half-read bodies leave no entry, however many
of them are open under one key, and what is found later is again such an answer.

The invariant (`Sound`) says this of the entries, and of every client what it takes to keep it: one
that reads a captured body has read the first part of some answer (`Captured`), and one that writes
has read all of it (`Whole`). Answers are never forgotten, so all of this outlives steps of others
(`visit_mono`, `genuine_mono`).
-/

namespace TileDepot.Cache

/-! ## Captures -/

/-- The capture has taken note of these pieces: it has all of them, unless one was an error. -/
def Captured (cap : Tile.Capture) (read : List Tile.Item) : Prop :=
  cap.failed = false → read = cap.chunks.reverse.map .ok

theorem captured_start (key : Tile.Key) : Captured (.start key) [] := fun _ => rfl

theorem captured_note {cap : Tile.Capture} {read : List Tile.Item} (h : Captured cap read)
    (i : Tile.Item) : Captured (cap.note i) (read ++ [i]) := by
  cases i with
  | ok chunk =>
      intro hfailed
      have hread := h hfailed
      show read ++ [.ok chunk] = (chunk :: cap.chunks).reverse.map .ok
      rw [hread, List.reverse_cons, List.map_append]
      rfl
  | error e => exact fun hfailed => absurd hfailed (by simp [Tile.Capture.note])

theorem note_key (cap : Tile.Capture) (i : Tile.Item) : (cap.note i).key = cap.key := by
  cases i <;> rfl

/-- A capture asks to write all that was read, and only if that is something without errors. -/
theorem write_captured {cap : Tile.Capture} {read : List Tile.Item} {key : Tile.Key}
    {bytes : Bytes} (h : Captured cap read) (hwrite : cap.write? = some (key, bytes)) :
    key = cap.key ∧ bytes ≠ [] ∧
      ∃ chunks : List Bytes, read = chunks.map .ok ∧ chunks.flatten = bytes := by
  unfold Tile.Capture.write? at hwrite
  split at hwrite
  · exact absurd hwrite (by simp)
  · rename_i hclean
    rw [Bool.or_eq_true, not_or, Bool.not_eq_true, List.isEmpty_iff] at hclean
    obtain ⟨hkey, hbytes⟩ := Prod.mk.inj (Option.some.inj hwrite)
    exact ⟨hkey.symm, hbytes ▸ hclean.2, cap.chunks.reverse, h hclean.1, hbytes⟩

/-! ## Answers that may be kept -/

/-- The answer to a cacheable request with this key, and a success. -/
structure Made.Fit (cacheable : List String) (m : Made) (key : Tile.Key) : Prop where
  cacheable : isCacheable cacheable m.request = true
  key : m.request.cacheKey = .ok key
  status : 200 ≤ m.status ∧ m.status < 300

/-- These bytes are the whole of a fit answer, which had no error and was not empty. -/
structure Made.Whole (cacheable : List String) (m : Made) (key : Tile.Key) (bytes : Bytes) : Prop
    extends Made.Fit cacheable m key where
  chunks : ∃ chunks : List Bytes, m.items = chunks.map .ok ∧ chunks.flatten = bytes
  nonempty : bytes ≠ []

/-- The bytes are an answer in full, kept under the text of its key and not above the highest
zoom. -/
def Genuine (cacheable : List String) (maxZoom : UInt32) (made : List Made) (text : String)
    (bytes : Bytes) : Prop :=
  ∃ m ∈ made, ∃ key, m.Whole cacheable key bytes ∧ key.text = text ∧ key.zoom ≤ maxZoom

theorem genuine_mono {cacheable : List String} {maxZoom : UInt32} {made : List Made}
    {text : String} {bytes : Bytes} (h : Genuine cacheable maxZoom made text bytes)
    (more : List Made) : Genuine cacheable maxZoom (made ++ more) text bytes := by
  obtain ⟨m, hm, rest⟩ := h
  exact ⟨m, List.mem_append_left more hm, rest⟩

/-! ## The invariant -/

/-- What is true of a client at each of its stops. -/
def Visit.Sound (cacheable : List String) (maxZoom : UInt32) (made : List Made) : Visit → Prop
  | .asking _ .bypass _ => True
  | .asking request (.hit bytes) past => ∃ key, request.cacheKey = .ok key ∧
      past.kept key.text = some bytes ∧ Genuine cacheable maxZoom past.made key.text bytes
  | .asking request (.miss key) _ =>
      isCacheable cacheable request = true ∧ request.cacheKey = .ok key
  | .reading body => ∀ cap, body.capture = some cap → ∃ m ∈ made, m.Fit cacheable cap.key ∧
      ∃ read, Captured cap read ∧ m.items = read ++ body.items
  | .writing write => ∀ key bytes, write = some (key, bytes) →
      ∃ m ∈ made, m.Whole cacheable key bytes

theorem visit_mono {cacheable : List String} {maxZoom : UInt32} {made : List Made} {v : Visit}
    (h : v.Sound cacheable maxZoom made) (more : List Made) :
    v.Sound cacheable maxZoom (made ++ more) := by
  cases v with
  | asking request lookup past =>
      cases lookup with
      | bypass => trivial
      | hit bytes => exact h
      | miss key => exact h
  | reading body =>
      intro cap hcap
      obtain ⟨m, hm, rest⟩ := h cap hcap
      exact ⟨m, List.mem_append_left more hm, rest⟩
  | writing write =>
      intro key bytes hwrite
      obtain ⟨m, hm, rest⟩ := h key bytes hwrite
      exact ⟨m, List.mem_append_left more hm, rest⟩

/-- A response that says it is from the cache is: it has the bytes that were kept when the request
was looked up. -/
def Given.Honest (cacheable : List String) (maxZoom : UInt32) (g : Given) : Prop :=
  g.response.cacheStatus = some .hit → ∃ key bytes, g.request.cacheKey = .ok key ∧
    g.response = hitResponse bytes ∧ g.past.kept key.text = some bytes ∧
    Genuine cacheable maxZoom g.past.made key.text bytes

/-- **The invariant**: entries, clients and responses are as they should be. -/
structure Sound {σ : Type} (cacheable : List String) (maxZoom : UInt32) (view : View σ)
    (t : Traffic σ) : Prop where
  kept : ∀ text bytes, view t.store text = some bytes →
    Genuine cacheable maxZoom t.made text bytes
  visits : ∀ v ∈ t.visits, v.Sound cacheable maxZoom t.made
  given : ∀ g ∈ t.given, g.Honest cacheable maxZoom

variable {σ : Type} {cacheable : List String} {maxZoom : UInt32} {view : View σ}

theorem sound_init {store : σ} (hempty : ∀ text, view store text = none) :
    Sound cacheable maxZoom view (.start store) where
  kept text bytes h := absurd h (by simp [Traffic.start, hempty])
  visits v hv := absurd hv (by simp [Traffic.start])
  given g hg := absurd hg (by simp [Traffic.start])

/-! ## What look-ups and writes do to it -/

variable {b : Backend (StateM σ)}

theorem lookup_cases (b : Backend (StateM σ)) (cacheable : List String) (request : Tile.Request)
    (s : σ) :
    ((⟨some b, cacheable⟩ : ReadThrough (StateM σ)).lookup request).run s = (.bypass, s) ∨
      ∃ key, isCacheable cacheable request = true ∧ request.cacheKey = .ok key ∧
        ((⟨some b, cacheable⟩ : ReadThrough (StateM σ)).lookup request).run s
          = (.ofAnswer key ((b.get key).run s).1, ((b.get key).run s).2) := by
  unfold ReadThrough.lookup
  dsimp only
  split
  · rename_i hcacheable
    split
    · rename_i key hkey
      exact Or.inr ⟨key, hcacheable, hkey, rfl⟩
    · exact Or.inl rfl
  · exact Or.inl rfl

theorem lookup_loses (hb : b.Keeps view) (request : Tile.Request) (s : σ) :
    view.Loses s (((⟨some b, cacheable⟩ : ReadThrough (StateM σ)).lookup request).run s).2 := by
  rcases lookup_cases b cacheable request s with h | ⟨key, _, _, h⟩
  · rw [h]
    exact view.loses_refl s
  · rw [h]
    exact hb.get_loses key s

/-- What is found is what is kept; what is missed is cacheable. -/
theorem lookup_sound (hb : b.Keeps view) {t : Traffic σ}
    (ht : Sound cacheable b.maxZoom view t) (request : Tile.Request) :
    (Visit.asking request
      (((⟨some b, cacheable⟩ : ReadThrough (StateM σ)).lookup request).run t.store).1
      (t.past view)).Sound cacheable b.maxZoom t.made := by
  rcases lookup_cases b cacheable request t.store with h | ⟨key, hcacheable, hkey, h⟩
  · rw [h]
    trivial
  · rw [h]
    cases hget : ((b.get key).run t.store).1 with
    | error e => trivial
    | ok found =>
        cases found with
        | none => exact ⟨hcacheable, hkey⟩
        | some bytes =>
            have hkept := hb.get_found key t.store bytes hget
            exact ⟨key, hkey, hkept, ht.kept key.text bytes hkept⟩

/-- After a write there is nothing but what there was, and what was written. -/
theorem commit_kept (hb : b.Keeps view) {write : Option (Tile.Key × Bytes)} {s : σ}
    {text : String} {kept : Bytes}
    (h : view (((⟨some b, cacheable⟩ : ReadThrough (StateM σ)).commit write).run s).2 text
      = some kept) :
    view s text = some kept ∨
      ∃ key, write = some (key, kept) ∧ key.text = text ∧ key.zoom ≤ b.maxZoom := by
  cases write with
  | none => exact Or.inl h
  | some w =>
      obtain ⟨key, bytes⟩ := w
      have hset : view ((b.set key bytes).run s).2 text = some kept := h
      -- the backend does not tell a write that is not kept from one that is
      by_cases habove : b.maxZoom < key.zoom
      · exact Or.inl (hb.set_above key bytes s habove text kept hset)
      · rcases hb.set_writes key bytes s text kept hset with hold | ⟨htext, hbytes⟩
        · exact Or.inl hold
        · exact Or.inr ⟨key, by rw [hbytes], htext.symm, UInt32.not_lt.mp habove⟩

/-! ## Every step keeps it -/

/-- One client comes to its next stop. -/
theorem sound_move {t t' : Traffic σ} {before after : List Visit} {v v' : Visit}
    (h : Sound cacheable maxZoom view t) (hvisits : t.visits = before ++ v :: after)
    (hstore : t'.store = t.store) (hvisits' : t'.visits = before ++ v' :: after)
    (more : List Made) (hmade : t'.made = t.made ++ more)
    (hv' : v'.Sound cacheable maxZoom t'.made)
    (hgiven : ∀ g ∈ t'.given, g.Honest cacheable maxZoom) :
    Sound cacheable maxZoom view t' where
  kept text bytes hkept := by
    rw [hstore] at hkept
    rw [hmade]
    exact genuine_mono (h.kept text bytes hkept) more
  visits u hu := by
    have hold := h.visits u
    rw [hvisits] at hold
    rw [hvisits'] at hu
    rcases List.mem_append.mp hu with hu | hu
    · rw [hmade]
      exact visit_mono (hold (List.mem_append_left _ hu)) more
    · rcases List.mem_cons.mp hu with hu | hu
      · rw [hu]
        exact hv'
      · rw [hmade]
        exact visit_mono (hold (List.mem_append_right _ (List.mem_cons_of_mem _ hu))) more
  given := hgiven

/-- Clients go and entries get lost, and that is all. -/
theorem sound_lose {t t' : Traffic σ} (h : Sound cacheable maxZoom view t)
    (hstore : view.Loses t.store t'.store) (hvisits : ∀ v ∈ t'.visits, v ∈ t.visits)
    (hmade : t'.made = t.made) (hgiven : t'.given = t.given) :
    Sound cacheable maxZoom view t' where
  kept text bytes hkept := by
    rw [hmade]
    exact h.kept text bytes (hstore text bytes hkept)
  visits v hv := by
    rw [hmade]
    exact h.visits v (hvisits v hv)
  given := by
    rw [hgiven]
    exact h.given

theorem mem_removed {before after : List Visit} {v : Visit} :
    ∀ u ∈ before ++ after, u ∈ before ++ v :: after := by
  intro u hu
  rcases List.mem_append.mp hu with hu | hu
  · exact List.mem_append_left _ hu
  · exact List.mem_append_right _ (List.mem_cons_of_mem _ hu)

/-- What the generator's answer becomes: it is captured only if it may be kept, and it does not say
that it is from the cache. -/
theorem answer_sound {m : Made} {lookup : Lookup} {past : Past} {made : List Made}
    {response : Tile.Response}
    (h : (Visit.asking m.request lookup past).Sound cacheable maxZoom made)
    (hlookup : ∀ bytes, lookup ≠ .hit bytes)
    (hresponse : lookup.complete (.ok m.response) = .ok response) :
    (Visit.reading response.body).Sound cacheable maxZoom (made ++ [m]) ∧
      response.cacheStatus ≠ some .hit := by
  cases lookup with
  | hit bytes => exact absurd rfl (hlookup bytes)
  | bypass =>
      -- the cache is passed by, and the response goes through as it is
      have hr : m.response = response := Except.ok.inj hresponse
      subst hr
      refine ⟨fun cap hcap => absurd hcap ?_, ?_⟩
      · simp [Made.response, Tile.Response.streaming, Tile.Body.ofItems]
      · simp [Made.response, Tile.Response.streaming]
  | miss key =>
      -- a success is captured from its first piece on
      have hr : missResponse key m.response = response := Except.ok.inj hresponse
      subst hr
      refine ⟨fun cap hcap => ?_, by simp [missResponse]⟩
      obtain ⟨hcacheable, hkey⟩ := h
      unfold missResponse at hcap ⊢
      dsimp only at hcap ⊢
      split at hcap
      · rename_i hsuccess
        rw [if_pos hsuccess]
        have hcap' : Tile.Capture.start key = cap := Option.some.inj hcap
        subst hcap'
        unfold Tile.Response.isSuccess at hsuccess
        rw [Bool.and_eq_true, decide_eq_true_eq, decide_eq_true_eq] at hsuccess
        exact ⟨m, List.mem_append_right _ List.mem_cons_self, ⟨hcacheable, hkey, hsuccess⟩, [],
          captured_start key, rfl⟩
      · exact absurd hcap (by simp [Made.response, Tile.Response.streaming, Tile.Body.ofItems])

/-- Reading on. -/
theorem read_sound {made : List Made} {body rest : Tile.Body} {i : Tile.Item}
    (h : (Visit.reading body).Sound cacheable maxZoom made) (hnext : body.next = .item i rest) :
    (Visit.reading rest).Sound cacheable maxZoom made := by
  obtain ⟨items, capture⟩ := body
  cases items with
  | nil => exact absurd hnext (by simp [Tile.Body.next])
  | cons j is =>
      obtain ⟨rfl, rfl⟩ := Tile.Body.Step.item.inj hnext
      intro cap hcap
      cases capture with
      | none => exact absurd hcap (by simp)
      | some cap₀ =>
          have hcap' : cap₀.note j = cap := Option.some.inj hcap
          obtain ⟨m, hm, hfit, read, hread, hitems⟩ := h cap₀ rfl
          subst hcap'
          refine ⟨m, hm, (note_key cap₀ j).symm ▸ hfit, read ++ [j], captured_note hread j, ?_⟩
          rw [hitems, List.append_assoc]
          rfl

/-- Coming to the end. -/
theorem finish_sound {made : List Made} {body : Tile.Body} {write : Option (Tile.Key × Bytes)}
    (h : (Visit.reading body).Sound cacheable maxZoom made) (hnext : body.next = .done write) :
    (Visit.writing write).Sound cacheable maxZoom made := by
  obtain ⟨items, capture⟩ := body
  cases items with
  | cons j is => exact absurd hnext (by simp [Tile.Body.next])
  | nil =>
      have hwrite : capture.bind Tile.Capture.write? = write := Tile.Body.Step.done.inj hnext
      intro key bytes hsome
      rw [hsome] at hwrite
      cases capture with
      | none => exact absurd hwrite (by simp)
      | some cap =>
          obtain ⟨m, hm, hfit, read, hread, hitems⟩ := h cap rfl
          -- nothing is left to read, so what was read is the whole answer
          obtain ⟨rfl, hnonempty, chunks, hchunks, hbytes⟩ := write_captured hread hwrite
          have hall : m.items = chunks.map .ok := by
            rw [hitems, hchunks]
            exact List.append_nil _
          exact ⟨m, hm, hfit, ⟨chunks, hall, hbytes⟩, hnonempty⟩

/-- **Every step keeps the invariant.** -/
theorem sound_step {t t' : Traffic σ} (hb : b.Keeps view) (h : Sound cacheable b.maxZoom view t)
    (hs : Step ⟨some b, cacheable⟩ view t t') : Sound cacheable b.maxZoom view t' := by
  cases hs with
  | enter request =>
      refine ⟨?_, ?_, h.given⟩
      · intro text bytes hkept
        exact h.kept text bytes (lookup_loses hb request t.store text bytes hkept)
      · intro v hv
        rcases List.mem_append.mp hv with hv | hv
        · exact h.visits v hv
        · rw [List.mem_singleton.mp hv]
          exact lookup_sound hb h request
  | @hit before after request bytes past hvisits =>
      have hv : (Visit.asking request (.hit bytes) past).Sound cacheable b.maxZoom t.made :=
        h.visits _ (by rw [hvisits]; simp)
      obtain ⟨key, hkey, hkept, hgenuine⟩ := hv
      refine sound_move h hvisits rfl rfl [] (List.append_nil _).symm ?_ ?_
      · exact fun cap hcap => absurd hcap
          (by simp [hitResponse, Tile.Response.ok, Tile.Response.streaming, Tile.Body.ofItems])
      · intro g hg
        rcases List.mem_append.mp hg with hg | hg
        · exact h.given g hg
        · rw [List.mem_singleton.mp hg]
          exact fun _ => ⟨key, bytes, hkey, rfl, hkept, hgenuine⟩
  | @answer before after m lookup past response hvisits hlookup hresponse =>
      have hv : (Visit.asking m.request lookup past).Sound cacheable b.maxZoom t.made :=
        h.visits _ (by rw [hvisits]; simp)
      obtain ⟨hreading, hstatus⟩ := answer_sound hv hlookup hresponse
      refine sound_move h hvisits rfl rfl [m] rfl hreading ?_
      intro g hg
      rcases List.mem_append.mp hg with hg | hg
      · exact h.given g hg
      · rw [List.mem_singleton.mp hg]
        exact fun hhit => absurd hhit hstatus
  | @read before after body rest i hvisits hnext =>
      have hv := h.visits (.reading body) (by rw [hvisits]; simp)
      exact sound_move h hvisits rfl rfl [] (List.append_nil _).symm (read_sound hv hnext) h.given
  | @finish before after body write hvisits hnext =>
      have hv := h.visits (.reading body) (by rw [hvisits]; simp)
      exact sound_move h hvisits rfl rfl [] (List.append_nil _).symm (finish_sound hv hnext)
        h.given
  | @write before after write hvisits =>
      have hv := h.visits (.writing write) (by rw [hvisits]; simp)
      refine ⟨?_, fun v hv => h.visits v (hvisits ▸ mem_removed v hv), h.given⟩
      intro text bytes hkept
      -- an entry is an old one, or the one that this client has read in full
      rcases commit_kept hb hkept with hold | ⟨key, hwrite, htext, hzoom⟩
      · exact h.kept text bytes hold
      · obtain ⟨m, hm, hwhole⟩ := hv key bytes hwrite
        exact ⟨m, hm, key, hwhole, htext, hzoom⟩
  | leave hvisits =>
      exact sound_lose h (view.loses_refl _) (fun v hv => hvisits ▸ mem_removed v hv) rfl rfl
  | @purge b' key hbackend =>
      have hb' : b = b' := Option.some.inj hbackend
      subst hb'
      exact sound_lose h (hb.purge_loses key t.store) (fun _ hv => hv) rfl rfl
  | lose hlost => exact sound_lose h hlost (fun _ hv => hv) rfl rfl

/-! ## What the cache holds -/

/--
**The cache holds whole tiles only**, whatever clients and the store do, if it was empty at first.

Every entry is the whole of a success that the generator gave for a cacheable request whose key has
this text and a zoom that may be kept, and a response from the cache is such an entry as it was when
the request was looked up.
-/
theorem cache_holds_whole_tiles {store : σ} {t : Traffic σ} (hb : Provided view b)
    (hempty : ∀ text, view store text = none)
    (h : Reachable ⟨some b, cacheable⟩ view store t) :
    (∀ text bytes, view t.store text = some bytes →
      Genuine cacheable b.maxZoom t.made text bytes) ∧
    ∀ g ∈ t.given, g.response.cacheStatus = some .hit → ∃ key bytes,
      g.request.cacheKey = .ok key ∧ g.response = hitResponse bytes ∧
      g.past.kept key.text = some bytes ∧
      Genuine cacheable b.maxZoom g.past.made key.text bytes := by
  have hsound : Sound cacheable b.maxZoom view t := by
    induction h with
    | init => exact sound_init hempty
    | tail _ hs ih => exact sound_step (provided_keeps hb) ih hs
  exact ⟨hsound.kept, hsound.given⟩

/-- A tile in two chunks. -/
def plainTile : Made :=
  ⟨⟨"/osm/3/4/2", none⟩, 200, none, [.ok [1], .ok [2]]⟩

def plainKey : Tile.Key :=
  ⟨"osm", 3, 4, 2, none⟩

/-- The memory backend by itself. -/
def plainCache : ReadThrough (StateM Entries) :=
  ⟨some ((memory 14).lift fun p => p), []⟩

theorem plain_drain (s : Entries) :
    (plainCache.drain (missResponse plainKey plainTile.response).body).run s =
      (.ok [1, 2], s.insert "osm/3/4/2" [1, 2]) := rfl

/-- Two clients ask for the tile, the second one after the first one has read it. The generator has
made it once. -/
theorem plain_given_twice : ∃ t g, Reachable plainCache Entries.get? .empty t ∧ g ∈ t.given ∧
    g.response.cacheStatus = some .hit ∧ t.store.get? "osm/3/4/2" = some [1, 2] ∧
    t.made = [plainTile] := by
  have hmissed := @serve_reachable _ plainCache Entries.get? .empty _ plainTile
    (missResponse plainKey plainTile.response) .init rfl
  have hread := @drain_reachable _ _ _ _ _ [] [] _ hmissed rfl
  rw [plain_drain] at hread
  have hfound := @serve_reachable _ _ _ _ _ plainTile (hitResponse [1, 2]) hread rfl
  exact ⟨_, _, hfound, List.mem_append_right _ List.mem_cons_self, rfl, rfl, rfl⟩

theorem plain_holds_whole_tiles : ∃ t g, Reachable plainCache Entries.get? .empty t ∧
    t.made = [plainTile] ∧ Genuine [] 14 t.made "osm/3/4/2" [1, 2] ∧ g ∈ t.given ∧
      ∃ bytes, g.response = hitResponse bytes := by
  obtain ⟨t, g, h, hg, hhit, hkept, honce⟩ := plain_given_twice
  have hplace : Access (fun p => p) (fun s : Entries => s) := ⟨fun _ _ => rfl, fun _ _ => rfl⟩
  obtain ⟨hentries, hgiven⟩ :=
    cache_holds_whole_tiles (.memory 14 hplace) (fun _ => rfl) h
  obtain ⟨_, bytes, _, hresponse, _⟩ := hgiven g hg hhit
  exact ⟨t, g, h, honce, hentries _ _ hkept, hg, bytes, hresponse⟩

end TileDepot.Cache
