import TileDepot.Proofs.Cache.Tee
import TileDepot.Proofs.Recording

/-!
# Serving is never worse than the generator

A cache in front of a generator saves calls of the generator and costs nothing: the generator is
called once, or never if there is an entry; a request fails only if the generator fails; and where the
cache takes no part the generator's response goes through as it is, and nothing is written for it,
then or later (`serving_no_worse`).

All of this goes back to the look-up. `found_iff`, `missed_iff` and `passed_iff` say what a look-up
tells of the cache and the request; `serve_served` says what serving makes of what it tells, with the
calls on record.
-/

namespace TileDepot.Cache

variable {σ : Type}

/-! ## When a cache takes part -/

/-- The cache takes part in a request: there is a backend, the request has no query or one with a
cacheable parameter, and its path names a tile. -/
structure TakesPart (c : ReadThrough (StateM σ)) (b : Backend (StateM σ)) (r : Tile.Request)
    (key : Tile.Key) : Prop where
  backend : c.backend = some b
  cacheable : r.query = none ∨ ∃ p ∈ r.pairs, p.1 ∈ c.cacheable
  key : r.cacheKey = .ok key

/-- The ways in which a request is passed by. -/
inductive PassedBy (c : ReadThrough (StateM σ)) (r : Tile.Request) (s : σ) : Prop where
  | noBackend : c.backend = none → PassedBy c r s
  | notCacheable {q : String} : r.query = some q → (∀ p ∈ r.pairs, p.1 ∉ c.cacheable) →
      PassedBy c r s
  | noTile {e : Tile.KeyError} : Tile.Key.ofPath r.path = .error e → PassedBy c r s
  /-- The backend fails to look it up. -/
  | refused {b : Backend (StateM σ)} {key : Tile.Key} {e : Error} : TakesPart c b r key →
      ((b.get key).run s).1 = .error e → PassedBy c r s

theorem isCacheable_iff (cacheable : List String) (r : Tile.Request) :
    isCacheable cacheable r = true ↔ r.query = none ∨ ∃ p ∈ r.pairs, p.1 ∈ cacheable := by
  unfold isCacheable
  cases r.query with
  | none => simp
  | some q => simp

/-- A query does not matter to whether there is a key. -/
theorem cacheKey_error_iff (r : Tile.Request) (e : Tile.KeyError) :
    r.cacheKey = .error e ↔ Tile.Key.ofPath r.path = .error e := by
  unfold Tile.Request.cacheKey Tile.Request.key
  cases Tile.Key.ofPath r.path with
  | error e' => exact Iff.rfl
  | ok k => cases r.query <;> simp [bind, Except.bind, pure, Except.pure]

variable {c : ReadThrough (StateM σ)} {b : Backend (StateM σ)} {r : Tile.Request}
  {key : Tile.Key} {s s' : σ}

theorem lookup_takes (h : TakesPart c b r key) (s : σ) :
    ((c.lookup r).run s).1 = .ofAnswer key ((b.get key).run s).1 := by
  rw [lookup_run h.backend ((isCacheable_iff _ _).mpr h.cacheable) h.key]

theorem lookup_passes (h : PassedBy c r s) : ((c.lookup r).run s).1 = .bypass := by
  cases h with
  | noBackend hnone =>
      unfold ReadThrough.lookup
      rw [hnone]
      rfl
  | notCacheable hquery hnot =>
      -- the query is asked about before the path, so it does not matter what that names
      have hfalse : ¬ isCacheable c.cacheable r = true := by
        rw [isCacheable_iff]
        rintro (hnone | ⟨p, hp, hlisted⟩)
        · exact absurd (hnone.symm.trans hquery) (by simp)
        · exact hnot p hp hlisted
      unfold ReadThrough.lookup
      cases c.backend with
      | none => rfl
      | some b =>
          dsimp only
          rw [if_neg hfalse]
          rfl
  | noTile hpath =>
      -- the cache may have been passed by already, for the query
      unfold ReadThrough.lookup
      rw [(cacheKey_error_iff r _).mpr hpath]
      cases c.backend with
      | none => rfl
      | some b =>
          dsimp only
          split <;> rfl
  | refused htakes hget =>
      rw [lookup_takes htakes, hget]
      rfl

/-- There is no third way. -/
theorem passed_or_answered (c : ReadThrough (StateM σ)) (r : Tile.Request) (s : σ) :
    PassedBy c r s ∨
      ∃ b key found, TakesPart c b r key ∧ ((b.get key).run s).1 = .ok found := by
  cases hbackend : c.backend with
  | none => exact Or.inl (.noBackend hbackend)
  | some b =>
      by_cases hcacheable : r.query = none ∨ ∃ p ∈ r.pairs, p.1 ∈ c.cacheable
      · cases hkey : r.cacheKey with
        | error e => exact Or.inl (.noTile ((cacheKey_error_iff r e).mp hkey))
        | ok key =>
            have htakes : TakesPart c b r key := ⟨hbackend, hcacheable, hkey⟩
            cases hget : ((b.get key).run s).1 with
            | error e => exact Or.inl (.refused htakes hget)
            | ok found => exact Or.inr ⟨b, key, found, htakes, hget⟩
      · rw [not_or] at hcacheable
        obtain ⟨q, hq⟩ := Option.ne_none_iff_exists'.mp hcacheable.1
        exact Or.inl (.notCacheable hq fun p hp hlisted => hcacheable.2 ⟨p, hp, hlisted⟩)

theorem passed_iff (c : ReadThrough (StateM σ)) (r : Tile.Request) (s : σ) :
    ((c.lookup r).run s).1 = .bypass ↔ PassedBy c r s := by
  refine ⟨fun h => ?_, lookup_passes⟩
  rcases passed_or_answered c r s with hpassed | ⟨b, key, found, htakes, hget⟩
  · exact hpassed
  · rw [lookup_takes htakes, hget] at h
    cases found <;> exact absurd h (by simp [Lookup.ofAnswer])

theorem found_iff (c : ReadThrough (StateM σ)) (r : Tile.Request) (s : σ) (bytes : Bytes) :
    ((c.lookup r).run s).1 = .hit bytes ↔
      ∃ b key, TakesPart c b r key ∧ ((b.get key).run s).1 = .ok (some bytes) := by
  constructor
  · intro h
    rcases passed_or_answered c r s with hpassed | ⟨b, key, found, htakes, hget⟩
    · exact absurd ((lookup_passes hpassed).symm.trans h) (by simp)
    · rw [lookup_takes htakes, hget] at h
      cases found with
      | none => exact absurd h (by simp [Lookup.ofAnswer])
      | some bytes' =>
          have hbytes : bytes' = bytes := Lookup.hit.inj h
          exact ⟨b, key, htakes, hbytes ▸ hget⟩
  · rintro ⟨b, key, htakes, hget⟩
    rw [lookup_takes htakes, hget]
    rfl

theorem missed_iff (c : ReadThrough (StateM σ)) (r : Tile.Request) (s : σ) (key : Tile.Key) :
    ((c.lookup r).run s).1 = .miss key ↔
      ∃ b, TakesPart c b r key ∧ ((b.get key).run s).1 = .ok none := by
  constructor
  · intro h
    rcases passed_or_answered c r s with hpassed | ⟨b, key', found, htakes, hget⟩
    · exact absurd ((lookup_passes hpassed).symm.trans h) (by simp)
    · rw [lookup_takes htakes, hget] at h
      cases found with
      | some bytes => exact absurd h (by simp [Lookup.ofAnswer])
      | none =>
          have hkey : key' = key := Lookup.miss.inj h
          exact ⟨b, hkey ▸ htakes, hkey ▸ hget⟩
  · rintro ⟨b, htakes, hget⟩
    rw [lookup_takes htakes, hget]
    rfl

/-! ## Calls on record -/

/-- A call of the backend or of the generator. -/
inductive Call where
  | looked (key : Tile.Key)
  | wrote (key : Tile.Key) (bytes : Bytes)
  | purged (key : Tile.Key)
  | generated (request : Tile.Request) (answer : Except Tile.Error Made)

/-- The request and the answer, if it is a call of the generator. -/
def Call.generated? : Call → Option (Tile.Request × Except Tile.Error Made)
  | .generated request answer => some (request, answer)
  | _ => none

def Backend.onRecord (b : Backend (StateM σ)) : Backend (StateM (Recorded Call σ)) where
  name := b.name
  maxZoom := b.maxZoom
  get key := recorded (fun _ => .looked key) (b.get key)
  set key bytes := recorded (fun _ => .wrote key bytes) (b.set key bytes)
  purge key := recorded (fun _ => .purged key) (b.purge key)

def ReadThrough.onRecord (c : ReadThrough (StateM σ)) : ReadThrough (StateM (Recorded Call σ)) :=
  ⟨c.backend.map Backend.onRecord, c.cacheable⟩

/-- A generator makes something of a request or fails. -/
abbrev Maker (σ : Type) := Tile.Request → StateM σ (Except Tile.Error Made)

/-- The responses of a generator. -/
def Maker.respond (g : Maker σ) (r : Tile.Request) :
    StateM σ (Except Tile.Error Tile.Response) := do
  return (← g r).map Made.response

def Maker.onRecord (g : Maker σ) : Maker (Recorded Call σ) :=
  fun r => recorded (.generated r) (g r)

/-- A look-up finds the same with its calls on record, and these are calls for looking up. -/
theorem lookup_onRecord (c : ReadThrough (StateM σ)) (r : Tile.Request) (s : σ) :
    ∃ looked, (∀ call ∈ looked, ∃ key, call = .looked key) ∧
      (c.onRecord.lookup r).run ⟨s, []⟩
        = (((c.lookup r).run s).1, ⟨((c.lookup r).run s).2, looked⟩) := by
  obtain ⟨backend, cacheable⟩ := c
  unfold ReadThrough.lookup ReadThrough.onRecord
  cases backend with
  | none => exact ⟨[], by simp, rfl⟩
  | some b =>
      dsimp only [Option.map_some]
      by_cases hcacheable : isCacheable cacheable r = true
      · rw [if_pos hcacheable, if_pos hcacheable]
        cases r.cacheKey with
        | error e => exact ⟨[], by simp, rfl⟩
        | ok key => exact ⟨[.looked key], by simp, rfl⟩
      · rw [if_neg hcacheable, if_neg hcacheable]
        exact ⟨[], by simp, rfl⟩

/-! ## Serving -/

theorem serve_found {bytes : Bytes} (h : (c.lookup r).run s = (.hit bytes, s'))
    (generate : Tile.Request → StateM σ (Except Tile.Error Tile.Response)) :
    (c.serve generate r).run s = (.ok (hitResponse bytes), s') := by
  unfold ReadThrough.serve
  rw [StateT.run_bind, h]
  rfl

theorem serve_generated {l : Lookup} (h : (c.lookup r).run s = (l, s'))
    (hl : ∀ bytes, l ≠ .hit bytes)
    (generate : Tile.Request → StateM σ (Except Tile.Error Tile.Response)) :
    (c.serve generate r).run s
      = (l.complete ((generate r).run s').1, ((generate r).run s').2) := by
  unfold ReadThrough.serve
  rw [StateT.run_bind, h]
  cases l with
  | hit bytes => exact absurd rfl (hl bytes)
  | bypass => rfl
  | miss key => rfl

theorem respond_run (g : Maker σ) (r : Tile.Request) (s : σ) :
    (g.respond r).run s = (((g r).run s).1.map Made.response, ((g r).run s).2) := rfl

/-- The calls of the generator for a request, and the answer, by what the look-up told. -/
inductive Serving (r : Tile.Request) : Lookup → List (Tile.Request × Except Tile.Error Made) →
    Except Tile.Error Tile.Response → Prop where
  | found (bytes : Bytes) : Serving r (.hit bytes) [] (.ok (hitResponse bytes))
  | missed (key : Tile.Key) (a : Except Tile.Error Made) :
      Serving r (.miss key) [(r, a)] (a.map fun m => missResponse key m.response)
  | passed (a : Except Tile.Error Made) : Serving r .bypass [(r, a)] (a.map Made.response)

theorem serving_complete (r : Tile.Request) {l : Lookup} (hl : ∀ bytes, l ≠ .hit bytes)
    (a : Except Tile.Error Made) : Serving r l [(r, a)] (l.complete (a.map Made.response)) := by
  cases l with
  | hit bytes => exact absurd rfl (hl bytes)
  | bypass => exact .passed a
  | miss key =>
      have hanswer : (Lookup.miss key).complete (a.map Made.response)
          = a.map fun m => missResponse key m.response := by
        cases a <;> rfl
      rw [hanswer]
      exact .missed key a

/-- A response that is missed in the cache is captured only if it is a success. -/
theorem missResponse_body (key : Tile.Key) {m : Made} (h : ¬ (200 ≤ m.status ∧ m.status < 300)) :
    (missResponse key m.response).body = .ofItems m.items := by
  have hfailure : ¬ m.response.isSuccess = true := by
    unfold Tile.Response.isSuccess
    rw [Bool.and_eq_true, decide_eq_true_eq, decide_eq_true_eq]
    exact h
  show (if m.response.isSuccess then _ else m.response.body) = _
  rw [if_neg hfailure]
  rfl

theorem missResponse_items (key : Tile.Key) (r : Tile.Response) :
    (missResponse key r).body.items = r.body.items := by
  unfold missResponse
  dsimp only
  split <;> rfl

section

variable {l : Lookup} {made : List (Tile.Request × Except Tile.Error Made)}
  {answer : Except Tile.Error Tile.Response}

theorem serving_once (h : Serving r l made answer) : made = [] ∨ ∃ a, made = [(r, a)] := by
  cases h with
  | found bytes => exact Or.inl rfl
  | missed key a => exact Or.inr ⟨a, rfl⟩
  | passed a => exact Or.inr ⟨a, rfl⟩

theorem serving_never_iff (h : Serving r l made answer) :
    made = [] ↔ ∃ bytes, l = .hit bytes := by
  cases h <;> simp

theorem serving_error_iff (h : Serving r l made answer) (e : Tile.Error) :
    answer = .error e ↔ made = [(r, .error e)] := by
  cases h with
  | found bytes => simp
  | missed key a => cases a <;> simp [Except.map]
  | passed a => cases a <;> simp [Except.map]

theorem serving_found {bytes : Bytes} (h : Serving r (.hit bytes) made answer) :
    answer = .ok (hitResponse bytes) := by
  cases h
  rfl

theorem serving_missed {key : Tile.Key} {m : Made} (h : Serving r (.miss key) made answer)
    (hmade : made = [(r, .ok m)]) : answer = .ok (missResponse key m.response) := by
  cases h with
  | missed _ a =>
      obtain ⟨_, ha⟩ := Prod.mk.inj (List.cons.inj hmade).1
      rw [ha]
      rfl

theorem serving_passed (h : Serving r .bypass made answer) :
    ∃ a, made = [(r, a)] ∧ answer = a.map Made.response := by
  cases h with
  | passed a => exact ⟨a, rfl, rfl⟩

/-- Where the generator made no success, nobody captures the answer. -/
theorem serving_uncaptured {response : Tile.Response}
    (h : Serving r l made (.ok response))
    (hfailed : ∀ m, (r, .ok m) ∈ made → ¬ (200 ≤ m.status ∧ m.status < 300)) :
    ∃ items, response.body = .ofItems items := by
  generalize hanswer : Except.ok response = answer at h
  cases h with
  | found bytes =>
      rw [Except.ok.inj hanswer]
      exact ⟨[.ok bytes], rfl⟩
  | missed key a =>
      cases a with
      | error e => exact absurd hanswer (by simp [Except.map])
      | ok m =>
          rw [Except.ok.inj hanswer]
          exact ⟨m.items, missResponse_body key (hfailed m List.mem_cons_self)⟩
  | passed a =>
      cases a with
      | error e => exact absurd hanswer (by simp [Except.map])
      | ok m =>
          rw [Except.ok.inj hanswer]
          exact ⟨m.items, rfl⟩

end

/-- **What serving makes of a look-up.** The record changes nothing, and no write is on it. -/
theorem serve_served (c : ReadThrough (StateM σ)) (g : Maker σ) (r : Tile.Request) (s : σ) :
    let served := (c.onRecord.serve g.onRecord.respond r).run ⟨s, []⟩
    Serving r ((c.lookup r).run s).1 (served.2.calls.filterMap Call.generated?) served.1 ∧
    (∀ key bytes, .wrote key bytes ∉ served.2.calls) ∧
    (c.serve g.respond r).run s = (served.1, served.2.world) := by
  intro served
  obtain ⟨looked, hlooked, hrun⟩ := lookup_onRecord c r s
  -- what is on record of the look-up is neither a call of the generator nor a write
  have hnone : looked.filterMap Call.generated? = [] := by
    rw [List.filterMap_eq_nil_iff]
    intro call hcall
    obtain ⟨key, rfl⟩ := hlooked call hcall
    rfl
  have hunwritten : ∀ key bytes, .wrote key bytes ∉ looked := by
    intro key bytes hwrote
    obtain ⟨_, heq⟩ := hlooked _ hwrote
    exact absurd heq (by simp)
  generalize hfound : (c.lookup r).run s = found at hrun ⊢
  obtain ⟨l, s'⟩ := found
  -- from here on serving does the same with and without the record
  by_cases hl : ∃ bytes, l = .hit bytes
  · obtain ⟨bytes, rfl⟩ := hl
    have hserved : served = (.ok (hitResponse bytes), ⟨s', looked⟩) := serve_found hrun _
    rw [serve_found hfound, hserved, hnone]
    exact ⟨.found bytes, hunwritten, rfl⟩
  · rw [not_exists] at hl
    have hserved : served = (l.complete (((g r).run s').1.map Made.response),
        ⟨((g r).run s').2, looked ++ [.generated r ((g r).run s').1]⟩) :=
      serve_generated hrun hl _
    rw [serve_generated hfound hl, respond_run, hserved, List.filterMap_append, hnone]
    refine ⟨serving_complete r hl _, fun key bytes hwrote => ?_, rfl⟩
    rcases List.mem_append.mp hwrote with hwrote | hwrote
    · exact hunwritten key bytes hwrote
    · exact absurd (List.mem_singleton.mp hwrote) (by simp)

/-! ## Reading what was served -/

/-- What a reader sees of a body with these pieces: up to `n` of them, and then the end. -/
def pieces (n : Nat) (items : List Tile.Item) : List (Option Tile.Item) :=
  (items.take n).map some ++ if n ≤ items.length then [] else [none]

theorem events_seen (items : List Tile.Item) :
    ∀ (capture : Option Tile.Capture) (n : Nat),
      (events n ⟨items, capture⟩).filterMap Event.seen? = pieces n items := by
  induction items with
  | nil =>
      intro capture n
      cases n with
      | zero => rfl
      | succ n =>
          show (ending (capture.bind Tile.Capture.write?)).filterMap Event.seen? = [none]
          cases capture.bind Tile.Capture.write? with
          | none => rfl
          | some w => rfl
  | cons i items ih =>
      intro capture n
      cases n with
      | zero => rfl
      | succ n =>
          have hnext : events (n + 1) ⟨i :: items, capture⟩
              = .handed i :: events n ⟨items, capture.map (·.note i)⟩ := rfl
          have hseen : Event.seen? (.handed i) = some (some i) := rfl
          rw [hnext, List.filterMap_cons_some hseen, ih]
          simp [pieces]

/-- **A body is relayed**, whether it is captured or not. -/
theorem read_relays (c : ReadThrough (StateM σ)) (n : Nat) (body : Tile.Body) (s : σ) :
    ((c.read n body).run s).1 = pieces n body.items := by
  rw [read_perform, perform_seen, StateT.run_bind, ← events_seen body.items body.capture n]
  rfl

/-- Only a capture calls the cache. -/
theorem events_uncaptured (items : List Tile.Item) :
    ∀ n key bytes, .called key bytes ∉ events n (.ofItems items) := by
  induction items with
  | nil =>
      intro n key bytes
      cases n with
      | zero => exact List.not_mem_nil
      | succ n =>
          have hend : events (n + 1) (.ofItems []) = [.ended] := rfl
          rw [hend]
          simp
  | cons i items ih =>
      intro n key bytes hcalled
      cases n with
      | zero => exact List.not_mem_nil hcalled
      | succ n =>
          rcases List.mem_cons.mp hcalled with heq | hcalled
          · exact absurd heq (by simp)
          · exact ih n key bytes hcalled

theorem calls_none (c : ReadThrough (StateM σ)) {es : List Event}
    (h : ∀ key bytes, .called key bytes ∉ es) : c.calls es = pure () := by
  induction es with
  | nil => rfl
  | cons e es ih =>
      have hrest := ih fun key bytes hmem => h key bytes (List.mem_cons_of_mem _ hmem)
      cases e with
      | handed i => exact hrest
      | ended => exact hrest
      | called key bytes => exact absurd List.mem_cons_self (h key bytes)

/-- Reading the body never comes to the cache: it makes no calls, and the world stays as it is. -/
structure ReadThrough.LeftAlone (c : ReadThrough (StateM σ)) (body : Tile.Body) : Prop where
  uncalled : ∀ n key bytes, .called key bytes ∉ events n body
  unchanged : ∀ n (w : Recorded Call σ), ((c.onRecord.read n body).run w).2 = w

theorem leftAlone_uncaptured (c : ReadThrough (StateM σ)) (items : List Tile.Item) :
    c.LeftAlone (.ofItems items) where
  uncalled := events_uncaptured items
  unchanged n w := by
    rw [read_perform, perform_seen, calls_none _ (events_uncaptured items n)]
    rfl

/--
**Serving is never worse than the generator.**

The generator is called once or never, and for this request; never just if the cache takes part and
finds an entry, which is then the answer. The request fails just if the generator does, and with its
error. If the cache passes the request by, the answer is the generator's, it does not say that it is
from a cache, and reading it leaves the cache alone. If the cache has no entry, the response says so,
and for the rest it is the generator's: its status, its content type and the pieces of its body,
whatever becomes of writing them. Serving itself writes nothing, and reading what was served does not
either unless the generator made a success. With the calls on record all is as it is without.
-/
theorem serving_no_worse (c : ReadThrough (StateM σ)) (g : Maker σ) (r : Tile.Request) (s : σ) :
    let served := (c.onRecord.serve g.onRecord.respond r).run ⟨s, []⟩
    let answer := served.1
    let calls := served.2.calls
    let made := calls.filterMap Call.generated?
    (made = [] ∨ ∃ a, made = [(r, a)]) ∧
    (made = [] ↔ ∃ b key bytes, TakesPart c b r key ∧ ((b.get key).run s).1 = .ok (some bytes)) ∧
    (∀ b key bytes, TakesPart c b r key → ((b.get key).run s).1 = .ok (some bytes) →
      answer = .ok (hitResponse bytes)) ∧
    (∀ e, answer = .error e ↔ made = [(r, .error e)]) ∧
    (PassedBy c r s → ∃ a, made = [(r, a)] ∧ answer = a.map Made.response ∧
      ∀ response, answer = .ok response →
        response.cacheStatus = none ∧ c.LeftAlone response.body) ∧
    (∀ b key m, TakesPart c b r key → ((b.get key).run s).1 = .ok none → made = [(r, .ok m)] →
      ∃ response, answer = .ok response ∧ response.status = m.status ∧
        response.contentType = m.contentType ∧ response.cacheStatus = some .miss ∧
        ∀ n w, ((c.onRecord.read n response.body).run w).1 = pieces n m.items) ∧
    (∀ key bytes, .wrote key bytes ∉ calls) ∧
    ((∀ m, (r, .ok m) ∈ made → ¬ (200 ≤ m.status ∧ m.status < 300)) →
      ∀ response, answer = .ok response → c.LeftAlone response.body) ∧
    (c.serve g.respond r).run s = (answer, served.2.world) := by
  intro served answer calls made
  obtain ⟨hserving, hunwritten, hplain⟩ := serve_served c g r s
  have hserving : Serving r ((c.lookup r).run s).1 made answer := hserving
  refine ⟨serving_once hserving, ?_, ?_, serving_error_iff hserving, ?_, ?_, hunwritten, ?_, hplain⟩
  · rw [serving_never_iff hserving]
    constructor
    · rintro ⟨bytes, hl⟩
      obtain ⟨b, key, htakes, hget⟩ := (found_iff c r s bytes).mp hl
      exact ⟨b, key, bytes, htakes, hget⟩
    · rintro ⟨b, key, bytes, htakes, hget⟩
      exact ⟨bytes, (found_iff c r s bytes).mpr ⟨b, key, htakes, hget⟩⟩
  · intro b key bytes htakes hget
    rw [(found_iff c r s bytes).mpr ⟨b, key, htakes, hget⟩] at hserving
    exact serving_found hserving
  · intro hpassed
    rw [(passed_iff c r s).mpr hpassed] at hserving
    obtain ⟨a, hmade, hanswer⟩ := serving_passed hserving
    refine ⟨a, hmade, hanswer, fun response hresponse => ?_⟩
    cases a with
    | error e => exact absurd (hanswer.symm.trans hresponse) (by simp [Except.map])
    | ok m =>
        have hm : m.response = response := Except.ok.inj (hanswer.symm.trans hresponse)
        rw [← hm]
        exact ⟨rfl, leftAlone_uncaptured c m.items⟩
  · intro b key m htakes hget hmade
    rw [(missed_iff c r s key).mpr ⟨b, htakes, hget⟩] at hserving
    refine ⟨missResponse key m.response, serving_missed hserving hmade, rfl, rfl, rfl, ?_⟩
    intro n w
    rw [read_relays, missResponse_items]
    rfl
  · intro hfailed response hresponse
    rw [hresponse] at hserving
    obtain ⟨items, hbody⟩ := serving_uncaptured hserving hfailed
    rw [hbody]
    exact leftAlone_uncaptured c items

/-- A backend that is down is asked once, and the generator is called as it would be without. -/
example :
    let down : Backend (StateM Unit) := {
      name := "down"
      maxZoom := 22
      get := fun _ => return .error (.backend "connection refused")
      set := fun _ _ => return .error (.backend "connection refused")
      purge := fun _ => return .ok () }
    let r : Tile.Request := ⟨"/osm/3/4/2", none⟩
    let m : Made := ⟨r, 200, none, [.ok [1]]⟩
    let g : Maker Unit := fun _ => return .ok m
    ((⟨some down, []⟩ : ReadThrough (StateM Unit)).onRecord.serve g.onRecord.respond r).run ⟨(), []⟩
      = (.ok m.response, ⟨(), [.looked ⟨"osm", 3, 4, 2, none⟩, .generated r (.ok m)]⟩) := rfl

end TileDepot.Cache
