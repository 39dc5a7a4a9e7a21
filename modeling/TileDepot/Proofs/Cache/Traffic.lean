import TileDepot.Cache.ReadThrough
import TileDepot.Proofs.Cache.Keeping

/-!
# A cache among its clients

Any number of clients ask a read-through cache for tiles at the same time. Each is looked up, waits
for the generator if nothing was found, and reads its response piece by piece, unless it goes away;
who comes to the end of a response writes it. `Traffic` is the store with all clients that are there
and a record of what was made and given, and `Step` is one thing that happens: to one client, or to
the store, which may be purged and may lose what it keeps whenever it likes.

Two clients never take one step together, but between any two steps of one client all the others may
take theirs.
-/

namespace TileDepot.Cache

/-- What a generator made of a request. -/
structure Made where
  request : Tile.Request
  status : Nat
  contentType : Option String
  items : List Tile.Item

/-- The generator's response. It does not say that it is from a cache, and nobody captures it. -/
def Made.response (m : Made) : Tile.Response :=
  .streaming m.status m.contentType m.items

/-- What was kept, and what had been made, at some time. -/
structure Past where
  kept : String → Option Bytes
  made : List Made

/-- How far a client has come. -/
inductive Visit where
  /-- It has been looked up. -/
  | asking (request : Tile.Request) (lookup : Lookup) (past : Past)
  | reading (body : Tile.Body)
  /-- It has come to the end of its body. -/
  | writing (write : Option (Tile.Key × Bytes))

/-- A response with the request that it was given to. -/
structure Given where
  request : Tile.Request
  /-- How things stood when the request was looked up. -/
  past : Past
  response : Tile.Response

/-- A store, the clients that are there, and all that was made and given so far. -/
structure Traffic (σ : Type) where
  store : σ
  visits : List Visit
  made : List Made
  given : List Given

namespace Traffic

variable {σ : Type}

/-- Nobody is there yet. -/
def start (store : σ) : Traffic σ :=
  ⟨store, [], [], []⟩

def past (t : Traffic σ) (view : View σ) : Past :=
  ⟨view t.store, t.made⟩

end Traffic

variable {σ : Type} (c : ReadThrough (StateM σ)) (view : View σ)

/-- One thing that happens. -/
inductive Step : Traffic σ → Traffic σ → Prop where
  | enter {t : Traffic σ} (request : Tile.Request) :
      Step t { t with
        store := ((c.lookup request).run t.store).2
        visits := t.visits ++
          [.asking request ((c.lookup request).run t.store).1 (t.past view)] }
  /-- What was found is given at once. -/
  | hit {t : Traffic σ} {before after : List Visit} {request : Tile.Request} {bytes : Bytes}
      {past : Past} : t.visits = before ++ .asking request (.hit bytes) past :: after →
      Step t { t with
        visits := before ++ .reading (hitResponse bytes).body :: after
        given := t.given ++ [⟨request, past, hitResponse bytes⟩] }
  /-- The generator answers who was not given anything from the cache. -/
  | answer {t : Traffic σ} {before after : List Visit} {m : Made} {lookup : Lookup} {past : Past}
      {response : Tile.Response} : t.visits = before ++ .asking m.request lookup past :: after →
      (∀ bytes, lookup ≠ .hit bytes) → lookup.complete (.ok m.response) = .ok response →
      Step t { t with
        visits := before ++ .reading response.body :: after
        made := t.made ++ [m]
        given := t.given ++ [⟨m.request, past, response⟩] }
  | read {t : Traffic σ} {before after : List Visit} {body rest : Tile.Body} {i : Tile.Item} :
      t.visits = before ++ .reading body :: after → body.next = .item i rest →
      Step t { t with visits := before ++ .reading rest :: after }
  | finish {t : Traffic σ} {before after : List Visit} {body : Tile.Body}
      {write : Option (Tile.Key × Bytes)} :
      t.visits = before ++ .reading body :: after → body.next = .done write →
      Step t { t with visits := before ++ .writing write :: after }
  | write {t : Traffic σ} {before after : List Visit} {write : Option (Tile.Key × Bytes)} :
      t.visits = before ++ .writing write :: after →
      Step t { t with
        store := ((c.commit write).run t.store).2
        visits := before ++ after }
  /-- A client goes, with an error of the generator or because it does not want to wait. -/
  | leave {t : Traffic σ} {before after : List Visit} {v : Visit} :
      t.visits = before ++ v :: after → Step t { t with visits := before ++ after }
  | purge {t : Traffic σ} {b : Backend (StateM σ)} (key : Tile.Key) : c.backend = some b →
      Step t { t with store := ((b.purge key).run t.store).2 }
  /-- The store changes by itself. -/
  | lose {t : Traffic σ} {store : σ} : view.Loses t.store store → Step t { t with store }

/-- What can come of a store that clients begin to use. -/
inductive Reachable (store : σ) : Traffic σ → Prop where
  | init : Reachable store (.start store)
  | tail {t t' : Traffic σ} : Reachable store t → Step c view t t' → Reachable store t'

/-! ## Steps in a row -/

variable {c view}

/-- The cache takes part in a request that it may keep. -/
theorem lookup_run {b : Backend (StateM σ)} (hbackend : c.backend = some b)
    {request : Tile.Request} {key : Tile.Key}
    (hcacheable : isCacheable c.cacheable request = true) (hkey : request.cacheKey = .ok key)
    (s : σ) : (c.lookup request).run s
      = (.ofAnswer key ((b.get key).run s).1, ((b.get key).run s).2) := by
  unfold ReadThrough.lookup
  rw [hbackend]
  dsimp only
  rw [if_pos hcacheable, hkey]
  rfl

/-- Where there is nothing to write, nothing happens. -/
theorem commit_none {m : Type → Type} [Monad m] (c : ReadThrough m) :
    c.commit none = pure () := by
  unfold ReadThrough.commit
  cases c.backend <;> rfl

theorem serve_run (c : ReadThrough (StateM σ)) (answer : Except Tile.Error Tile.Response)
    (request : Tile.Request) (s : σ) :
    (c.serve (fun _ => pure answer) request).run s =
      (match ((c.lookup request).run s).1 with
        | .hit bytes => .ok (hitResponse bytes)
        | l => l.complete answer, ((c.lookup request).run s).2) := by
  unfold ReadThrough.serve
  rw [StateT.run_bind]
  generalize (c.lookup request).run s = found
  obtain ⟨l, s'⟩ := found
  cases l <;> rfl

/-- How often the generator is called for a request that has been looked up. -/
def Lookup.calls : Lookup → Nat
  | .hit _ => 0
  | .bypass | .miss _ => 1

/-- What the generator makes of such a request: nothing for a hit. -/
def Lookup.made (answer : Except Tile.Error Made) : Lookup → List Made
  | .hit _ => []
  | .bypass | .miss _ => answer.toOption.toList

/-- **A request that is served in one go is served by steps**, and the generator has made as much as
the look-up lets it. -/
theorem serve_reachable {store : σ} {t : Traffic σ} {m : Made} {response : Tile.Response}
    (h : Reachable c view store t)
    (hserve : ((c.serve (fun _ => pure (.ok m.response)) m.request).run t.store).1
      = .ok response) :
    Reachable c view store
      { store := ((c.serve (fun _ => pure (.ok m.response)) m.request).run t.store).2
        visits := t.visits ++ [.reading response.body]
        made := t.made ++ ((c.lookup m.request).run t.store).1.made (.ok m)
        given := t.given ++ [⟨m.request, t.past view, response⟩] } := by
  have henter := h.tail (.enter m.request)
  rw [serve_run] at hserve ⊢
  generalize (c.lookup m.request).run t.store = found at *
  obtain ⟨l, s⟩ := found
  cases l with
  | hit bytes =>
      have hresponse : hitResponse bytes = response := Except.ok.inj hserve
      subst hresponse
      rw [Lookup.made, List.append_nil]
      exact henter.tail (.hit rfl)
  | bypass => exact henter.tail (.answer rfl (by simp) hserve)
  | miss key => exact henter.tail (.answer rfl (by simp) hserve)

/-- **A body that is read in one go is read by steps.** -/
theorem drain_reachable {store : σ} {t : Traffic σ} {before after : List Visit}
    {body : Tile.Body} (h : Reachable c view store t)
    (hvisits : t.visits = before ++ .reading body :: after) :
    Reachable c view store { t with
      store := ((c.drain body).run t.store).2
      visits := before ++ after } := by
  obtain ⟨items, capture⟩ := body
  unfold ReadThrough.drain
  dsimp only
  generalize hkept : ([] : List Bytes) = kept
  clear hkept
  induction items generalizing t capture kept with
  | nil =>
      have hfinish := h.tail (.finish hvisits rfl)
      exact hfinish.tail (.write rfl)
  | cons i is ih =>
      cases i with
      | error e => exact h.tail (.leave hvisits)
      | ok chunk =>
          have hread := h.tail (.read hvisits rfl)
          exact ih hread _ rfl _

end TileDepot.Cache
