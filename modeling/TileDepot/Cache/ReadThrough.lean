import TileDepot.Cache.Backend
import TileDepot.Tile.Request
import TileDepot.Tile.Response

/-!
# Read-through caching

A request is looked up first when its query allows it. On a miss the generator's response is passed
on as it is read, and written to the cache once it has been read to its end without an error. A
cache that fails is passed by; it never fails a request.
-/

namespace TileDepot.Cache

/-- The parameters that make a request cacheable if nothing else is said. -/
def defaultCacheable : List String := ["task_id", "isSlice"]

/-- A cache in front of a generator. -/
structure ReadThrough (m : Type → Type) where
  backend : Option (Backend m)
  /-- A query is cacheable if it has one of these parameters. -/
  cacheable : List String

/-- A request without a query is cacheable, and one whose query has a cacheable parameter. -/
def isCacheable (cacheable : List String) (r : Tile.Request) : Bool :=
  match r.query with
  | none => true
  | some _ => r.pairs.any fun p => cacheable.contains p.1

/-- What a look-up says about a request. -/
inductive Lookup where
  /-- The cache takes no part. -/
  | bypass
  | hit (bytes : Bytes)
  | miss (key : Tile.Key)

/-- What the answer of a backend means for a request with this key. -/
def Lookup.ofAnswer (key : Tile.Key) : Except Error (Option Bytes) → Lookup
  | .ok (some bytes) => .hit bytes
  | .ok none => .miss key
  | .error _ => .bypass

/-- The response to a hit. -/
def hitResponse (bytes : Bytes) : Tile.Response :=
  { Tile.Response.ok bytes Tile.vectorTile with cacheStatus := some .hit }

/-- The response to a miss: the generator's, captured if it is a success. -/
def missResponse (key : Tile.Key) (r : Tile.Response) : Tile.Response :=
  { r with
    cacheStatus := some .miss
    body := if r.isSuccess then { r.body with capture := some (.start key) } else r.body }

/-- What becomes of the generator's answer. -/
def Lookup.complete (l : Lookup) (answer : Except Tile.Error Tile.Response) :
    Except Tile.Error Tile.Response :=
  match l with
  | .miss key => answer.map (missResponse key)
  | _ => answer

namespace ReadThrough

/-- Looks a request up. -/
def lookup {m : Type → Type} [Monad m] (c : ReadThrough m) (r : Tile.Request) : m Lookup :=
  match c.backend with
  | none => return .bypass
  | some b =>
    if isCacheable c.cacheable r then
      match r.cacheKey with
      | .ok key => do return .ofAnswer key (← b.get key)
      | .error _ => return .bypass
    else return .bypass

/-- Serves a request, with the generator called only if there is no entry. -/
def serve {m : Type → Type} [Monad m] (c : ReadThrough m)
    (generate : Tile.Request → m (Except Tile.Error Tile.Response)) (r : Tile.Request) :
    m (Except Tile.Error Tile.Response) := do
  match ← c.lookup r with
  | .hit bytes => return .ok (hitResponse bytes)
  | l => return l.complete (← generate r)

/-- Carries out the write that the end of a body asks for. A refused write changes nothing for the
reader. -/
def commit {m : Type → Type} [Monad m] (c : ReadThrough m) (write : Option (Tile.Key × Bytes)) :
    m Unit := do
  match c.backend, write with
  | some b, some (key, bytes) =>
    let _ ← b.set key bytes
    return ()
  | _, _ => return ()

/-- Reads up to `n` pieces of a body; the end of the body is a piece of its own. -/
def read {m : Type → Type} [Monad m] (c : ReadThrough m) :
    Nat → Tile.Body → m (List (Option Tile.Item))
  | 0, _ => return []
  | n + 1, b => do
    match b.next with
    | .item i rest => return some i :: (← read c n rest)
    | .done write =>
      c.commit write
      return [none]

/-- Reads pieces into `kept`, the chunks read so far with the last one first, up to the end or the
first error. -/
def drainItems {m : Type → Type} [Monad m] (c : ReadThrough m) (capture : Option Tile.Capture)
    (kept : List Bytes) : List Tile.Item → m (Except Tile.Error Bytes)
  | [] => do
    c.commit (capture.bind Tile.Capture.write?)
    return .ok kept.reverse.flatten
  | .ok chunk :: is => drainItems c (capture.map (·.note (.ok chunk))) (chunk :: kept) is
  | .error e :: _ => return .error e

/-- Reads a whole body. The first error ends the reading. -/
def drain {m : Type → Type} [Monad m] (c : ReadThrough m) (b : Tile.Body) :
    m (Except Tile.Error Bytes) :=
  drainItems c b.capture [] b.items

end ReadThrough

end TileDepot.Cache
