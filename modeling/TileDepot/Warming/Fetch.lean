import TileDepot.Cache.ReadThrough
import TileDepot.Tile.Proxy

/-!
# Fetching one tile of a run

A run asks for its tiles as any client does, with the task in the query. The tiles come from a
server at a base address, or straight through the cache; either way a tile has been fetched when its
body has been read to the end.
-/

namespace TileDepot.Warming

/-- One tile of one run. -/
structure Fetch where
  task : String
  map : String
  tile : Grid.TileId
  deriving Repr, DecidableEq

namespace Fetch

/-- The request for the tile. -/
def request (f : Fetch) : Tile.Request :=
  (Tile.Request.ofTile f.map f.tile "pbf").withQuery (Url.formQuery "task_id" f.task)

/-- The address of a request on a server. -/
def addressOf (base : String) (r : Tile.Request) : String :=
  base ++ "/maps" ++ r.target

/-- The tile's address on a server. -/
def address (f : Fetch) (base : String) : String :=
  addressOf base f.request

/-- Reads a response to its end. A response that is no success is an error. -/
def complete {m : Type → Type} [Monad m] (cache : Cache.ReadThrough m) (path : String)
    (answer : Except Tile.Error Tile.Response) : m (Except Tile.Error Bytes) :=
  match answer with
  | .error e => return .error e
  | .ok r =>
    if r.isSuccess then cache.drain r.body
    else return .error (.remote ("HTTP " ++ toString r.status ++ " for " ++ path))

/-- Fetches a tile through the cache. -/
def throughCache {m : Type → Type} [Monad m] (cache : Cache.ReadThrough m)
    (generate : Tile.Request → m (Except Tile.Error Tile.Response)) (f : Fetch) :
    m (Except Tile.Error Bytes) := do
  complete cache f.request.path (← cache.serve generate f.request)

/-- Fetches what a request asks for from a server. An answer that is no success is an error. -/
def fromServer {m : Type → Type} [Monad m] (web : Tile.Web m) (timeout : Duration)
    (base : String) (r : Tile.Request) : m (Except Tile.Error Bytes) := do
  match ← Tile.ask web timeout (addressOf base r) with
  | .error e => return .error e
  | .ok reply =>
    if 200 ≤ reply.status && reply.status < 300 then
      match reply.body.mapM id with
      | .ok chunks => return .ok chunks.flatten
      | .error reason => return .error (.body reason)
    else
      return .error (.remote
        ("HTTP " ++ toString reply.status ++ " from " ++ addressOf base r))

end Fetch

end TileDepot.Warming
