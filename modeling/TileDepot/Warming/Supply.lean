import TileDepot.Warming.Fetch

/-!
# Supplies

A supply answers requests for tiles after some time. Runs get their tiles from one, through the
cache or past it.
-/

namespace TileDepot.Warming

/-- Where tiles come from: how long a request takes, in milliseconds, and what comes of it. -/
structure Supply (σ : Type) where
  begin : Tile.Request → StateM σ Nat
  finish : Tile.Request → StateM σ (Except Tile.Error Tile.Response)

namespace Supply

variable {σ : Type}

/-- A supply that answers at once. -/
def immediate (generate : Tile.Request → StateM σ (Except Tile.Error Tile.Response)) :
    Supply σ where
  begin _ := return 0
  finish := generate

/-- The tiles of another server that fills its own cache as it answers. -/
def ofServer (web : Tile.Web (StateM σ)) (timeout : Duration) (base : String) : Supply σ :=
  immediate fun r => do
    return (← Fetch.fromServer web timeout base r).map fun bytes =>
      Tile.Response.ok bytes Tile.vectorTile

end Supply

/-- How a run gets its tiles. -/
inductive Route (σ : Type) where
  /-- Through the cache. -/
  | cached (cache : Cache.ReadThrough (StateM σ)) (supply : Supply σ)
  /-- Past the cache; the status of a response does not matter. -/
  | direct (supply : Supply σ)

/-- Where the tiles come from if no cache has them. -/
def Route.supply {σ : Type} : Route σ → Supply σ
  | .cached _ supply => supply
  | .direct supply => supply

end TileDepot.Warming
