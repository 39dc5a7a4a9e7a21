import TileDepot.Server.Startup

/-!
# Without a network

The surroundings of a machine that has no network: a store never answers, a server cannot be
reached, and neither can a database. All else works, the memory cache among it.
-/

namespace TileDepot.Server

/-- What a database says when it cannot be reached. -/
def unreachableDatabase : String :=
  "error communicating with database: Network is unreachable (os error 101)"

/-- A store that never answers. -/
def silentWire {m : Type → Type} [Monad m] : Cache.Wire m where
  dial _ _ := return .error .timedOut
  ask _ := return .error .timedOut

/-- A web in which nothing can be reached. -/
def emptyWeb {m : Type → Type} [Monad m] : Tile.Web m where
  get _ _ := return .error .unreachable

/-- A database that is known but cannot be reached. -/
def lostDatabase {m : Type → Type} [Monad m] : Tile.Database m where
  columns table := return .error (Tile.columnFault table unreachableDatabase)
  rows _ := return .error unreachableDatabase

/-- The surroundings without a network; `entries` are those of the memory cache. -/
def offline {m : Type → Type} [Monad m] (entries : {α : Type} → StateM Cache.Entries α → m α) :
    Surroundings m where
  resources := ⟨entries, silentWire⟩
  web := emptyWeb
  database _ _ := return .error unreachableDatabase

end TileDepot.Server
