import TileDepot.Tile.Key

/-!
# Errors of caches
-/

namespace TileDepot.Cache

/-- Why a cache could not be built or used. -/
inductive Error where
  | config (reason : String)
  | hostMissing (address : String)
  /-- The store did not answer as a store does. -/
  | handshake (reason : String)
  | backend (reason : String)
  | key (cause : Tile.KeyError)
  deriving Repr, DecidableEq

def Error.message : Error → String
  | .config reason => "Invalid cache configuration: " ++ reason
  | .hostMissing address => "Cache address '" ++ address ++ "' is missing a host"
  | .handshake reason => "Cache handshake failed: " ++ reason
  | .backend reason => "Cache backend error: " ++ reason
  | .key cause => cause.message

end TileDepot.Cache
