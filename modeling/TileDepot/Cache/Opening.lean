import TileDepot.Cache.Redis

/-!
# Opening a cache

The settings say which backend there is, if any. The memory backend is a new one with nothing in it,
so it is shared with nobody who has opened another; a Redis store has what everybody has put there.
A store that cannot be reached is an error; nothing else takes its place.
-/

namespace TileDepot.Cache

/-- What backends are made of. -/
structure Resources (m : Type → Type) where
  /-- Gives access to the entries of the memory backend, of which a program has one at most. -/
  entries : {α : Type} → StateM Entries α → m α
  wire : Wire m

/-- Opens the backend that the settings describe. -/
def Settings.openBackend {m : Type → Type} [Monad m] (r : Resources m) :
    Settings → m (Except Error (Option (Backend m)))
  | .none => return .ok Option.none
  | .memory s => do
    r.entries (set Entries.empty)
    return .ok (some ((Cache.memory s.maxZoom).lift r.entries))
  | .redis s => return (← connect r.wire s).map some

end TileDepot.Cache
