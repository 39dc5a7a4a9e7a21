import TileDepot.Cache.Error
import TileDepot.Text.Bytes

/-!
# Cache backends

A backend keeps tiles under the texts of their keys. Whatever it is made of, it answers look-ups,
takes writes up to its highest zoom and removes entries. The memory backend is the plain map.
-/

namespace TileDepot.Cache

/-- Entries by the texts of their keys. -/
structure Entries where
  items : List (String × Bytes)

namespace Entries

def empty : Entries := ⟨[]⟩

def get? (s : Entries) (key : String) : Option Bytes :=
  s.items.lookup key

def erase (s : Entries) (key : String) : Entries :=
  ⟨s.items.filter fun e => e.1 != key⟩

def insert (s : Entries) (key : String) (value : Bytes) : Entries :=
  ⟨(key, value) :: (s.erase key).items⟩

end Entries

/-- What a cache can do, in a monad that holds what it is made of. -/
structure Backend (m : Type → Type) where
  name : String
  /-- Tiles above this zoom are not kept. -/
  maxZoom : UInt32
  get : Tile.Key → m (Except Error (Option Bytes))
  set : Tile.Key → Bytes → m (Except Error Unit)
  purge : Tile.Key → m (Except Error Unit)

/-- The memory backend. Writes above its highest zoom succeed without an entry. -/
def memory (maxZoom : UInt32) : Backend (StateM Entries) where
  name := "memory"
  maxZoom
  get key := do return .ok ((← get).get? key.text)
  set key value := do
    if maxZoom < key.zoom then return .ok ()
    else
      modify (·.insert key.text value)
      return .ok ()
  purge key := do
    modify (·.erase key.text)
    return .ok ()

/-- A backend in a larger world. -/
def Backend.lift {m n : Type → Type} (f : {α : Type} → m α → n α) (b : Backend m) : Backend n where
  name := b.name
  maxZoom := b.maxZoom
  get key := f (b.get key)
  set key value := f (b.set key value)
  purge key := f (b.purge key)

end TileDepot.Cache
