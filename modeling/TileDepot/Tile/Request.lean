import TileDepot.Tile.Key
import TileDepot.Url.Form

/-!
# Tile requests

A request holds the path of a tile and its query as they came in: fingerprints are taken of the
query's exact text.
-/

namespace TileDepot.Tile

/-- A request for one tile. -/
structure Request where
  /-- The path, with its leading slash. -/
  path : String
  /-- The query without its question mark. There is no empty query. -/
  query : Option String
  deriving Repr, DecidableEq

namespace Request

/-- The request for a path, which is given its leading slash if it has none. -/
def ofPath (path : String) : Request :=
  ⟨if path.toList.head? == some '/' then path else "/" ++ path, none⟩

/-- The request for a tile of a map. -/
def ofTile (map : String) (t : Grid.TileId) (extension : String) : Request :=
  ofPath ("/" ++ map ++ "/" ++ t.text ++ "." ++ extension)

/-- The request with another query. One leading question mark is taken off, and the empty query is
none. -/
def withQuery (r : Request) (query : String) : Request :=
  let bare := match query.toList with
    | '?' :: cs => String.ofList cs
    | _ => query
  { r with query := if bare.isEmpty then none else some bare }

/-- The parameters of the query in order. -/
def pairs (r : Request) : List (String × String) :=
  match r.query with
  | some q => Url.formPairs q
  | none => []

/-- The first value of a parameter. -/
def value? (r : Request) (name : String) : Option String :=
  (r.pairs.find? fun p => p.1 == name).map (·.2)

/-- The key of the tile that the path names. -/
def key (r : Request) : Except KeyError Key :=
  Key.ofPath r.path

/-- The key that the request is cached under. -/
def cacheKey (r : Request) : Except KeyError Key := do
  let k ← r.key
  match r.query with
  | some q => return k.withQuery q
  | none => return k

/-- The path with the query behind it. -/
def target (r : Request) : String :=
  match r.query with
  | some q => r.path ++ "?" ++ q
  | none => r.path

end Request

end TileDepot.Tile
