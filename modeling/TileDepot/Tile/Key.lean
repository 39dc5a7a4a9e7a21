import TileDepot.Digest.Sha256
import TileDepot.Grid.Basic
import TileDepot.Text.Integer

/-!
# Tile keys

A key names one cached tile: the map, the address on the grid, and a fingerprint of the request's
query when there is one. The fingerprint stands in the key's text behind the name of the map, so
that tiles asked for with a query have entries of their own.
-/

namespace TileDepot.Tile

/-- The numbers of a tile path. -/
inductive Component where
  | zoom
  | x
  | y
  deriving Repr, DecidableEq

def Component.name : Component → String
  | .zoom => "zoom"
  | .x => "x"
  | .y => "y"

/-- Why a path names no tile. -/
inductive KeyError where
  | invalidPath (path : String)
  | invalidComponent (component : Component) (value : String)
  deriving Repr, DecidableEq

def KeyError.message : KeyError → String
  | .invalidPath path =>
    "invalid tile path '" ++ path ++ "': expected /\x7bmap\x7d/\x7bz\x7d/\x7bx\x7d/\x7by\x7d"
  | .invalidComponent c value => "invalid " ++ c.name ++ " '" ++ value ++ "' in tile path"

/-- The cache's name for a tile. -/
structure Key where
  map : String
  zoom : UInt32
  x : Int64
  y : Int64
  /-- The fingerprint of the request's query. -/
  fingerprint : Option String
  deriving Repr, DecidableEq

/-- The first 16 bytes of a query's digest, in hexadecimal. -/
def fingerprint (query : String) : String :=
  Bytes.toHex ((Digest.sha256 (Bytes.ofText query)).take 16)

/-- The segments of a path, of which there is always at least one. -/
def segments : List Char → List (List Char)
  | [] => [[]]
  | c :: r =>
    if c == '/' then [] :: segments r
    else match segments r with
      | [] => [[c]]
      | s :: ss => (c :: s) :: ss

/-- A path less the slashes at both ends. -/
def trimSlashes (cs : List Char) : List Char :=
  ((cs.dropWhile (· == '/')).reverse.dropWhile (· == '/')).reverse

namespace Key

/-- A key without fingerprint. -/
def ofTile (map : String) (t : Grid.TileId) : Key :=
  ⟨map, t.zoom, t.x, t.y, none⟩

def tile (k : Key) : Grid.TileId :=
  ⟨k.zoom, k.x, k.y⟩

/-- A number of the path, or the fault of having none. -/
def number (read? : String → Option α) (c : Component) (cs : List Char) : Except KeyError α :=
  match read? (String.ofList cs) with
  | some n => .ok n
  | none => .error (.invalidComponent c (String.ofList cs))

/-- Reads a path of four segments: the map, the zoom, the column and the row. An extension after
the row does not count. -/
def ofPath (path : String) : Except KeyError Key := do
  match segments (trimSlashes path.toList) with
  | [map, zoom, x, y] =>
    if map.isEmpty then .error (.invalidPath path)
    else
      let zoom ← number Text.uint32? .zoom zoom
      let x ← number Text.int64? .x x
      let y ← number Text.int64? .y (y.takeWhile (· != '.'))
      return ⟨String.ofList map, zoom, x, y, none⟩
  | _ => .error (.invalidPath path)

/-- The key for a query. The empty query is none. -/
def withQuery (k : Key) (query : String) : Key :=
  { k with fingerprint := if query.isEmpty then none else some (Tile.fingerprint query) }

/-- The map's name with the fingerprint. -/
def scope (k : Key) : String :=
  match k.fingerprint with
  | some f => k.map ++ "_" ++ f
  | none => k.map

/-- The text that an entry is stored under. -/
def text (k : Key) : String :=
  k.scope ++ "/" ++ k.tile.text

end Key

end TileDepot.Tile
