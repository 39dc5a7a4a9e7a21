import TileDepot.Query.Columns
import TileDepot.Tile.Request
import TileDepot.Tile.Response

/-!
# Tiles from a database

A map has a query whose answer is the tile. The tile's address, the task and the map's parameters
are bound to the tokens of its template; everything that comes from the request goes into the
arguments, except for the name of the task's table.
-/

namespace TileDepot.Tile

/-- A map whose tiles a query makes. -/
structure MapQuery where
  name : String
  template : String
  parameters : List Query.Parameter

/-- A database, in a monad that holds what is known of it. -/
structure Database (m : Type → Type) where
  /-- The columns of a table in their order. -/
  columns : String → m (Except String (List String))
  /-- The rows of a query, each with the tile or nothing. -/
  rows : Query.Statement → m (Except String (List (Option Bytes)))

namespace MapQuery

/-- Binds what a request says, and the address of the tile. -/
def bind (q : MapQuery) (r : Request) (t : Grid.TileId) : Except Error Query.Bindings := do
  let bs ← (Query.Bindings.ofRequest q.parameters r.pairs (r.value? "task_id")).mapError .template
  return ((bs.setInt Query.zoomToken (Int64.ofNat t.zoom.toNat)).setInt Query.xToken t.x).setInt
    Query.yToken t.y

/-- The map of a name; of several the last one. -/
def find? (qs : List MapQuery) (name : String) : Option MapQuery :=
  qs.reverse.find? fun q => q.name == name

/-- The query that a request asks of a map, with the columns looked up if need be. -/
def statement {m : Type → Type} [Monad m] (db : Database m) (geometry : String) (q : MapQuery)
    (bs : Query.Bindings) : m (Except Error Query.Statement) := do
  let columnsOf (table : String) : m (Except Query.TemplateError (List String)) := do
    return (← db.columns table).mapError .introspection
  return (← bs.fillWithColumns columnsOf geometry q.template []).mapError .template

/-- The tile in the rows of an answer: that of the first row, and an empty one for none. -/
def tileOf (rows : List (Option Bytes)) : Bytes :=
  ((rows.head?).join).getD []

/-- The map and the bindings for a request. -/
def prepare (qs : List MapQuery) (r : Request) : Except Error (MapQuery × Query.Bindings) := do
  let key ← r.key.mapError .invalidRequest
  match find? qs key.map with
  | none => .error (.unknownMap key.map)
  | some q => return (q, ← q.bind r key.tile)

/-- Makes a tile. -/
def generate {m : Type → Type} [Monad m] (db : Database m) (geometry : String)
    (qs : List MapQuery) (r : Request) : m (Except Error Response) := do
  match prepare qs r with
  | .error e => return .error e
  | .ok (q, bs) =>
    match ← q.statement db geometry bs with
    | .error e => return .error e
    | .ok s =>
      match ← db.rows s with
      | .error reason => return .error (.database reason)
      | .ok rows => return .ok (.ok (tileOf rows) vectorTile)

end MapQuery

/-- The query that lists the columns of a table. -/
def columnQuery (table : String) : Query.Statement :=
  ⟨"SELECT column_name::text FROM information_schema.columns WHERE table_name = $1 " ++
    "ORDER BY ordinal_position", [.text table]⟩

/-- What a failed look-up of columns says. -/
def columnFault (table reason : String) : String :=
  s!"listing columns of '{table}': {reason}"

end TileDepot.Tile
