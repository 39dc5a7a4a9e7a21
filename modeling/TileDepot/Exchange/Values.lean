import TileDepot.Exchange.Faults
import TileDepot.Tile.MapQuery
import TileDepot.Warming.Desk

/-!
# Values in exchange

Addresses, requests, query parameters, plans and tasks as JSON. Doubles are written as texts, so
that nothing of them is lost.
-/

namespace TileDepot

namespace Grid

/-- A zoom level of a number. -/
def zoomAt (j : Json) (name : String) : UInt32 := UInt32.ofNat (j.nat name)

def zoomsAt (j : Json) (name : String) : List UInt32 :=
  ((j.items name).filterMap Json.integer?).map fun n => UInt32.ofNat n.toNat

def indexAt (j : Json) (name : String) : Int64 := Int64.ofInt (j.intAt name)

def TileId.ofJson (j : Json) : TileId :=
  ⟨zoomAt j "zoom", indexAt j "x", indexAt j "y"⟩

def Range.ofJson (j : Json) : Range :=
  ⟨zoomAt j "zoom", indexAt j "x_min", indexAt j "x_max", indexAt j "y_min", indexAt j "y_max"⟩

def Range.json (r : Range) : Json :=
  .object [("zoom", .natural r.zoom.toNat), ("x_min", .int r.xMin.toInt),
    ("x_max", .int r.xMax.toInt), ("y_min", .int r.yMin.toInt), ("y_max", .int r.yMax.toInt)]

/-- The box in a list of four numbers. -/
def Bounds.at (j : Json) (name : String) : Bounds :=
  (Bounds.ofList? (j.numbers name)).getD ⟨0.0, 0.0, 0.0, 0.0⟩

def Bounds.json (b : Bounds) : Json :=
  .list (b.toList.map .exact)

def zoomsJson (zooms : List UInt32) : Json :=
  .list (zooms.map fun z => .natural z.toNat)

end Grid

namespace Query

def Value.json : Value → Json
  | .null => .list [.text "null"]
  | .bool b => .list [.text "bool", .bool b]
  | .int n => .list [.text "int", .int n.toInt]
  | .float x => .list [.text "float", .exact x]
  | .text s => .list [.text "text", .text s]

def Value.ofJson : Json → Value
  | .list [.text "bool", .bool b] => .bool b
  | .list [.text "int", .int n] => .int (Int64.ofInt n)
  | .list [.text "float", x] => .float x.number
  | .list [.text "text", .text s] => .text s
  | _ => .null

/-- The kind of a name; an unknown name stands for texts. -/
def Kind.ofName (name : String) : Kind :=
  match parse name with
  | .ok k => k
  | .error _ => .text

def Parameter.ofJson (j : Json) : Except TemplateError Parameter :=
  define (j.str "name") (j.str "token") (j.str "sql") (.ofName (j.str "kind")) (j.str? "default")

def Parameter.json (p : Parameter) : Json :=
  .object [("name", .text p.name), ("token", .text p.token), ("sql", .text p.fragment),
    ("kind", .text p.kind.name), ("default", .orNull .text p.default)]

def Binding.ofJson (j : Json) : Binding :=
  ⟨j.str "token", j.str "sql", .ofJson (j.field "value"), j.str "raw_param", j.str "raw_value"⟩

def Binding.json (b : Binding) : Json :=
  .object [("token", .text b.token), ("sql", .text b.fragment), ("value", b.value.json),
    ("raw_param", .text b.param), ("raw_value", .text b.raw)]

def Statement.json (s : Statement) : Json :=
  .object [("sql", .text s.sql), ("args", .list (s.args.map Value.json))]

end Query

namespace Tile

def Key.json (k : Key) : Json :=
  .object [("map", .text k.map), ("zoom", .natural k.zoom.toNat), ("x", .int k.x.toInt),
    ("y", .int k.y.toInt), ("fingerprint", .orNull .text k.fingerprint), ("text", .text k.text),
    ("scoped", .text k.scope)]

def Request.ofJson (j : Json) : Request :=
  let r :=
    if j.has "tile" then
      let t := j.field "tile"
      ofTile (t.str "map") (.ofJson t) (t.str "ext")
    else ofPath (j.str "path")
  match j.str? "query" with
  | some q => r.withQuery q
  | none => r

def pairsJson (ps : List (String × String)) : Json :=
  .list (ps.map fun p => .list [.text p.1, .text p.2])

def MapQuery.json (q : MapQuery) : Json :=
  .object [("name", .text q.name), ("sql", .text q.template),
    ("parameters", .list (q.parameters.map Query.Parameter.json))]

def MapQuery.ofJson (j : Json) : Except Query.TemplateError MapQuery := do
  return ⟨j.str "name", j.str "sql", ← (j.items "parameters").mapM Query.Parameter.ofJson⟩

/-- A response without its body. -/
def Response.json (r : Response) : Json :=
  .object [("status", .natural r.status), ("content_type", .orNull .text r.contentType),
    ("success", .bool r.isSuccess), ("cache", .orNull (fun s => .text s.text) r.cacheStatus),
    ("debug", .text r.summary)]

end Tile

namespace Warming

/-- A plan whose tiles can be counted. -/
def Plan.json? (p : Plan) : Option Json :=
  p.total?.map fun total =>
    .object [("task_id", .text p.task), ("bounds", p.bounds.json),
      ("bounds_text", .text p.bounds.text), ("zooms", Grid.zoomsJson p.zooms),
      ("ranges", .list (p.ranges.map Grid.Range.json)), ("total", .natural total.toNat)]

def Snapshot.ofJson (j : Json) : Snapshot :=
  .of (j.str "task_id") (j.nat "completed") (j.nat "total") (j.flag "running")

/-- A throttle, or the default one. -/
def Throttle.ofJson (j : Json) : Throttle :=
  if j.has "tile_step" || j.has "percent_step" then
    ⟨j.nat "tile_step", (j.field "percent_step").number⟩
  else .default

/-- The state of a name; an unknown name is that of cancelled tasks. -/
def State.ofName : String → State
  | "pending" => .pending
  | "running" => .running
  | "completed" => .completed
  | _ => .cancelled

/-- A task for a box or for ranges, if their tiles can be counted. -/
def Task.ofJson? (startedAt : Timestamp) (j : Json) : Option Task :=
  if j.has "bounds" then
    ofPlan? (.make (j.str "id") (.at j "bounds") (Grid.zoomsAt j "zooms")) startedAt
  else ofRanges? (j.str "id") ((j.items "ranges").map .ofJson) startedAt

/-- How far a task has come. -/
def Task.json (t : Task) : Json :=
  .object [("state", .text t.state.name), ("finished", .bool t.state.isFinished),
    ("counts", .list [.natural t.completed, .natural t.failed]), ("cancelled", .bool t.isCancelled),
    ("snapshot", .text t.snapshot.wire)]

def Summary.json (s : Summary) : Json :=
  .object [("task_id", .text s.task), ("total", .natural s.total),
    ("completed", .natural s.completed), ("failed", .natural s.failed),
    ("succeeded", .natural s.succeeded), ("cancelled", .bool s.isCancelled)]

end Warming

end TileDepot
