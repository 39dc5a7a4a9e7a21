import TileDepot.Grid.Range
import TileDepot.Json.Decoder
import TileDepot.Text.Blank

/-!
# Requests and plans

A client asks for a run with a box and two zoom levels. A request that makes sense becomes a plan:
the box with its edges in order, and every zoom level from the smaller to the larger.
-/

namespace TileDepot.Warming

/-- Why there is no run. -/
inductive Error where
  /-- The box has this many numbers in the place of four. -/
  | invalidBounds (count : Nat)
  | invalidTask (id : String)
  | invalidZoom (zoom : UInt32)
  /-- The run broke off. -/
  | broken (reason : String)
  deriving Repr, DecidableEq

def Error.message : Error → String
  | .invalidBounds count => "bounds must have exactly 4 values, got " ++ toString count
  | .invalidTask id => "invalid task id '" ++ id ++ "'"
  | .invalidZoom zoom =>
    "zoom " ++ toString zoom.toNat ++ " exceeds maximum of " ++ toString Grid.maxZoom.toNat
  | .broken reason => "bulk run failed: " ++ reason

/-- A run as a client asks for it. -/
structure Request where
  /-- Whether to start the run or to stop it. -/
  isSlice : Bool
  task : String
  bounds : List Float
  minZoom : UInt32
  maxZoom : UInt32

/-- A run that can be started. -/
structure Plan where
  task : String
  bounds : Grid.Bounds
  zooms : List UInt32

namespace Request

/-- The first of a request's zoom levels that no tile has. -/
def badZoom? (r : Request) : Option UInt32 :=
  [r.minZoom, r.maxZoom].find? fun z => Grid.maxZoom < z

/-- Makes a plan: the box must have four numbers, the task a name, and the zoom levels must be ones
that tiles have. -/
def plan (r : Request) : Except Error Plan :=
  match Grid.Bounds.ofList? r.bounds with
  | none => .error (.invalidBounds r.bounds.length)
  | some bounds =>
    let task := Text.trim r.task
    if task.isEmpty then .error (.invalidTask r.task)
    else match r.badZoom? with
      | some z => .error (.invalidZoom z)
      | none => .ok ⟨task, bounds.normalized, Grid.zoomLevels r.minZoom r.maxZoom⟩

def json (r : Request) : Json :=
  .object [
    ("isSlice", .bool r.isSlice),
    ("task_id", .text r.task),
    ("bounds", .list (r.bounds.map .float)),
    ("minzoom", .int r.minZoom.toNat),
    ("maxzoom", .int r.maxZoom.toNat)]

/-- The fields read so far. -/
structure Draft where
  isSlice : Option Bool := none
  task : Option String := none
  bounds : Option (List Float) := none
  minZoom : Option UInt32 := none
  maxZoom : Option UInt32 := none

/-- Every field has a default. -/
def Draft.finish (d : Draft) : Request :=
  ⟨d.isSlice.getD false, d.task.getD "", d.bounds.getD [], d.minZoom.getD 0, d.maxZoom.getD 0⟩

open Json Decoder in
/-- A zoom level. -/
def zoomDecoder : Decoder UInt32 :=
  check (natural UInt32.size) fun n => some (UInt32.ofNat n)

open Json Decoder in
/-- Reads a request. -/
def decoder : Decoder Request :=
  record [
    .of "isSlice" Draft.isSlice (fun d v => { d with isSlice := some v }) bool,
    .of "task_id" Draft.task (fun d v => { d with task := some v }) text,
    .of "bounds" Draft.bounds (fun d v => { d with bounds := some v }) (list float),
    .of "minzoom" Draft.minZoom (fun d v => { d with minZoom := some v }) zoomDecoder,
    .of "maxzoom" Draft.maxZoom (fun d v => { d with maxZoom := some v }) zoomDecoder]
    {} 0 fun d => some d.finish

end Request

namespace Plan

/-- A plan for any box and any levels. -/
def make (task : String) (bounds : Grid.Bounds) (zooms : List UInt32) : Plan :=
  ⟨task, bounds.normalized, zooms⟩

/-- The tiles of each zoom level. -/
def ranges (p : Plan) : List Grid.Range :=
  p.zooms.map (Grid.Range.covering p.bounds)

/-- The number of tiles, if they can be counted. -/
def total? (p : Plan) : Option UInt64 :=
  Grid.totalTiles? p.bounds p.zooms

end Plan

end TileDepot.Warming
