import TileDepot.Json.Decoder
import TileDepot.Warming.Desk

/-!
# The status page

What the server says of itself: its version, its cache, and the tasks that are registered.
-/

namespace TileDepot.Server

/-- The version of the server. -/
def version : String := "0.3.0"

/-- A registered task. -/
structure ActiveTask where
  id : String
  startedAt : Timestamp
  bounds : Option (List Float)
  zooms : List UInt32
  completed : Nat
  failed : Nat
  total : Nat

/-- The status page. -/
structure StatusPage where
  status : String
  version : String
  /-- The name of the cache, or `none`. -/
  cache : String
  tasks : List ActiveTask

namespace ActiveTask

def ofTask (t : Warming.Task) : ActiveTask where
  id := t.id
  startedAt := t.startedAt
  bounds := t.bounds.map Grid.Bounds.toList
  zooms := t.zooms
  completed := t.completed
  failed := t.failed
  total := t.total

def json (t : ActiveTask) : Json :=
  .object [
    ("task_id", .text t.id),
    ("started_at", .text t.startedAt.text),
    ("bounds", match t.bounds with
      | some b => .list (b.map .float)
      | none => .null),
    ("zoom_levels", .list (t.zooms.map fun z => .int z.toNat)),
    ("completed", .int t.completed),
    ("failed", .int t.failed),
    ("total", .int t.total)]

/-- The fields read so far. -/
structure Draft where
  id : Option String := none
  startedAt : Option Timestamp := none
  bounds : Option (Option (List Float)) := none
  zooms : Option (List UInt32) := none
  completed : Option Nat := none
  failed : Option Nat := none
  total : Option Nat := none

def Draft.finish (d : Draft) : Option ActiveTask := do
  return ⟨← d.id, ← d.startedAt, d.bounds.join, ← d.zooms, ← d.completed, ← d.failed, ← d.total⟩

open Json Decoder in
/-- Reads a task. -/
def decoder : Decoder ActiveTask :=
  record [
    .of "task_id" Draft.id (fun d v => { d with id := some v }) text,
    .of "started_at" Draft.startedAt (fun d v => { d with startedAt := some v })
      (check text Timestamp.parse?),
    .of "bounds" Draft.bounds (fun d v => { d with bounds := some v })
      (optional (vector 4 float)),
    .of "zoom_levels" Draft.zooms (fun d v => { d with zooms := some v })
      (list Warming.Request.zoomDecoder),
    .of "completed" Draft.completed (fun d v => { d with completed := some v })
      (natural UInt64.size),
    .of "failed" Draft.failed (fun d v => { d with failed := some v }) (natural UInt64.size),
    .of "total" Draft.total (fun d v => { d with total := some v }) (natural UInt64.size)]
    {} 7 Draft.finish

end ActiveTask

namespace StatusPage

/-- The page for the tasks at a desk. -/
def ofDesk (cache : Option String) (d : Warming.Desk) : StatusPage :=
  ⟨"running", Server.version, cache.getD "none", d.tasks.map .ofTask⟩

def json (p : StatusPage) : Json :=
  .object [
    ("status", .text p.status),
    ("version", .text p.version),
    ("cache", .text p.cache),
    ("active_tasks", .list (p.tasks.map ActiveTask.json))]

/-- The fields read so far. -/
structure Draft where
  status : Option String := none
  version : Option String := none
  cache : Option String := none
  tasks : Option (List ActiveTask) := none

def Draft.finish (d : Draft) : Option StatusPage := do
  return ⟨← d.status, ← d.version, ← d.cache, ← d.tasks⟩

open Json Decoder in
/-- Reads a page. -/
def decoder : Decoder StatusPage :=
  record [
    .of "status" Draft.status (fun d v => { d with status := some v }) text,
    .of "version" Draft.version (fun d v => { d with version := some v }) text,
    .of "cache" Draft.cache (fun d v => { d with cache := some v }) text,
    .of "active_tasks" Draft.tasks (fun d v => { d with tasks := some v })
      (list ActiveTask.decoder)]
    {} 4 Draft.finish

end StatusPage

end TileDepot.Server
