import TileDepot.Json.Decoder

/-!
# Progress snapshots

What clients are told of a run: how many of its tiles are done, and whether it still goes on.
-/

namespace TileDepot.Warming

/-- A whole number as a double. -/
def toFloat (n : Nat) : Float :=
  (UInt64.ofNat n).toFloat

/-- The done share in percent, rounded to two places. -/
def percentage (completed total : Nat) : Float :=
  if total == 0 then 0.0
  else
    let share := toFloat completed / toFloat total * 100.0
    (share * 100.0).round / 100.0

/-- The progress of one run at one moment. -/
structure Snapshot where
  task : String
  completed : Nat
  total : Nat
  percentage : Float
  isRunning : Bool

namespace Snapshot

def of (task : String) (completed total : Nat) (isRunning : Bool) : Snapshot :=
  ⟨task, completed, total, Warming.percentage completed total, isRunning⟩

/-- What is told of a task that there is no run of. -/
def notRunning (task : String) : Snapshot :=
  of task 0 0 false

def json (s : Snapshot) : Json :=
  .object [
    ("type", .text "progress"),
    ("task_id", .text s.task),
    ("completed", .int s.completed),
    ("total", .int s.total),
    ("percentage", .float s.percentage),
    ("isRunning", .bool s.isRunning)]

/-- A snapshot as it is sent. -/
def wire (s : Snapshot) : String :=
  s.json.render

/-- The fields read so far. -/
structure Draft where
  task : Option String := none
  completed : Option Nat := none
  total : Option Nat := none
  percentage : Option Float := none
  isRunning : Option Bool := none

def Draft.finish (d : Draft) : Option Snapshot := do
  return ⟨← d.task, ← d.completed, ← d.total, ← d.percentage, ← d.isRunning⟩

open Json Decoder in
/-- Reads a snapshot. Its type is not looked at. -/
def decoder : Decoder Snapshot :=
  record [
    .of "task_id" Draft.task (fun d v => { d with task := some v }) text,
    .of "completed" Draft.completed (fun d v => { d with completed := some v })
      (natural UInt64.size),
    .of "total" Draft.total (fun d v => { d with total := some v }) (natural UInt64.size),
    .of "percentage" Draft.percentage (fun d v => { d with percentage := some v }) float,
    .of "isRunning" Draft.isRunning (fun d v => { d with isRunning := some v }) bool]
    {} 5 Draft.finish

end Snapshot

end TileDepot.Warming
