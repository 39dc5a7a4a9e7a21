import TileDepot.Tile.Error
import TileDepot.Json.Decoder
import TileDepot.Warming.Plan

/-!
# Messages of the server

The short JSON answers of the server, and the faults that it reports with them.
-/

namespace TileDepot.Server

/-- A short answer. -/
structure Message where
  code : Nat
  text : String
  /-- Whether a run was started or stopped, if the answer is about one. -/
  isSlice : Option Bool

namespace Message

def json (m : Message) : Json :=
  .object <| [("code", .int m.code), ("message", .text m.text)] ++
    match m.isSlice with
    | some b => [("isSlice", .bool b)]
    | none => []

/-- The fields read so far. -/
structure Draft where
  code : Option Nat := none
  text : Option String := none
  isSlice : Option (Option Bool) := none

def Draft.finish (d : Draft) : Option Message := do
  return ⟨← d.code, ← d.text, d.isSlice.join⟩

open Json Decoder in
/-- Reads a message. -/
def decoder : Decoder Message :=
  record [
    .of "code" Draft.code (fun d v => { d with code := some v }) (natural UInt16.size),
    .of "message" Draft.text (fun d v => { d with text := some v }) Decoder.text,
    .of "isSlice" Draft.isSlice (fun d v => { d with isSlice := some v }) (optional bool)]
    {} 2 Draft.finish

end Message

/-- The kinds of faults that the server reports. -/
inductive FaultKind where
  | badRequest
  | notFound
  | badGateway
  | gatewayTimeout
  | internal
  deriving Repr, DecidableEq

def FaultKind.status : FaultKind → Nat
  | .badRequest => 400
  | .notFound => 404
  | .badGateway => 502
  | .gatewayTimeout => 504
  | .internal => 500

/-- A fault that the server reports. -/
structure Fault where
  kind : FaultKind
  text : String

namespace Fault

def message (f : Fault) : Message :=
  ⟨f.kind.status, f.text, none⟩

/-- The body of the answer. -/
def body (f : Fault) : String :=
  f.message.json.render

/-- Only a run that broke off is the server's own fault. -/
def ofWarming (e : Warming.Error) : Fault :=
  ⟨match e with
    | .broken _ => .internal
    | _ => .badRequest, e.message⟩

/-- A tile's error by whose fault it is. -/
def ofTile (e : Tile.Error) : Fault :=
  ⟨match e with
    | .invalidRequest _ => .badRequest
    | .unknownMap _ => .notFound
    | .remote _ => .badGateway
    | .timeout _ => .gatewayTimeout
    | .database _ => .internal
    | .template _ => .internal
    | .body _ => .internal, e.message⟩

end Fault

end TileDepot.Server
