import TileDepot.Cache.Connection

/-!
# Listening addresses

The address that a server listens at: a host and a port with a colon between them.
-/

namespace TileDepot.Command

/-- Where a server listens. -/
structure ListenAddress where
  host : String
  port : UInt16
  deriving Repr, DecidableEq

/-- Reads an address; the last colon divides it. -/
def ListenAddress.parse (s : String) : Except String ListenAddress :=
  match Cache.Connection.splitPort? s.toList with
  | none => .error "invalid socket address"
  | some (host, port) =>
    match Text.uint16? (String.ofList port) with
    | some n => .ok ⟨String.ofList host, n⟩
    | none => .error "invalid port value"

end TileDepot.Command
