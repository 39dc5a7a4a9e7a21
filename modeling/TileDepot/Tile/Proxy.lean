import TileDepot.Tile.Request
import TileDepot.Tile.Response
import TileDepot.Url.Basic

/-!
# Tiles from another server

A request is passed on to a server at a base address, path and query as they are, and the server's
answer is passed back.
-/

namespace TileDepot.Tile

/-- A server's answer. -/
structure WebReply where
  status : Nat
  contentType : Option String
  body : List (Except String Bytes)

/-- Why a server gave no answer. -/
inductive WebFault where
  | timedOut
  | unreachable
  deriving Repr, DecidableEq

/-- The web, in a monad that holds what is known of it. -/
structure Web (m : Type → Type) where
  get : Url → Duration → m (Except WebFault WebReply)

/-- A URL less the slashes at its end. -/
def trimBase (base : String) : String :=
  String.ofList (base.toList.reverse.dropWhile (· == '/')).reverse

/-- The base address of a server, which must be a URL. -/
def checkedBase (base : String) : Except Error String :=
  match Url.parse base with
  | .ok _ => .ok (trimBase base)
  | .error f => .error (.remote ("invalid base url '" ++ base ++ "': " ++ f.message))

/-- The URL that a request is sent to; the web has no others. Credentials do not show in it. -/
def webUrl (address : String) : Except String Url :=
  match Url.parse address with
  | .error _ => .error "builder error"
  | .ok u =>
    let shown := { u with username := "", password := none }
    if u.scheme == "http" || u.scheme == "https" then .ok shown
    else .error ("builder error for url (" ++ shown.text ++ ")")

/-- Asks a server. -/
def ask {m : Type → Type} [Monad m] (web : Web m) (timeout : Duration) (address : String) :
    m (Except Error WebReply) := do
  match webUrl address with
  | .error reason => return .error (.remote ("Request failed: " ++ reason))
  | .ok u =>
    match ← web.get u timeout with
    | .ok reply => return .ok reply
    | .error .timedOut => return .error (.timeout timeout)
    | .error .unreachable =>
      return .error (.remote ("Request failed: error sending request for url (" ++ u.text ++ ")"))

/-- Another tile server. -/
structure Proxy where
  /-- What the tile's path is appended to. -/
  base : String
  timeout : Duration

namespace Proxy

def ofBase (base : String) (timeout : Duration) : Except Error Proxy := do
  return ⟨← checkedBase base, timeout⟩

/-- The address of a request at the server. -/
def address (p : Proxy) (r : Request) : String :=
  p.base ++ r.target

/-- Passes a request on. -/
def generate {m : Type → Type} [Monad m] (web : Web m) (p : Proxy) (r : Request) :
    m (Except Error Response) := do
  match ← ask web p.timeout (p.address r) with
  | .error e => return .error e
  | .ok reply =>
    let items := reply.body.map fun i => i.mapError Error.body
    return .ok (.streaming reply.status reply.contentType items)

end Proxy

end TileDepot.Tile
