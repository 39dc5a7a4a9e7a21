import TileDepot.Server.MediaType
import TileDepot.Server.Message
import TileDepot.Server.StatusPage
import TileDepot.Warming.Timeline

/-!
# Routes

What the server answers to a request: tiles through the cache, the start and the end of runs, their
progress, and the status page. Every origin may ask.
-/

namespace TileDepot.Server

/-- A request as it comes in. -/
structure HttpRequest where
  method : String
  /-- The path in its encoded form. -/
  path : String
  query : Option String
  contentType : Option String
  body : Bytes

namespace HttpRequest

/-- The text of a target after its scheme. -/
def afterScheme? (target : List Char) : Option (List Char) :=
  match target.dropWhile fun c => c.isAlphanum || c == '+' || c == '-' || c == '.' with
  | ':' :: '/' :: '/' :: r => some r
  | _ => none

/-- Path and query of a target, together. A target with a scheme has them after its host, and their
path is never empty; a host alone has none. -/
def pathAndQuery (target : List Char) : List Char :=
  if target.head? == some '/' || target == ['*'] then target
  else
    match afterScheme? target with
    | none => []
    | some place =>
      let inner := place.dropWhile fun c => !(c == '/' || c == '?' || c == '#')
      if inner.head? == some '/' then inner else '/' :: inner

/-- A request for a target as a request line has it. A fragment does not count. -/
def ofTarget (method target : String) (contentType : Option String) (body : Bytes) :
    HttpRequest :=
  let cs := (pathAndQuery target.toList).takeWhile (· != '#')
  let path := cs.takeWhile (· != '?')
  { method
    path := String.ofList path
    query :=
      if path.length < cs.length then some (String.ofList (cs.drop (path.length + 1))) else none
    contentType
    body }

end HttpRequest

/-- An answer. -/
structure Reply where
  status : Nat
  contentType : Option String
  cache : Option Tile.CacheStatus
  /-- The methods that the path has, if the request's is not among them. -/
  allow : Option String
  body : Tile.Body

namespace Reply

def empty (status : Nat) : Reply :=
  ⟨status, none, none, none, .ofItems []⟩

def text (status : Nat) (contentType body : String) : Reply :=
  { empty status with
    contentType := some contentType
    body := .ofItems [.ok (Bytes.ofText body)] }

def json (status : Nat) (v : Json) : Reply :=
  text status "application/json" v.render

/-- A short answer that all is well. -/
def message (m : Message) : Reply :=
  json 200 m.json

def fault (f : Fault) : Reply :=
  json f.kind.status f.message.json

/-- The path knows other methods only. -/
def wrongMethod (allow : String) : Reply :=
  { empty 405 with allow := some allow }

/-- The same answer without its body. -/
def withoutBody (r : Reply) : Reply :=
  { r with body := .ofItems [] }

/-- A header can hold a text that has no control characters. -/
def isHeaderText (s : String) : Bool :=
  s.toList.all fun c => c == '\t' || (32 ≤ c.toNat && c.toNat != 127)

/-- A tile as an answer. What is no status or no header's text is not passed on. -/
def ofTile (r : Tile.Response) : Reply where
  status := if 100 ≤ r.status && r.status < 1000 then r.status else 502
  contentType := r.contentType.filter isHeaderText
  cache := r.cacheStatus
  allow := none
  body := r.body

end Reply

/-- Where a request goes. -/
inductive Endpoint where
  /-- A tile by the parts of its path, in their encoded form. -/
  | tile (map zoom x y : String)
  | slice
  | link
  | progress (task : String)
  | status
  deriving Repr, DecidableEq

namespace Endpoint

/-- The endpoint of a path. The last part of a tile's path is not empty; any other part may be. -/
def ofPath? (path : String) : Option Endpoint :=
  match (Tile.segments path.toList).map String.ofList with
  | ["", "maps", map, zoom, x, y] =>
    if y.isEmpty then none else some (.tile map zoom x y)
  | ["", "api", "sliceTiles"] => some .slice
  | ["", "api", "progress"] => some .link
  | ["", "api", "tasks", task, "progress"] => some (.progress task)
  | ["", "api", "v1", "status"] => some .status
  | _ => none

/-- The methods of an endpoint. -/
def allow : Endpoint → String
  | .slice => "POST"
  | _ => "GET,HEAD"

/-- An endpoint takes a method. -/
def takes (e : Endpoint) (method : String) : Bool :=
  match e with
  | .slice => method == "POST"
  | _ => method == "GET" || method == "HEAD"

end Endpoint

/-- The most bytes that a body may have. -/
def bodyLimit : Nat := 2097152

/-- The decoded parts of a path, or the name of the first part that is not UTF-8. -/
def decodeParts : List (String × String) → Except String (List String)
  | [] => .ok []
  | (name, part) :: rest =>
    match Bytes.toText? (Url.percentDecode (Bytes.ofText part)) with
    | none => .error name
    | some text => (decodeParts rest).map (text :: ·)

/-- The answer to a path whose part of this name is not UTF-8. -/
def badPart (name : String) : Reply :=
  .text 400 "text/plain; charset=utf-8" ("Invalid URL: Invalid UTF-8 in \x60" ++ name ++ "\x60")

/-- The request for a run in a body, or why there is none. -/
def sliceRequest (r : HttpRequest) : Except Fault Warming.Request :=
  if !(r.contentType.any MediaType.isJson) then
    .error ⟨.badRequest, "Expected request with \x60Content-Type: application/json\x60"⟩
  else if bodyLimit < r.body.length then
    .error ⟨.badRequest, "Failed to buffer the request body"⟩
  else
    match Json.Decoder.run Warming.Request.decoder r.body with
    | .ok request => .ok request
    | .error .malformed => .error ⟨.badRequest, "Failed to parse the request body as JSON"⟩
    | .error .mismatched =>
      .error ⟨.badRequest, "Failed to deserialize the JSON body into the target type"⟩

/-- What the server serves tiles from. -/
structure Site (σ : Type) where
  cache : Cache.ReadThrough (StateM σ)
  supply : Warming.Supply σ

/-- The name of the server's cache. -/
def Site.cacheName? {σ : Type} (s : Site σ) : Option String :=
  s.cache.backend.map (·.name)

section
variable {σ : Type}

/-- Starts or stops the run that a request describes; `clock` is the time of day. -/
def slice (clock : Timestamp) (r : HttpRequest) (t : Warming.Timeline σ) :
    Reply × Warming.Timeline σ :=
  match sliceRequest r with
  | .error f => (.fault f, t)
  | .ok request =>
    match request.plan with
    | .error e => (.fault (.ofWarming e), t)
    | .ok plan =>
      if request.isSlice then
        match Warming.Task.ofPlan? plan clock with
        | some task =>
          let (_, t) := t.launch task
          (.message ⟨200, "slicing started, please wait", some true⟩, t)
        -- there is no answer then; but the tiles of a plan for a request can be counted
        | none => (.empty 500, t)
      else
        let (_, t) := t.cancel plan.task
        (.message ⟨200, "slicing stopped", some false⟩, t)

/-- Serves a tile. Time passes while the supply has not answered. -/
def serveTile (site : Site σ) (request : Tile.Request) (t : Warming.Timeline σ) :
    Except Tile.Error Tile.Response × Warming.Timeline σ :=
  let (found, t) := t.perform (site.cache.lookup request)
  match found with
  | .hit bytes => (.ok (Cache.hitResponse bytes), t)
  | found =>
    let (delay, t) := t.perform (site.supply.begin request)
    let t := t.await (.time (t.now + delay))
    let (answer, t) := t.perform (site.supply.finish request)
    (found.complete answer, t)

/-- The request for a tile of the server. -/
def tileRequest (map zoom x y : String) (query : Option String) : Tile.Request :=
  let r := Tile.Request.ofPath ("/" ++ map ++ "/" ++ zoom ++ "/" ++ x ++ "/" ++ y)
  match query with
  | some q => r.withQuery q
  | none => r

/-- Answers a request for a tile. -/
def answerTile (site : Site σ) (request : Tile.Request) (t : Warming.Timeline σ) :
    Reply × Warming.Timeline σ :=
  let (answer, t) := serveTile site request t
  match answer with
  | .ok response => (.ofTile response, t)
  | .error e => (.fault (.ofTile e), t)

/-- Answers a request at an endpoint that takes its method. -/
def answer (clock : Timestamp) (site : Site σ) (r : HttpRequest) (t : Warming.Timeline σ) :
    Endpoint → Reply × Warming.Timeline σ
  | .tile map zoom x y =>
    match decodeParts [("map", map), ("z", zoom), ("x", x), ("tile", y)] with
    | .ok [map, zoom, x, y] => answerTile site (tileRequest map zoom x y r.query) t
    | .ok _ => (.empty 500, t)
    | .error name => (badPart name, t)
  | .slice => slice clock r t
  | .link =>
    if r.method == "GET" then
      (.text 400 "text/plain; charset=utf-8" "Connection header did not include 'upgrade'", t)
    else (.text 405 "text/plain; charset=utf-8" "Request method must be \x60GET\x60", t)
  | .progress task =>
    match decodeParts [("task_id", task)] with
    | .ok parts => (.json 200 (t.desk.progress (parts.headD "")).json, t)
    | .error name => (badPart name, t)
  | .status => (.json 200 (StatusPage.ofDesk site.cacheName? t.desk).json, t)

/-- Answers a request. -/
def handle (clock : Timestamp) (site : Site σ) (r : HttpRequest) (t : Warming.Timeline σ) :
    Reply × Warming.Timeline σ :=
  if r.method == "OPTIONS" then (.empty 200, t)
  else match Endpoint.ofPath? r.path with
    | none =>
      let reply := Reply.fault ⟨.notFound, "not found: " ++ r.path⟩
      (reply, t)
    | some e =>
      if e.takes r.method then
        let (reply, t) := answer clock site r t e
        (if r.method == "HEAD" then reply.withoutBody else reply, t)
      else (.wrongMethod e.allow, t)

end

end TileDepot.Server
