import TileDepot.Text.Bytes
import TileDepot.Text.Quoted
import TileDepot.Tile.Error

/-!
# Tile responses

A response has a status, a content type and a body that is read piece by piece. A body that is to be
cached keeps what was read of it, and asks for one write when its end is reached: of everything, if
nothing failed and there was anything to keep.
-/

namespace TileDepot.Tile

/-- The content type of vector tiles. -/
def vectorTile : String := "application/vnd.mapbox-vector-tile"

/-- Where a response came from. -/
inductive CacheStatus where
  | hit
  | miss
  deriving Repr, DecidableEq

/-- The value of the cache header. -/
def CacheStatus.text : CacheStatus → String
  | .hit => "HIT"
  | .miss => "MISS"

/-- A piece of a body: a chunk, or an error in its place. -/
abbrev Item := Except Error Bytes

/-- What has been read of a body that is to be cached under a key. -/
structure Capture where
  key : Key
  /-- The chunks, the last one first. -/
  chunks : List Bytes
  failed : Bool

namespace Capture

def start (key : Key) : Capture :=
  ⟨key, [], false⟩

/-- Takes note of a piece. -/
def note (c : Capture) : Item → Capture
  | .ok chunk => { c with chunks := chunk :: c.chunks }
  | .error _ => { c with failed := true }

/-- Everything that was read. -/
def bytes (c : Capture) : Bytes :=
  c.chunks.reverse.flatten

/-- What to write at the end of the body. -/
def write? (c : Capture) : Option (Key × Bytes) :=
  if c.failed || c.bytes.isEmpty then none else some (c.key, c.bytes)

end Capture

/-- A body: the pieces that are still to come. -/
structure Body where
  items : List Item
  capture : Option Capture

namespace Body

/-- What one step of reading gives: a piece, or the end of the body with the write it asks for. -/
inductive Step where
  | item (i : Item) (rest : Body)
  | done (write : Option (Key × Bytes))

/-- Reads on. -/
def next (b : Body) : Step :=
  match b.items with
  | i :: is => .item i ⟨is, b.capture.map (·.note i)⟩
  | [] => .done (b.capture.bind Capture.write?)

/-- A body that is not captured. -/
def ofItems (items : List Item) : Body :=
  ⟨items, none⟩

end Body

/-- A response to a tile request. -/
structure Response where
  status : Nat
  contentType : Option String
  /-- There is none when the cache was passed by. -/
  cacheStatus : Option CacheStatus
  body : Body

namespace Response

/-- A response whose body comes in pieces. -/
def streaming (status : Nat) (contentType : Option String) (items : List Item) : Response :=
  ⟨status, contentType, none, .ofItems items⟩

/-- A complete response. -/
def ok (bytes : Bytes) (contentType : String) : Response :=
  streaming 200 (some contentType) [.ok bytes]

/-- A response without body. -/
def empty (status : Nat) : Response :=
  streaming status none []

def isSuccess (r : Response) : Bool :=
  200 ≤ r.status && r.status < 300

/-- The response as logs show it. -/
def summary (r : Response) : String :=
  let contentType := match r.contentType with
    | some t => "Some(" ++ Text.quoted t ++ ")"
    | none => "None"
  let cache := match r.cacheStatus with
    | some .hit => "Some(Hit)"
    | some .miss => "Some(Miss)"
    | none => "None"
  "TileResponse \x7b status: " ++ toString r.status ++ ", content_type: " ++ contentType ++
    ", cache_status: " ++ cache ++ ", .. \x7d"

end Response

end TileDepot.Tile
