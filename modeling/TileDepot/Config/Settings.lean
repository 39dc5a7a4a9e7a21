import TileDepot.Cache.ReadThrough
import TileDepot.Cache.Settings
import TileDepot.Query.Value

/-!
# Settings

Everything that the configuration file says, section by section, with the values that hold when it
says nothing.
-/

namespace TileDepot.Config

/-- Where tiles come from. -/
inductive Generator where
  /-- Another tile server. -/
  | remote
  /-- The queries of the maps. -/
  | postgis
  deriving Repr, DecidableEq

namespace Generator

def name : Generator → String
  | .remote => "upstream"
  | .postgis => "postgis"

def parse (s : String) : Except String Generator :=
  let name := Text.lower (Text.trim s)
  if name == "upstream" then .ok .remote
  else if name == "postgis" then .ok .postgis
  else .error "must be one of: upstream, postgis"

end Generator

/-- What keeps the tiles. -/
inductive Store where
  | none
  | memory
  | redis
  deriving Repr, DecidableEq

namespace Store

def name : Store → String
  | .none => "none"
  | .memory => "memory"
  | .redis => "redis"

/-- Reads a store's name; the empty name is that of none. -/
def parse (s : String) : Except String Store :=
  let name := Text.lower (Text.trim s)
  if name == "none" || name == "" then .ok .none
  else if name == "memory" then .ok .memory
  else if name == "redis" then .ok .redis
  else .error "must be one of: none, memory, redis"

end Store

/-- How runs get their tiles. -/
inductive FetchMode where
  /-- Through the server's own cache. -/
  | local
  /-- From a server at the base address. -/
  | http
  deriving Repr, DecidableEq

namespace FetchMode

def name : FetchMode → String
  | .local => "local"
  | .http => "http"

def parse (s : String) : Except String FetchMode :=
  let name := Text.lower (Text.trim s)
  if name == "local" then .ok .local
  else if name == "http" then .ok .http
  else .error "must be one of: local, http"

end FetchMode

/-- The `server` section. -/
structure Server where
  bind : String := "0.0.0.0:19089"
  generator : Generator := .remote
  remoteUrl : Option String := none
  /-- In seconds. -/
  remoteTimeout : Nat := 30
  deriving BEq

/-- The `cache` section. -/
structure CacheSection where
  store : Store := .memory
  maxZoom : UInt32 := Grid.maxZoom
  /-- In seconds; zero is for ever. -/
  timeToLive : UInt64 := 0
  memorySize : UInt64 := 268435456
  network : Cache.Network := .tcp
  address : String := "127.0.0.1:6379"
  password : Option String := none
  database : Int64 := 0
  tls : Bool := false
  uri : Option String := none
  /-- In milliseconds. -/
  dialTimeout : Nat := 3000
  cacheable : List String := Cache.defaultCacheable
  deriving BEq

/-- The `bulk` section. -/
structure Bulk where
  maxConcurrent : Nat := 15
  /-- In seconds. -/
  tileTimeout : Nat := 30
  tileStep : Nat := 10
  percentStep : Float := 5.0
  queueCapacity : Nat := 256
  /-- In milliseconds. -/
  initialDelay : Nat := 100
  map : String := "inference_database"
  fetchMode : FetchMode := .local
  baseUrl : String := "http://127.0.0.1:19089"
  deriving BEq

/-- The `postgis` section. -/
structure Postgis where
  url : Option String := none
  maxConnections : Nat := 10
  /-- The column that the column token leaves out. -/
  geometry : String := "geom"
  deriving BEq

/-- The `logging` section. -/
structure Logging where
  level : String := "info"
  file : Option String := none
  deriving BEq

/-- A `map` section. -/
structure MapSection where
  name : String
  template : String
  /-- The names of the parameters that the map takes. -/
  params : List String
  deriving BEq

/-- A `param` section. -/
structure ParamSection where
  name : String
  token : String
  fragment : String
  kind : Query.Kind
  default : Option String
  deriving BEq

/-- The whole configuration. -/
structure Settings where
  server : Server := {}
  cache : CacheSection := {}
  bulk : Bulk := {}
  postgis : Postgis := {}
  logging : Logging := {}
  /-- In the order of the file. -/
  maps : List MapSection := []
  params : List ParamSection := []
  deriving BEq

end TileDepot.Config
