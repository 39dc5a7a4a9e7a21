import TileDepot.Cache.Error
import TileDepot.Grid.Basic
import TileDepot.Text.Blank
import TileDepot.Text.Duration
import TileDepot.Text.LetterCase

/-!
# Cache settings

Which backend keeps the tiles, and what it needs to know. Every setting has a default.
-/

namespace TileDepot.Cache

/-- How the store is reached. -/
inductive Network where
  | tcp
  | unix
  deriving Repr, DecidableEq

def Network.name : Network → String
  | .tcp => "tcp"
  | .unix => "unix"

/-- Reads a network's name, in any case and with blanks around it. -/
def Network.parse (s : String) : Except Error Network :=
  let name := Text.lower (Text.trim s)
  if name == "tcp" then .ok .tcp
  else if name == "unix" then .ok .unix
  else .error (.config s!"unknown network '{name}': expected 'tcp' or 'unix'")

/-- The settings of a Redis store. -/
structure RedisSettings where
  network : Network := .tcp
  /-- Host and port, or the path of a socket. -/
  address : String := "127.0.0.1:6379"
  password : Option String := none
  /-- The number of the database. -/
  database : Int64 := 0
  tls : Bool := false
  maxZoom : UInt32 := Grid.maxZoom
  /-- How many seconds an entry lives; zero is for ever. -/
  timeToLive : UInt64 := 0
  /-- Takes the place of all settings but `maxZoom` and `timeToLive`. -/
  uri : Option String := none
  dialTimeout : Duration := .ofSeconds 3
  deriving Repr, DecidableEq

/-- The settings of a memory store. -/
structure MemorySettings where
  maxBytes : UInt64 := 268435456
  maxZoom : UInt32 := Grid.maxZoom
  timeToLive : UInt64 := 0
  deriving Repr, DecidableEq

/-- The backend with its settings. -/
inductive Settings where
  | none
  | memory (s : MemorySettings)
  | redis (s : RedisSettings)
  deriving Repr, DecidableEq

end TileDepot.Cache
