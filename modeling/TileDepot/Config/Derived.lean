import TileDepot.Config.Loading
import TileDepot.Tile.MapQuery
import TileDepot.Warming.Run

/-!
# What settings mean

The settings of the cache and of runs, and the maps with their parameters, as the rest of the
program takes them.
-/

namespace TileDepot.Config.Settings

/-- The cache's settings. -/
def cacheSettings (c : Settings) : Cache.Settings :=
  let s := c.cache
  match s.store with
  | .none => .none
  | .memory =>
    .memory { maxBytes := s.memorySize, maxZoom := s.maxZoom, timeToLive := s.timeToLive }
  | .redis => .redis {
      network := s.network
      address := s.address
      password := s.password
      database := s.database
      tls := s.tls
      maxZoom := s.maxZoom
      timeToLive := s.timeToLive
      uri := s.uri
      dialTimeout := .ofMillis s.dialTimeout }

/-- The settings of runs. -/
def runSettings (c : Settings) : Warming.RunSettings :=
  let s := c.bulk
  Warming.RunSettings.clamped {
    maxConcurrent := s.maxConcurrent
    tileTimeout := .ofSeconds s.tileTimeout
    throttle := ⟨s.tileStep, s.percentStep⟩
    queueCapacity := s.queueCapacity
    initialDelay := .ofMillis s.initialDelay
    map := s.map }

def remoteTimeout (c : Settings) : Duration :=
  .ofSeconds c.server.remoteTimeout

/-- The parameter that a section defines. Its default must be of its kind. -/
def parameter (p : ParamSection) : Except InvalidValue Query.Parameter := do
  let name := "param." ++ p.name
  match Query.Parameter.define p.name p.token p.fragment p.kind p.default with
  | .error e => .error ⟨name, "token", p.token, e.message⟩
  | .ok parameter =>
    match p.default with
    | none => return parameter
    | some d =>
      if (p.kind.value? d).isSome then return parameter
      else .error ⟨name, "default", d, p.kind.expectation⟩

/-- The last parameter of a name. -/
def lastNamed? (ps : List Query.Parameter) (name : String) : Option Query.Parameter :=
  ps.reverse.find? fun p => p.name == name

/-- The parameters that a map names. -/
def namedParameters (ps : List Query.Parameter) (m : MapSection) :
    Except InvalidValue (List Query.Parameter) :=
  m.params.mapM fun name =>
    match lastNamed? ps name with
    | some p => .ok p
    | none => .error ⟨"map." ++ m.name, "params", name, "no [param] section with this name"⟩

/-- The maps with their parameters. Every parameter must be well defined, also one that no map
names. -/
def mapQueries (c : Settings) : Except InvalidValue (List Tile.MapQuery) := do
  let ps ← c.params.mapM parameter
  c.maps.mapM fun m => return ⟨m.name, m.template, ← namedParameters ps m⟩

end TileDepot.Config.Settings
