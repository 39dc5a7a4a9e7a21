import TileDepot.Config.Derived
import TileDepot.Exchange.Values

/-!
# Settings in exchange

All settings as JSON by section and key, and settings with some of their fields replaced, each named
by its section and its key with a dot between them.
-/

namespace TileDepot

namespace Cache

def RedisSettings.ofJson (j : Json) : Except Error RedisSettings := do
  let d : RedisSettings := {}
  let network ← match j.str? "network" with
    | some s => Network.parse s
    | none => .ok d.network
  return {
    network
    address := (j.str? "address").getD d.address
    password := j.str? "password"
    uri := j.str? "uri"
    database := ((j.intAt? "db").map Int64.ofInt).getD d.database
    tls := j.flag "ssl"
    maxZoom := ((j.nat? "max_zoom").map UInt32.ofNat).getD d.maxZoom
    timeToLive := ((j.nat? "ttl").map UInt64.ofNat).getD d.timeToLive
    dialTimeout := ((j.nat? "dial_timeout_ms").map Duration.ofMillis).getD d.dialTimeout }

def Place.transport : Place → String
  | .tcp _ _ => "tcp"
  | .tls _ _ _ => "tls"
  | .socket _ => "unix"

/-- The certificate of the other end does not matter. -/
def Place.isInsecure : Place → Bool
  | .tls _ _ insecure => insecure
  | _ => false

def Connection.json (c : Connection) : Json :=
  .object [("transport", .text c.place.transport), ("insecure", .bool c.place.isInsecure),
    ("addr", .text c.place.text), ("db", .int c.database.toInt),
    ("username", .orNull .text c.username), ("password", .orNull .text c.password)]

/-- The connection that settings describe. -/
def RedisSettings.connectionJson (s : RedisSettings) : Json :=
  .orFault Error.json Connection.json (Connection.ofSettings s)

def Settings.json : Settings → Json
  | .none => .object [("name", .text "none")]
  | .memory s => .object [("name", .text "memory"), ("max_size_bytes", .natural s.maxBytes.toNat),
      ("max_zoom", .natural s.maxZoom.toNat), ("ttl_secs", .natural s.timeToLive.toNat)]
  | .redis s => .object [("name", .text "redis"), ("network", .text s.network.name),
      ("address", .text s.address), ("password", .orNull .text s.password),
      ("db", .int s.database.toInt), ("ssl", .bool s.tls), ("max_zoom", .natural s.maxZoom.toNat),
      ("ttl_secs", .natural s.timeToLive.toNat), ("uri", .orNull .text s.uri),
      ("dial_timeout_ms", .natural s.dialTimeout.millis), ("info", s.connectionJson)]

end Cache

/-- The settings of runs, with durations as texts. -/
def Warming.RunSettings.json (s : Warming.RunSettings) : Json :=
  .object [("max_concurrent", .natural s.maxConcurrent), ("tile_timeout", .text s.tileTimeout.text),
    ("tile_step", .natural s.throttle.tileStep), ("percent_step", .exact s.throttle.percentStep),
    ("queue_capacity", .natural s.queueCapacity), ("initial_delay", .text s.initialDelay.text),
    ("map", .text s.map)]

namespace Config

def Server.json (s : Server) : Json :=
  .object [("bind", .text s.bind), ("generator", .text s.generator.name),
    ("upstream_url", .orNull .text s.remoteUrl), ("upstream_timeout", .natural s.remoteTimeout)]

def CacheSection.json (s : CacheSection) : Json :=
  .object [("backend", .text s.store.name), ("max_zoom", .natural s.maxZoom.toNat),
    ("ttl", .natural s.timeToLive.toNat), ("memory_size", .natural s.memorySize.toNat),
    ("redis_network", .text s.network.name), ("redis_address", .text s.address),
    ("redis_password", .orNull .text s.password), ("redis_db", .int s.database.toInt),
    ("redis_ssl", .bool s.tls), ("redis_uri", .orNull .text s.uri),
    ("redis_dial_timeout_ms", .natural s.dialTimeout),
    ("cacheable_params", .list (s.cacheable.map .text))]

def Bulk.json (s : Bulk) : Json :=
  .object [("max_concurrent", .natural s.maxConcurrent), ("tile_timeout", .natural s.tileTimeout),
    ("broadcast_tile_step", .natural s.tileStep), ("broadcast_percent_step", .exact s.percentStep),
    ("queue_capacity", .natural s.queueCapacity),
    ("initial_broadcast_delay_ms", .natural s.initialDelay), ("map", .text s.map),
    ("fetch_mode", .text s.fetchMode.name), ("base_url", .text s.baseUrl)]

def Postgis.json (s : Postgis) : Json :=
  .object [("url", .orNull .text s.url), ("max_connections", .natural s.maxConnections),
    ("geometry_field", .text s.geometry)]

def Logging.json (s : Logging) : Json :=
  .object [("level", .text s.level), ("file", .orNull .text s.file)]

def MapSection.json (m : MapSection) : Json :=
  .object [("name", .text m.name), ("sql", .text m.template),
    ("params", .list (m.params.map .text))]

def MapSection.ofJson (j : Json) : MapSection :=
  ⟨j.str "name", j.str "sql", j.texts "params"⟩

def ParamSection.json (p : ParamSection) : Json :=
  .object [("name", .text p.name), ("token", .text p.token), ("sql", .text p.fragment),
    ("type", .text p.kind.name), ("default", .orNull .text p.default)]

def ParamSection.ofJson (j : Json) : ParamSection :=
  ⟨j.str "name", j.str "token", j.str "sql", .ofName (j.str "type"), j.str? "default"⟩

namespace Settings

def json (c : Settings) : Json :=
  .object [("server", c.server.json), ("cache", c.cache.json), ("bulk", c.bulk.json),
    ("postgis", c.postgis.json), ("logging", c.logging.json),
    ("maps", .list (c.maps.map MapSection.json)),
    ("params", .list (c.params.map ParamSection.json))]

/-- A name's meaning, or what held before if it has none. -/
def named (parse : String → Except ε α) (old : α) (name : Option String) : α :=
  match name.map parse with
  | some (.ok a) => a
  | _ => old

/-- An optional text that may be replaced. -/
def optional (j : Json) (name : String) (old : Option String) : Option String :=
  if j.has name then j.str? name else old

/-- The default settings with some fields replaced, whatever the values. -/
def ofFields (j : Json) : Settings :=
  let word (name old : String) : String := (j.str? name).getD old
  let count (name : String) (old : Nat) : Nat := (j.nat? name).getD old
  let d : Settings := {}
  { server := {
      bind := word "server.bind" d.server.bind
      generator := named Generator.parse d.server.generator (j.str? "server.generator")
      remoteUrl := optional j "server.upstream_url" d.server.remoteUrl
      remoteTimeout := count "server.upstream_timeout" d.server.remoteTimeout }
    cache := {
      store := named Store.parse d.cache.store (j.str? "cache.backend")
      maxZoom := UInt32.ofNat (count "cache.max_zoom" d.cache.maxZoom.toNat)
      timeToLive := UInt64.ofNat (count "cache.ttl" d.cache.timeToLive.toNat)
      memorySize := UInt64.ofNat (count "cache.memory_size" d.cache.memorySize.toNat)
      network := named Cache.Network.parse d.cache.network (j.str? "cache.redis_network")
      address := word "cache.redis_address" d.cache.address
      password := optional j "cache.redis_password" d.cache.password
      database := ((j.intAt? "cache.redis_db").map Int64.ofInt).getD d.cache.database
      tls := j.flag "cache.redis_ssl"
      uri := optional j "cache.redis_uri" d.cache.uri
      dialTimeout := count "cache.redis_dial_timeout_ms" d.cache.dialTimeout
      cacheable :=
        if j.has "cache.cacheable_params" then j.texts "cache.cacheable_params"
        else d.cache.cacheable }
    bulk := {
      maxConcurrent := count "bulk.max_concurrent" d.bulk.maxConcurrent
      tileTimeout := count "bulk.tile_timeout" d.bulk.tileTimeout
      tileStep := count "bulk.broadcast_tile_step" d.bulk.tileStep
      percentStep :=
        if j.has "bulk.broadcast_percent_step" then (j.field "bulk.broadcast_percent_step").number
        else d.bulk.percentStep
      queueCapacity := count "bulk.queue_capacity" d.bulk.queueCapacity
      initialDelay := count "bulk.initial_broadcast_delay_ms" d.bulk.initialDelay
      map := word "bulk.map" d.bulk.map
      fetchMode := named FetchMode.parse d.bulk.fetchMode (j.str? "bulk.fetch_mode")
      baseUrl := word "bulk.base_url" d.bulk.baseUrl }
    postgis := {
      url := optional j "postgis.url" d.postgis.url
      maxConnections := count "postgis.max_connections" d.postgis.maxConnections
      geometry := word "postgis.geometry_field" d.postgis.geometry }
    logging := {
      level := word "logging.level" d.logging.level
      file := optional j "logging.file" d.logging.file }
    maps := (j.items "maps").map .ofJson
    params := (j.items "params").map .ofJson }

end Settings

end Config

end TileDepot
