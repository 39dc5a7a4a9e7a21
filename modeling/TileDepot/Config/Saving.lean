import TileDepot.Config.ByteSize
import TileDepot.Config.Settings

/-!
# Saving settings

Settings as INI text, every key of the fixed sections with a remark where it needs one.
-/

namespace TileDepot.Config

/-- A line for one key. -/
def line (key value : String) : String :=
  key ++ " = " ++ value ++ "\n"

/-- A line that only people read. -/
def remark (text : String) : String :=
  "; " ++ text ++ "\n"

def heading (name : String) : String :=
  "[" ++ name ++ "]\n"

/-- A list with commas. -/
def joined (items : List String) : String :=
  ", ".intercalate items

/-- A line below a heading. -/
inductive Row where
  | remark (text : String)
  | pair (key value : String)

def Row.text : Row → String
  | remark t => Config.remark t
  | pair key v => line key v

/-- The lines of some rows. -/
def rowsText (rows : List Row) : String :=
  rows.foldr (fun r t => r.text ++ t) ""

/-- A section as it is written. -/
structure Written where
  name : String
  rows : List Row

def Written.text (w : Written) : String :=
  heading w.name ++ rowsText w.rows

def Server.written (s : Server) : Written where
  name := "server"
  rows := [
    .remark "Listen address",
    .pair "bind" s.bind,
    .remark "Tile source behind the cache:",
    .remark "  upstream - proxy another tile server (set upstream_url)",
    .remark "  postgis  - render [map.*] templates from PostGIS (set [postgis] url)",
    .pair "generator" s.generator.name,
    .pair "upstream_url" (s.remoteUrl.getD ""),
    .remark "Upstream request timeout in seconds",
    .pair "upstream_timeout" (toString s.remoteTimeout)]

def CacheSection.written (s : CacheSection) : Written where
  name := "cache"
  rows := [
    .remark "Backend: none, memory or redis",
    .pair "backend" s.store.name,
    .remark "Tiles above this zoom level are never cached",
    .pair "max_zoom" (toString s.maxZoom.toNat),
    .remark "Entry lifetime in seconds (0 = never expire)",
    .pair "ttl" (toString s.timeToLive.toNat),
    .remark "Memory backend budget (e.g. 256MB, 2GB)",
    .pair "memory_size" (formatSize s.memorySize),
    .remark "Redis transport: tcp or unix",
    .pair "redis_network" s.network.name,
    .pair "redis_address" s.address,
    .pair "redis_password" (s.password.getD ""),
    .pair "redis_db" (toString s.database.toInt),
    .pair "redis_ssl" (if s.tls then "true" else "false"),
    .remark "Full connection URI, overrides the redis_* fields above when set",
    .pair "redis_uri" (s.uri.getD ""),
    .pair "redis_dial_timeout_ms" (toString s.dialTimeout),
    .remark "Query parameters that keep a request cacheable (comma-separated)",
    .pair "cacheable_params" (joined s.cacheable)]

def Bulk.written (s : Bulk) : Written where
  name := "bulk"
  rows := [
    .remark "Tiles fetched at once per run",
    .pair "max_concurrent" (toString s.maxConcurrent),
    .remark "Per-tile deadline in seconds",
    .pair "tile_timeout" (toString s.tileTimeout),
    .remark "Publish progress every N tiles or every P percent",
    .pair "broadcast_tile_step" (toString s.tileStep),
    .pair "broadcast_percent_step" (Decimal.plain s.percentStep),
    .pair "queue_capacity" (toString s.queueCapacity),
    .pair "initial_broadcast_delay_ms" (toString s.initialDelay),
    .remark "Map warmed by bulk runs",
    .pair "map" s.map,
    .remark "local = through this server's cache in-process, http = against base_url",
    .pair "fetch_mode" s.fetchMode.name,
    .pair "base_url" s.baseUrl]

def Postgis.written (s : Postgis) : Written where
  name := "postgis"
  rows := [
    .pair "url" (s.url.getD ""),
    .pair "max_connections" (toString s.maxConnections),
    .remark "Column left out of !COLUMNS!",
    .pair "geometry_field" s.geometry]

def Logging.written (s : Logging) : Written where
  name := "logging"
  rows := [
    .remark "Filter directive, overridden by RUST_LOG",
    .pair "level" s.level,
    .remark "Optional log file in addition to stdout",
    .pair "file" (s.file.getD "")]

def MapSection.written (m : MapSection) : Written where
  name := "map." ++ m.name
  rows := [.pair "sql" m.template, .pair "params" (joined m.params)]

def ParamSection.written (p : ParamSection) : Written where
  name := "param." ++ p.name
  rows := [.pair "token" p.token, .pair "sql" p.fragment, .pair "type" p.kind.name] ++
    (p.default.map (Row.pair "default")).toList

namespace Settings

/-- The fixed sections, the maps and the parameters. -/
def written (c : Settings) : List Written :=
  [c.server.written, c.cache.written, c.bulk.written, c.postgis.written, c.logging.written] ++
    c.maps.map MapSection.written ++ c.params.map ParamSection.written

/-- The whole text, with an empty line between sections. -/
def ini (c : Settings) : String :=
  "\n".intercalate (c.written.map Written.text)

end Settings

end TileDepot.Config
