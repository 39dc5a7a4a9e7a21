import TileDepot.Cache.Opening
import TileDepot.Config.Derived
import TileDepot.Server.Routes

/-!
# Starting up

The settings say what the server is made of. The generator is made first, then the cache is opened,
then the way is chosen by which runs get their tiles; the first of these that fails is the error.
-/

namespace TileDepot.Server

/-- Why the server does not run. -/
inductive StartError where
  | settings (cause : Config.InvalidValue)
  /-- A setting is missing. -/
  | missing (reason : String)
  | cache (cause : Cache.Error)
  | generator (cause : Tile.Error)
  | database (reason : String)
  | server (reason : String)
  deriving Repr, DecidableEq

namespace StartError

/-- What the causes of an error say, the nearest one first. -/
def causes : StartError → List String
  | .settings cause => [cause.message]
  | .missing _ => []
  | .cache cause => [cause.message]
  | .generator cause => cause.message :: cause.cause?.toList
  | .database reason => [reason]
  | .server reason => [reason]

def message : StartError → String
  | .settings cause => "Failed to load configuration: " ++ cause.message
  | .missing reason => "Configuration error: " ++ reason
  | .cache cause => "Failed to start cache backend: " ++ cause.message
  | .generator cause => "Failed to create tile generator: " ++ cause.message
  | .database reason => "Failed to connect to PostGIS: " ++ reason
  | .server reason => "HTTP server error: " ++ reason

end StartError

/-- What a server finds around it. -/
structure Surroundings (m : Type → Type) where
  resources : Cache.Resources m
  web : Tile.Web m
  /-- Connects to the database at a URL, with at most so many connections. -/
  database : String → Nat → m (Except String (Tile.Database m))

/-- What makes tiles. -/
abbrev Generate (m : Type → Type) :=
  Tile.Request → m (Except Tile.Error Tile.Response)

section
variable {m : Type → Type} [Monad m]

/-- The generator that passes requests on. -/
def proxyGenerator (around : Surroundings m) (c : Config.Settings) :
    Except StartError (Generate m) :=
  match c.server.remoteUrl with
  | none =>
    .error (.missing "[server] upstream_url is required when generator = upstream")
  | some url =>
    match Tile.Proxy.ofBase url c.remoteTimeout with
    | .error e => .error (.generator e)
    | .ok proxy => .ok (proxy.generate around.web)

/-- The generator that asks a database. -/
def databaseGenerator (around : Surroundings m) (c : Config.Settings) :
    m (Except StartError (Generate m)) := do
  match c.postgis.url with
  | none => return .error (.missing "[postgis] url is required when generator = postgis")
  | some url =>
    match c.mapQueries with
    | .error e => return .error (.settings e)
    | .ok maps =>
      match ← around.database url c.postgis.maxConnections with
      | .error reason => return .error (.database reason)
      | .ok db => return .ok (Tile.MapQuery.generate db c.postgis.geometry maps)

/-- The generator that the settings describe. -/
def generator (around : Surroundings m) (c : Config.Settings) :
    m (Except StartError (Generate m)) :=
  match c.server.generator with
  | .remote => return proxyGenerator around c
  | .postgis => databaseGenerator around c

end

section
variable {σ : Type}

/-- The way by which runs get their tiles from a server. -/
def serverRoute (around : Surroundings (StateM σ)) (c : Config.Settings) :
    Except StartError (Warming.Route σ) :=
  match Tile.checkedBase c.bulk.baseUrl with
  | .error e => .error (.generator e)
  | .ok base => .ok (.direct (.ofServer around.web c.runSettings.tileTimeout base))

/-- The way by which runs get their tiles. -/
def route (around : Surroundings (StateM σ)) (c : Config.Settings) (site : Site σ) :
    Except StartError (Warming.Route σ) :=
  match c.bulk.fetchMode with
  | .local => .ok (.cached site.cache site.supply)
  | .http => serverRoute around c

/-- A server that is ready to run. -/
structure App (σ : Type) where
  settings : Config.Settings
  site : Site σ
  route : Warming.Route σ

namespace App

/-- Starts a server with a generator that is there already. -/
def startWith (around : Surroundings (StateM σ)) (c : Config.Settings)
    (generate : Generate (StateM σ)) : StateM σ (Except StartError (App σ)) := do
  match ← c.cacheSettings.openBackend around.resources with
  | .error e => return .error (.cache e)
  | .ok backend =>
    let site : Site σ := ⟨⟨backend, c.cache.cacheable⟩, .immediate generate⟩
    return (Server.route around c site).map fun route => ⟨c, site, route⟩

/-- Starts a server. -/
def start (around : Surroundings (StateM σ)) (c : Config.Settings) :
    StateM σ (Except StartError (App σ)) := do
  match ← generator around c with
  | .error e => return .error e
  | .ok generate => startWith around c generate

/-- The server's runs at the beginning. -/
def timeline (a : App σ) (world : σ) : Warming.Timeline σ :=
  .start a.settings.runSettings a.route world

end App

end

end TileDepot.Server
