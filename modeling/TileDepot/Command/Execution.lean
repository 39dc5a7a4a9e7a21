import TileDepot.Command.Address
import TileDepot.Command.Arguments
import TileDepot.Command.Report
import TileDepot.Config.Saving

/-!
# Carrying out commands

Every command loads the settings first, with what its options change in them. A command reads and
writes files on a disk, and reaches for servers, stores and databases in its surroundings.
-/

namespace TileDepot.Command

/-- The machine that a command runs on. -/
structure Machine (σ : Type) where
  /-- The user's directory. -/
  home : Option String
  /-- The time of day. -/
  clock : Timestamp
  surroundings : Server.Surroundings (StateM σ)
  /-- Runs a server at an address until it is stopped. -/
  listen : Server.App σ → ListenAddress → StateM σ (Except String Unit)

/-- What a command makes of a disk. -/
abbrev Outcome := Report × Files.Disk

/-! ## Settings -/

/-- The configuration file if none is named. -/
def defaultPath (home : Option String) : String :=
  home.getD "." ++ "/.tilecache/config.ini"

/-- The error of a file that could not be read. -/
def readFailure (reason : String) : Failure :=
  .file ("Failed to read config file: " ++ reason)

/-- The error of settings that could not be loaded. -/
def loadFailure : Config.LoadError → Failure
  | .notText => readFailure "stream did not contain valid UTF-8"
  | .notIni cause => readFailure cause.message
  | .invalid cause => .file cause.message

/-- Loads the settings from a file. Without a file the defaults hold. -/
def loadSettings (home : Option String) (path : String) (d : Files.Disk) :
    Except Failure Config.Settings :=
  if d.holds path then
    match d.read path with
    | .error f => .error (readFailure f.message)
    | .ok bytes => (Config.Settings.loadFile home (some bytes)).mapError loadFailure
  else .ok {}

/-- Writes settings to a file, whose directory is made if need be. -/
def saveSettings (c : Config.Settings) (path : String) (d : Files.Disk) :
    Except Failure Files.Disk := do
  let made ← (d.makeDirectories (Files.parent path)).mapError fun f =>
    .file ("Failed to create config directory: " ++ f.message)
  (made.write path (Bytes.ofText c.ini)).mapError fun f =>
    .file ("Failed to write config file: " ++ f.message)

/-- Prints the settings as the file has them. -/
def settingsReport (home : Option String) (path : String) (d : Files.Disk) : Report :=
  .ofResult "" <| do
    let c ← loadSettings home path d
    let remark := if d.holds path then "" else s!"; {path} does not exist, showing defaults\n"
    return remark ++ c.ini

/-- Writes a file with the default settings. -/
def writeDefaultFile (path : String) (d : Files.Disk) : Outcome :=
  if d.holds path then (.success s!"Config file already exists: {path}\n", d)
  else match saveSettings {} path d with
    | .error f => (.failure "" f, d)
    | .ok d => (.success s!"Wrote default config to {path}\n", d)

/-! ## Purging -/

/-- The key of the entry that a path and a query belong to. Question marks at the beginning of the
query do not count. -/
def purgeKey (path : String) (query : Option String) : Except Tile.KeyError Tile.Key := do
  let key ← Tile.Key.ofPath path
  match query with
  | some q => return key.withQuery (String.ofList (q.toList.dropWhile (· == '?')))
  | none => return key

/-- Removes an entry from a cache and says so. -/
def purgeFrom {m : Type → Type} [Monad m] (key : Tile.Key) :
    Option (Cache.Backend m) → m (Except Failure String)
  | none => return .error (.setting "no cache backend configured")
  | some backend => do
    match ← backend.purge key with
    | .error e => return .error (.cache e)
    | .ok () => return .ok s!"Purged {key.text} from {backend.name} cache\n"

/-- Removes one tile from the cache that the settings describe. -/
def purgeTile {m : Type → Type} [Monad m] (resources : Cache.Resources m) (c : Config.Settings)
    (path : String) (query : Option String) : m (Except Failure String) := do
  match purgeKey path query with
  | .error e => return .error (.path e)
  | .ok key =>
    match ← c.cacheSettings.openBackend resources with
    | .error e => return .error (.cache e)
    | .ok backend => purgeFrom key backend

/-! ## Serving -/

/-- What the server says when it comes up. -/
def banner (c : Config.Settings) : List String := [
  s!"tilecache v{Server.version}",
  "================",
  "",
  s!"Listening:  {c.server.bind}",
  s!"Generator:  {c.server.generator.name}",
  s!"Cache:      {c.cache.store.name}",
  s!"Bulk map:   {c.bulk.map}",
  "",
  "Press Ctrl-C to stop."]

/-- Starts a server and runs it. -/
def serveApp {σ : Type} (machine : Machine σ) (c : Config.Settings) :
    StateM σ (Except Failure String) := do
  match ← Server.App.start machine.surroundings c with
  | .error e => return .error (.start e)
  | .ok app =>
    match ListenAddress.parse c.server.bind with
    | .error reason => return .error (.start (.server reason))
    | .ok address =>
      match ← machine.listen app address with
      | .error reason => return .error (.start (.server reason))
      | .ok () => return .ok ""

/-! ## Warming -/

/-- The numbers of a box, with commas between them. Blank pieces do not count. -/
def parseBounds (value : String) : Except Failure (List Float) :=
  let pieces := (Text.pieces ',' value.toList).map fun p => Text.trim (String.ofList p)
  (pieces.filter fun p => !p.isEmpty).mapM fun p =>
    match Decimal.float? p with
    | some x => .ok x
    | none => .error (.setting s!"invalid coordinate '{p}' in --bounds")

/-- What is said before a run. -/
def warmBanner (c : Config.Settings) (plan : Warming.Plan) (total : UInt64)
    (minZoom maxZoom : UInt32) : List String :=
  let low := min minZoom.toNat maxZoom.toNat
  let high := max minZoom.toNat maxZoom.toNat
  [s!"Warming {total.toNat} tiles for task '{plan.task}' (zoom {low}..={high}, " ++
      s!"{c.bulk.maxConcurrent} at once)",
    match c.bulk.fetchMode with
    | .http => s!"Target: {c.bulk.baseUrl}"
    | .local => s!"Target: in-process ({c.cache.store.name} cache)",
    ""]

/-- Milliseconds as seconds with one place. -/
def tenths (millis : Nat) : String :=
  let n := (millis + 50) / 100
  toString (n / 10) ++ "." ++ toString (n % 10)

/-- What is said after a run that took some milliseconds. -/
def summaryLines (s : Warming.Summary) (millis : Nat) : List String :=
  let outcome :=
    if s.isCancelled then "cancelled"
    else if 0 < s.failed then "finished with failures"
    else "done"
  [s!"Task '{s.task}' {outcome}",
    s!"  Tiles:     {s.completed}/{s.total}",
    s!"  Succeeded: {s.succeeded}",
    s!"  Failed:    {s.failed}",
    s!"  Elapsed:   {tenths millis}s"]

/-- Carries out one run to its end. -/
def warmAlong {σ : Type} (task : Warming.Task) (t : Warming.Timeline σ) :
    Except Failure String × σ :=
  let (run, t) := t.launch task
  let t := t.await (.finish run)
  match (t.desk.runs[run]?).bind Warming.Run.summary? with
  | some s => (.ok (Report.text (summaryLines s t.now)), t.world)
  | none => (.error (.run (.broken "the run did not end")), t.world)

/-- The way by which a run gets its tiles: from a server alone, or as the whole program does. -/
def warmRoute {σ : Type} (machine : Machine σ) (c : Config.Settings) :
    StateM σ (Except Server.StartError (Warming.Route σ)) := do
  match c.bulk.fetchMode with
  | .http => return Server.serverRoute machine.surroundings c
  | .local => return (← Server.App.start machine.surroundings c).map (·.route)

/-- Carries out a task. -/
def warmTask {σ : Type} (machine : Machine σ) (c : Config.Settings) (task : Warming.Task) :
    StateM σ (Except Failure String) := do
  match ← warmRoute machine c with
  | .error e => return .error (.start e)
  | .ok route => fun world => warmAlong task (.start c.runSettings route world)

/-- The settings with what the options of a run change. -/
def warmSettings (c : Config.Settings) (baseUrl : Option String) (concurrency : Option UInt64) :
    Config.Settings :=
  let bulk := match baseUrl with
    | some url => { c.bulk with fetchMode := .http, baseUrl := url }
    | none => c.bulk
  { c with
    bulk := match concurrency with
      | some n => { bulk with maxConcurrent := max n.toNat 1 }
      | none => bulk }

/-! ## Commands -/

/-- Begins the log, prints something, and goes on with the rest of a command. -/
def logged {σ : Type} (c : Config.Settings) (lines : List String) (d : Files.Disk)
    (rest : StateM σ (Except Failure String)) : StateM σ Outcome := do
  match Files.LogFile.create c.logging.file d with
  | .error e => return (.failure "" (.logging e), d)
  | .ok d => return (.ofResult (Report.text lines) (← rest), d)

/-- Carries out an action with settings that are loaded. -/
def Action.execute {σ : Type} (machine : Machine σ) (c : Config.Settings) (d : Files.Disk) :
    Action → StateM σ Outcome
  | .serve bind =>
    let c := match bind with
      | some address => { c with server := { c.server with bind := address } }
      | none => c
    logged c (banner c) d (serveApp machine c)
  | .warm task bounds minZoom maxZoom baseUrl concurrency =>
    let c := warmSettings c baseUrl concurrency
    match parseBounds bounds with
    | .error f => return (.failure "" f, d)
    | .ok box =>
      match Warming.Request.plan ⟨true, task, box, minZoom, maxZoom⟩ with
      | .error e => return (.failure "" (.run e), d)
      | .ok plan =>
        match plan.total?, Warming.Task.ofPlan? plan machine.clock with
        | some total, some task =>
          logged c (warmBanner c plan total minZoom maxZoom) d (warmTask machine c task)
        -- a plan for a request has both
        | _, _ => return (.stopped "attempt to add with overflow", d)
  | .purge path query => do
    return (.ofResult "" (← purgeTile machine.surroundings.resources c path query), d)

/-- Carries out an action with a configuration file. -/
def FileAction.execute (home : Option String) (path : String) (d : Files.Disk) :
    FileAction → Outcome
  | .showPath => (.success (path ++ "\n"), d)
  | .showSettings => (settingsReport home path d, d)
  | .writeDefaults => writeDefaultFile path d

/-- Carries out a command. -/
def run {σ : Type} (machine : Machine σ) (arguments : Arguments) (d : Files.Disk) :
    StateM σ Outcome :=
  let path := arguments.config.getD (defaultPath machine.home)
  match arguments.request with
  | .file action => return action.execute machine.home path d
  | .act action =>
    match loadSettings machine.home path d with
    | .error f => return (.failure "" f, d)
    | .ok c => action.execute machine c d

/-- How the program is used. -/
def usage : List String := [
  "Vector tile cache with bulk cache warming",
  "",
  "Usage: tilecache [--config <CONFIG>] <COMMAND>",
  "",
  "Commands:",
  "  serve   [--bind <BIND>]",
  "  warm    --task-id <TASK_ID> --bounds <BOUNDS> --minzoom <MINZOOM> --maxzoom <MAXZOOM>",
  "          [--base-url <BASE_URL>] [--concurrency <CONCURRENCY>]",
  "  purge   --path <PATH> [--query <QUERY>]",
  "  config  show | path | init"]

/-- The report on a command line that asks for nothing to be run. -/
def stopReport : Stop → Report
  | .misuse => ⟨2, "", Report.text usage⟩
  | .help => .success (Report.text usage)
  | .version => .success s!"tilecache {Server.version}\n"

/-- Carries out a command line. -/
def runLine {σ : Type} (machine : Machine σ) (line : List String) (d : Files.Disk) :
    StateM σ Outcome :=
  match Arguments.parse line with
  | .error stop => return (stopReport stop, d)
  | .ok arguments => run machine arguments d

end TileDepot.Command
