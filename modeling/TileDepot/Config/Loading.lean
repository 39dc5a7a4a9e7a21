import TileDepot.Config.ByteSize
import TileDepot.Config.IniText
import TileDepot.Config.Settings
import TileDepot.Query.Parameter
import TileDepot.Url.Basic

/-!
# Loading settings

The settings that an INI text says. Each known key is read by a rule of its own, in a fixed order;
keys that are not known do not matter, and the first value that no rule takes is the fault of the
whole text.
-/

namespace TileDepot.Config

/-- A value that is not as it should be. -/
structure InvalidValue where
  sectionName : String
  key : String
  value : String
  reason : String
  deriving Repr, DecidableEq

def InvalidValue.message (i : InvalidValue) : String :=
  s!"Invalid configuration: {i.sectionName}.{i.key} = '{i.value}' - {i.reason}"

/-- Why there are no settings. -/
inductive LoadError where
  /-- The file holds no text. -/
  | notText
  /-- The text is not INI text. -/
  | notIni (cause : IniText.Fault)
  | invalid (cause : InvalidValue)
  deriving Repr, DecidableEq

/-- The rule for one key: how its value changes what has been read, or why it does not. -/
structure Rule (σ : Type) where
  key : String
  read : String → σ → Except String σ
  /-- The value as a fault shows it. -/
  shown : String → String := id

namespace Rule

/-- A value that `read?` takes. -/
def ofOption (key reason : String) (read? : String → Option α) (put : σ → α → σ) : Rule σ where
  key
  read v s :=
    match read? v with
    | some a => .ok (put s a)
    | none => .error reason

/-- A value that is read with reasons of its own. -/
def ofExcept (key : String) (read : String → Except String α) (put : σ → α → σ) : Rule σ where
  key
  read v s := (read v).map (put s)

/-- A text that replaces the default unless it is blank. -/
def text (key : String) (put : σ → String → σ) : Rule σ where
  key
  read v s := .ok (if Text.isBlankText v then s else put s (Text.trim v))

/-- A text, of which a blank one is none. -/
def optionalText (key : String) (put : σ → Option String → σ) : Rule σ where
  key
  read v s := .ok (put s (if Text.isBlankText v then none else some (Text.trim v)))

/-- A number that may have blanks around it. -/
def natural? (limit : Nat) (v : String) : Option Nat :=
  Text.natural? limit (Text.trimChars v.toList)

/-- A number above zero that may have blanks around it. -/
def positive? (limit : Nat) (v : String) : Option Nat :=
  (natural? limit v).filter (0 < ·)

/-- Reads the keys that a section has. -/
def readAll (sect : IniSection) (name : String) : List (Rule σ) → σ → Except InvalidValue σ
  | [], s => .ok s
  | r :: rs, s =>
    match sect.get? r.key with
    | none => readAll sect name rs s
    | some v =>
      match r.read v s with
      | .ok s => readAll sect name rs s
      | .error reason => .error ⟨name, r.key, r.shown v, reason⟩

end Rule

/-! ## The rules of each section -/

/-- The items of a list with commas; blank ones do not count. -/
def splitList (s : String) : List String :=
  ((Text.pieces ',' s.toList).map Text.trimChars).filterMap fun item =>
    if item.isEmpty then none else some (String.ofList item)

/-- The words for a switch that is on. -/
def isOn (s : String) : Bool :=
  ["true", "1", "yes", "on"].contains (Text.lower (Text.trim s))

/-- A path as the file system knows it: `~/` is the home directory. -/
def expandHome (home : Option String) (path : String) : String :=
  match path.toList, home with
  | '~' :: '/' :: r, some h =>
    if r.head? == some '/' then String.ofList r
    else if h.toList.getLast? == some '/' then h ++ String.ofList r
    else h ++ "/" ++ String.ofList r
  | _, _ => path

/-- A share in percent that is above zero. -/
def percentStep (v : String) : Except String Float :=
  match Decimal.float? (Text.trim v) with
  | none => .error "must be a number above 0"
  | some x =>
    if x > 0.0 && x ≤ 100.0 then .ok x else .error "must be above 0 and at most 100"

/-- The base address of a server, which must be a URL. A blank one is none. -/
def baseUrlRule : Rule Bulk where
  key := "base_url"
  read v s :=
    if Text.isBlankText v then .ok s
    else match Url.parse (Text.trim v) with
      | .ok _ => .ok { s with baseUrl := Text.trim v }
      | .error f => .error ("not a valid URL: " ++ f.message)
  shown := Text.trim

def serverRules : List (Rule Server) := [
  .text "bind" fun s v => { s with bind := v },
  .ofExcept "generator" Generator.parse fun s v => { s with generator := v },
  .optionalText "upstream_url" fun s v => { s with remoteUrl := v },
  .ofOption "upstream_timeout" "must be a positive integer (seconds)" (Rule.positive? UInt64.size)
    fun s v => { s with remoteTimeout := v }]

def cacheRules : List (Rule CacheSection) := [
  .ofExcept "backend" Store.parse fun s v => { s with store := v },
  .ofOption "max_zoom" "must be a zoom level between 0 and 22"
    (fun v => (Rule.natural? UInt32.size v).filter (· ≤ Grid.maxZoom.toNat))
    fun s v => { s with maxZoom := UInt32.ofNat v },
  .ofOption "ttl" "must be a non-negative integer (seconds)" (Rule.natural? UInt64.size)
    fun s v => { s with timeToLive := UInt64.ofNat v },
  .ofExcept "memory_size"
    (fun v => match parseSize? v with
      | some n => .ok n
      | none => .error (sizeFault v))
    fun s v => { s with memorySize := v },
  .ofExcept "redis_network" (fun v => (Cache.Network.parse v).mapError Cache.Error.message)
    fun s v => { s with network := v },
  .text "redis_address" fun s v => { s with address := v },
  .optionalText "redis_password" fun s v => { s with password := v },
  .ofOption "redis_db" "must be a non-negative integer"
    (fun v => (Text.int64? (Text.trim v)).filter (0 ≤ ·))
    fun s v => { s with database := v },
  .ofOption "redis_ssl" "" (fun v => some (isOn v)) fun s v => { s with tls := v },
  .optionalText "redis_uri" fun s v => { s with uri := v },
  .ofOption "redis_dial_timeout_ms" "must be a positive integer (milliseconds)"
    (Rule.positive? UInt64.size)
    fun s v => { s with dialTimeout := v },
  .ofOption "cacheable_params" "" (fun v => some (splitList v))
    fun s v => { s with cacheable := v }]

def bulkRules : List (Rule Bulk) := [
  .ofOption "max_concurrent" "must be a positive integer" (Rule.positive? UInt64.size)
    fun s v => { s with maxConcurrent := v },
  .ofOption "tile_timeout" "must be a positive integer (seconds)" (Rule.positive? UInt64.size)
    fun s v => { s with tileTimeout := v },
  .ofOption "broadcast_tile_step" "must be a positive integer" (Rule.positive? UInt64.size)
    fun s v => { s with tileStep := v },
  .ofExcept "broadcast_percent_step" percentStep fun s v => { s with percentStep := v },
  .ofOption "queue_capacity" "must be a positive integer" (Rule.positive? UInt64.size)
    fun s v => { s with queueCapacity := v },
  .ofOption "initial_broadcast_delay_ms" "must be a non-negative integer (milliseconds)"
    (Rule.natural? UInt64.size)
    fun s v => { s with initialDelay := v },
  .text "map" fun s v => { s with map := v },
  .ofExcept "fetch_mode" FetchMode.parse fun s v => { s with fetchMode := v },
  baseUrlRule]

def postgisRules : List (Rule Postgis) := [
  .optionalText "url" fun s v => { s with url := v },
  .ofOption "max_connections" "must be a positive integer" (Rule.positive? UInt32.size)
    fun s v => { s with maxConnections := v },
  .text "geometry_field" fun s v => { s with geometry := v }]

def loggingRules (home : Option String) : List (Rule Logging) := [
  .text "level" fun s v => { s with level := v },
  .optionalText "file" fun s v => { s with file := v.map (expandHome home) }]

/-! ## Maps and parameters -/

/-- The text of a key that must be there and not blank. -/
def required (s : IniSection) (name key reason : String) : Except InvalidValue String :=
  match (s.get? key).filter fun v => !Text.isBlankText v with
  | some v => .ok (Text.trim v)
  | none => .error ⟨name, key, "", reason⟩

/-- A section for a map; `suffix` is its name after the dot. -/
def readMap (s : IniSection) (name suffix : String) : Except InvalidValue MapSection := do
  if Text.isBlankText suffix then .error ⟨name, "", "", "map section needs a name"⟩
  let template ← required s name "sql" "every map needs a tile query"
  return ⟨Text.trim suffix, template, splitList ((s.get? "params").getD "")⟩

/-- A section for a parameter. -/
def readParam (s : IniSection) (name suffix : String) : Except InvalidValue ParamSection := do
  if Text.isBlankText suffix then .error ⟨name, "", "", "param section needs a name"⟩
  let token ← required s name "token" "every parameter needs a token"
  let fragment ← required s name "sql" "every parameter needs a SQL fragment"
  let kind ← match s.get? "type" with
    | none => .ok Query.Kind.text
    | some v => match Query.Kind.parse v with
      | .ok k => .ok k
      | .error reason => .error ⟨name, "type", v, reason⟩
  return ⟨Text.trim suffix, token, fragment, kind, s.get? "default"⟩

/-- What follows `start` in a sects name. -/
def suffix? (start name : String) : Option String :=
  if start.toList.isPrefixOf name.toList then
    some (String.ofList (name.toList.drop start.length))
  else none

/-- Reads the sections of maps and parameters in order. -/
def readDefinitions (c : Settings) : List IniSection → Except InvalidValue Settings
  | [] => .ok c
  | s :: ss => do
    match s.name with
    | none => readDefinitions c ss
    | some name =>
      match suffix? "map." name, suffix? "param." name with
      | some suffix, _ => do
        let m ← readMap s name suffix
        readDefinitions { c with maps := c.maps ++ [m] } ss
      | none, some suffix => do
        let p ← readParam s name suffix
        readDefinitions { c with params := c.params ++ [p] } ss
      | none, none => readDefinitions c ss

/-- Reads a section if it is there. -/
def readSection (t : IniText) (name : String) (rules : List (Rule σ)) (s : σ) :
    Except InvalidValue σ :=
  match t.section? name with
  | some sect => Rule.readAll sect name rules s
  | none => .ok s

namespace Settings

/-- The settings of an INI text. -/
def ofIni (home : Option String) (t : IniText) : Except InvalidValue Settings := do
  let server ← readSection t "server" serverRules {}
  let cache ← readSection t "cache" cacheRules {}
  let bulk ← readSection t "bulk" bulkRules {}
  let postgis ← readSection t "postgis" postgisRules {}
  let logging ← readSection t "logging" (loggingRules home) {}
  readDefinitions { server, cache, bulk, postgis, logging } t.sections

/-- Loads settings from a text. -/
def load (home : Option String) (s : String) : Except LoadError Settings :=
  match IniText.parse s with
  | .error cause => .error (.notIni cause)
  | .ok t => (ofIni home t).mapError .invalid

/-- Loads settings from the bytes of a file; a file that is not there holds nothing. -/
def loadFile (home : Option String) : Option Bytes → Except LoadError Settings
  | none => .ok {}
  | some bs =>
    match Bytes.toText? bs with
    | none => .error .notText
    | some s => load home s

end Settings

end TileDepot.Config
