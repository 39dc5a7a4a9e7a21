import TileDepot.Cache.Backend
import TileDepot.Cache.Connection

/-!
# The Redis backend

A Redis store keeps a tile as a plain value under the text of its key. It is used only after it has
answered `PING` with `PONG`: a store that is down, or that is something else, is no store.
-/

namespace TileDepot.Cache

/-- A command with its arguments. -/
abbrev Command := List Bytes

/-- What a store answers to a command. -/
inductive Answer where
  | status (text : String)
  | value (bytes : Option Bytes)
  | count (n : Int)
  deriving Repr, DecidableEq

/-- Why there is no answer. -/
inductive WireFault where
  | timedOut
  | failed (reason : String)
  deriving Repr, DecidableEq

/-- The way to a store, in a monad that holds what is known of it. -/
structure Wire (m : Type → Type) where
  /-- Opens the way within a time. -/
  dial : Place → Duration → m (Except WireFault Unit)
  /-- Sends a command over the open way and waits for its answer. -/
  ask : Command → m (Except WireFault Answer)

namespace Command

def ofWords (words : List String) : Command :=
  words.map Bytes.ofText

def ping : Command := ofWords ["PING"]

def get (key : Tile.Key) : Command :=
  ofWords ["GET", key.text]

/-- Writes an entry that lives `timeToLive` seconds, or for ever if that is zero. -/
def set (timeToLive : UInt64) (key : Tile.Key) (value : Bytes) : Command :=
  if timeToLive == 0 then ofWords ["SET", key.text] ++ [value]
  else ofWords ["SETEX", key.text, toString timeToLive.toNat] ++ [value]

def delete (key : Tile.Key) : Command :=
  ofWords ["DEL", key.text]

end Command

/-- What a connection says first: who it is, and which database it means. -/
def Connection.login (c : Connection) : List Command :=
  (match c.password with
    | some p => [Command.ofWords (["AUTH"] ++ c.username.toList ++ [p])]
    | none => []) ++
  if c.database == 0 then [] else [Command.ofWords ["SELECT", toString c.database.toInt]]

namespace Wire

variable {m : Type → Type} [Monad m]

/-- Sends commands up to the first that fails. -/
def askAll (w : Wire m) : List Command → m (Except WireFault Unit)
  | [] => return .ok ()
  | c :: cs => do
    match ← w.ask c with
    | .ok _ => askAll w cs
    | .error f => return .error f

/-- Opens the way and logs in. -/
def enter (w : Wire m) (c : Connection) (limit : Duration) : m (Except WireFault Unit) := do
  match ← w.dial c.place limit with
  | .ok () => w.askAll c.login
  | .error f => return .error f

end Wire

/-- The fault of a connection that could not be opened. -/
def enterFault (target : String) (limit : Duration) : WireFault → Error
  | .timedOut => .handshake s!"timed out connecting to {target} after {limit.text}"
  | .failed reason => .handshake s!"cannot reach {target}: {reason}"

/-- What an answer to `PING` says about a store. -/
def checkPong (target : String) : Except WireFault Answer → Except Error Unit
  | .ok (.status "PONG") => .ok ()
  | .ok (.status reply) => .error (.handshake s!"unexpected PING reply '{reply}' from {target}")
  | .ok _ => .error (.handshake s!"PING to {target} failed: the answer is no text")
  | .error .timedOut => .error (.handshake s!"PING to {target} timed out")
  | .error (.failed reason) => .error (.handshake s!"PING to {target} failed: {reason}")

/-- The error of a command that got no answer. -/
def WireFault.error : WireFault → Error
  | .timedOut => .backend "timed out"
  | .failed reason => .backend reason

/-- The value in an answer to `GET`. -/
def Answer.value? : Answer → Option Bytes
  | .value v => v
  | .status s => some (Bytes.ofText s)
  | .count n => some (Bytes.ofText (toString n))

/-- The backend over an open way. Writes above its highest zoom succeed without a command. -/
def redis {m : Type → Type} [Monad m] (w : Wire m) (s : RedisSettings) : Backend m where
  name := "redis"
  maxZoom := s.maxZoom
  get key := do
    return ((← w.ask (.get key)).map Answer.value?).mapError WireFault.error
  set key value := do
    if s.maxZoom < key.zoom then return .ok ()
    else return ((← w.ask (.set s.timeToLive key value)).map fun _ => ()).mapError WireFault.error
  purge key := do
    return ((← w.ask (.delete key)).map fun _ => ()).mapError WireFault.error

/-- Connects to a store and makes sure that it answers. -/
def connect {m : Type → Type} [Monad m] (w : Wire m) (s : RedisSettings) :
    m (Except Error (Backend m)) := do
  match Connection.ofSettings s with
  | .error e => return .error e
  | .ok c =>
    let target := c.place.text
    match ← w.enter c s.dialTimeout with
    | .error f => return .error (enterFault target s.dialTimeout f)
    | .ok () =>
      return (checkPong target (← w.ask .ping)).map fun () => redis w s

end TileDepot.Cache
