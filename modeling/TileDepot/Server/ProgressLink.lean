import TileDepot.Server.ClientEvent
import TileDepot.Warming.Desk

/-!
# Progress connections

One client's connection for progress: it follows the tasks that the client has joined with one
channel, and sends on what comes through it. When the connection ends, all that it followed is let
go.
-/

namespace TileDepot.Server

/-- What comes in on a connection. -/
inductive Frame where
  | text (s : String)
  /-- Any other message; it is not looked at. -/
  | other
  /-- The client closes the connection, or it breaks. -/
  | close
  deriving Repr, DecidableEq

/-- A connection: its channel, and the subscriptions for the tasks that it follows. -/
structure ProgressLink where
  channel : Nat
  joined : List (String × Nat)
  isOpen : Bool

namespace ProgressLink

/-- A new connection with a channel of its own. -/
def connect (d : Warming.Desk) : ProgressLink × Warming.Desk :=
  let (channel, audience) := d.audience.addChannel Warming.Channel.defaultCapacity
  (⟨channel, [], true⟩, { d with audience })

/-- Follows a task, unless it does already. -/
def join (l : ProgressLink) (task : String) (d : Warming.Desk) : ProgressLink × Warming.Desk :=
  if (l.joined.lookup task).isSome then (l, d)
  else
    let (id, audience) := d.audience.attach task l.channel
    ({ l with joined := (task, id) :: l.joined }, { d with audience })

/-- Stops following a task. -/
def leave (l : ProgressLink) (task : String) (d : Warming.Desk) : ProgressLink × Warming.Desk :=
  match l.joined.lookup task with
  | none => (l, d)
  | some id =>
    ({ l with joined := l.joined.filter fun e => e.1 != task },
      { d with audience := d.audience.unsubscribe id })

/-- Ends the connection. -/
def disconnect (l : ProgressLink) (d : Warming.Desk) : ProgressLink × Warming.Desk :=
  let audience := l.joined.foldl (fun a e => a.unsubscribe e.2) d.audience
  ({ l with joined := [], isOpen := false }, { d with audience := audience.close l.channel })

/-- Acts on an event. The snapshot is the answer to it, if it has one. An event for a task without a
name does nothing. -/
def handle (l : ProgressLink) (e : ClientEvent) (d : Warming.Desk) :
    Option Warming.Snapshot × ProgressLink × Warming.Desk :=
  if e.task.isEmpty then (none, l, d)
  else match e.wish with
    | .join =>
      let (l, d) := l.join e.task d
      (some (d.progress e.task), l, d)
    | .getProgress => (some (d.progress e.task), l, d)
    | .leave => (none, l.leave e.task d)

/-- Acts on what comes in. -/
def receive (l : ProgressLink) (f : Frame) (d : Warming.Desk) :
    Option Warming.Snapshot × ProgressLink × Warming.Desk :=
  if !l.isOpen then (none, l, d)
  else match f with
    | .text s =>
      match ClientEvent.ofText? s with
      | some e => l.handle e d
      | none => (none, l, d)
    | .other => (none, l, d)
    | .close => (none, l.disconnect d)

/-- Takes the next snapshot out of the channel to send it on. -/
def relay (l : ProgressLink) (d : Warming.Desk) : Option Warming.Snapshot × Warming.Desk :=
  let (snapshots, audience) := d.audience.receive l.channel 1
  (snapshots.head?, { d with audience })

/-- A snapshot could not be sent: the connection is over. -/
def sendFailed (l : ProgressLink) (d : Warming.Desk) : ProgressLink × Warming.Desk :=
  l.disconnect d

end ProgressLink

end TileDepot.Server
