import TileDepot.Warming.Snapshot

/-!
# Subscribers

Snapshots go to the channels of those who follow a task. A channel that is full misses the snapshot,
and one whose reader has gone is taken off the list. Nobody ever waits for a reader.
-/

namespace TileDepot.Warming

/-- A bounded channel. -/
structure Channel where
  capacity : Nat
  /-- What waits to be read, the oldest first. -/
  waiting : List Snapshot
  isOpen : Bool

namespace Channel

/-- The capacity if none is given. -/
def defaultCapacity : Nat := 64

def ofCapacity (capacity : Nat) : Channel :=
  ⟨capacity, [], true⟩

def isFull (c : Channel) : Bool :=
  c.capacity ≤ c.waiting.length

/-- Adds a snapshot if there is room. -/
def push (c : Channel) (s : Snapshot) : Channel :=
  if c.isOpen && !c.isFull then { c with waiting := c.waiting ++ [s] } else c

/-- The reader goes. -/
def close (c : Channel) : Channel :=
  { c with waiting := [], isOpen := false }

end Channel

/-- One subscription: a number of its own, and the number of its channel. -/
structure Subscriber where
  id : Nat
  channel : Nat
  deriving Repr, DecidableEq

/-- Who follows which task, and the channels by number. -/
structure Audience where
  tasks : List (String × List Subscriber)
  /-- The number of the next subscription. -/
  nextId : Nat
  channels : Array Channel

namespace Audience

def empty : Audience := ⟨[], 0, #[]⟩

/-- Makes a channel and gives its number. -/
def addChannel (a : Audience) (capacity : Nat) : Nat × Audience :=
  (a.channels.size, { a with channels := a.channels.push (.ofCapacity capacity) })

/-- The subscribers of a task. -/
def subscribers (a : Audience) (task : String) : List Subscriber :=
  (a.tasks.lookup task).getD []

/-- Puts a list in the place of a task's subscribers; there are no empty lists. -/
def setSubscribers (a : Audience) (task : String) (subs : List Subscriber) : Audience :=
  let others := a.tasks.filter fun e => e.1 != task
  { a with tasks := if subs.isEmpty then others else (task, subs) :: others }

/-- Lets a channel follow a task. -/
def attach (a : Audience) (task : String) (channel : Nat) : Nat × Audience :=
  (a.nextId,
    { a.setSubscribers task (a.subscribers task ++ [⟨a.nextId, channel⟩]) with
      nextId := a.nextId + 1 })

/-- Follows a task with a channel of its own. -/
def subscribe (a : Audience) (task : String) : Nat × Audience :=
  let (channel, a) := a.addChannel Channel.defaultCapacity
  a.attach task channel

/-- Ends a subscription. -/
def unsubscribe (a : Audience) (id : Nat) : Audience :=
  { a with
    tasks := (a.tasks.map fun e => (e.1, e.2.filter fun s => s.id != id)).filter
      fun e => !e.2.isEmpty }

/-- Offers a snapshot to one subscriber after the other. The result has those that stay and the
number of those that it reached. -/
def deliver (s : Snapshot) : List Subscriber → Array Channel → List Subscriber × Nat × Array Channel
  | [], channels => ([], 0, channels)
  | sub :: subs, channels =>
    match channels[sub.channel]? with
    | none => deliver s subs channels
    | some c =>
      if !c.isOpen then deliver s subs channels
      else
        let (kept, n, channels) := deliver s subs (channels.setIfInBounds sub.channel (c.push s))
        (sub :: kept, (if c.isFull then n else n + 1), channels)

/-- Sends a snapshot to the subscribers of its task and counts those it reached. -/
def publish (a : Audience) (s : Snapshot) : Nat × Audience :=
  let (kept, n, channels) := deliver s (a.subscribers s.task) a.channels
  (n, { a.setSubscribers s.task kept with channels })

/-- The number of subscribers of a task. -/
def count (a : Audience) (task : String) : Nat :=
  (a.subscribers task).length

/-- Takes up to `limit` snapshots out of a channel. -/
def receive (a : Audience) (channel limit : Nat) : List Snapshot × Audience :=
  match a.channels[channel]? with
  | none => ([], a)
  | some c =>
    (c.waiting.take limit,
      { a with
        channels := a.channels.setIfInBounds channel
          { c with waiting := c.waiting.drop limit } })

/-- The reader of a channel goes. -/
def close (a : Audience) (channel : Nat) : Audience :=
  { a with channels := a.channels.modify channel Channel.close }

/-- Somebody follows a task by this channel. -/
def isAttached (a : Audience) (channel : Nat) : Bool :=
  a.tasks.any fun e => e.2.any fun s => s.channel == channel

end Audience

end TileDepot.Warming
