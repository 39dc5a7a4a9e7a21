import TileDepot.Json.Decoder

/-!
# Events of clients

What a client can ask for on its progress connection: to follow a task, to leave it, or to be told
how it stands. An event says in its tag which of these it is; it is read from an object, or from an
array that begins with the tag.
-/

namespace TileDepot.Server

/-- What a client asks for. -/
inductive Wish where
  | join
  | getProgress
  | leave
  deriving Repr, DecidableEq

def Wish.tag : Wish → String
  | .join => "join_task"
  | .getProgress => "get_progress"
  | .leave => "leave_task"

def Wish.ofTag? (tag : String) : Option Wish :=
  [Wish.join, .getProgress, .leave].find? fun w => w.tag == tag

/-- An event from a client. -/
structure ClientEvent where
  wish : Wish
  task : String
  deriving Repr, DecidableEq

namespace ClientEvent

def json (e : ClientEvent) : Json :=
  .object [("event", .text e.wish.tag), ("task_id", .text e.task)]

open Json Decoder in
/-- Reads a tag. -/
def tagDecoder : Decoder Wish :=
  check text Wish.ofTag?

/-- What an object holds: the tag, and all other members in order. -/
structure Draft where
  wish : Option Wish
  members : List (String × Json)

open Json Decoder in
/-- The members of an object; `fuel` bounds their number. -/
def readMembers (depth : Nat) : Nat → Bool → Draft → Bytes → Except Fault (Draft × Bytes)
  | 0, _, _, _ => .error .malformed
  | fuel + 1, first, d, bs => do
    match ← next (code '\x7d') first bs with
    | .done rest => return (d, rest)
    | .item bs =>
      let (k, rest) ← key bs
      if k == "event" then
        if d.wish.isSome then .error .mismatched
        else
          let rest ← colon rest
          let (wish, rest) ← tagDecoder depth rest
          readMembers depth fuel false { d with wish := some wish } rest
      else
        let rest ← colon rest
        let (v, rest) ← any depth rest
        readMembers depth fuel false { d with members := d.members ++ [(k, v)] } rest

/-- The task in the members of an object, which must name it once. -/
def taskOf? (members : List (String × Json)) : Option String :=
  match members.filter fun m => m.1 == "task_id" with
  | [(_, .text task)] => some task
  | _ => none

open Json Decoder in
/-- The elements of an array; `fuel` bounds their number. -/
def readElements (depth : Nat) (bs : Bytes) : Except Fault (ClientEvent × Bytes) := do
  match ← next (code ']') true bs with
  | .done _ => .error .mismatched
  | .item bs =>
    let (wish, rest) ← tagDecoder depth bs
    let (others, rest) ← anyElements (2 * rest.length + 2) depth false rest
    match others with
    | [.text task] => return (⟨wish, task⟩, rest)
    | _ => .error .mismatched

open Json Decoder in
/-- Reads an event. -/
def decoder : Decoder ClientEvent := fun depth bs =>
  let bs := skipSpace bs
  match bs, depth with
  | [], _ => .error .malformed
  | b :: r, depth =>
    if b == code '\x7b' then
      match depth with
      | 0 => .error .malformed
      | depth + 1 => do
        let (d, rest) ← readMembers depth (bs.length + 1) true ⟨none, []⟩ r
        match d.wish, taskOf? d.members with
        | some wish, some task => return (⟨wish, task⟩, rest)
        | _, _ => .error .mismatched
    else if b == code '[' then
      match depth with
      | 0 => .error .malformed
      | depth + 1 => readElements depth r
    else unexpected bs

/-- The event in a text message, if it is one. -/
def ofText? (s : String) : Option ClientEvent :=
  match Json.Decoder.runAll decoder (Bytes.ofText s) with
  | .ok e => some e
  | .error _ => none

end ClientEvent

end TileDepot.Server
