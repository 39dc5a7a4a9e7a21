import TileDepot.Json.Scan
import TileDepot.Json.Value

/-!
# Decoders

A decoder reads a value of one type from JSON text as it goes, so that of two faults the one that
comes first in the text is reported. Records are read from objects, whose unknown members are
passed over and whose repeated members are faults, or from arrays that list the fields in order.
-/

namespace TileDepot.Json

/-- How many lists and objects may stand inside one another. -/
def nestingLimit : Nat := 127

/-- Reads a value at the head of the text, `depth` more levels being allowed. -/
def Decoder (α : Type) : Type :=
  (depth : Nat) → Bytes → Except Fault (α × Bytes)

namespace Decoder

/-- The fault of a value of an unexpected form: the value is read first if it is a single word,
number or string, since what is broken is malformed in any case. -/
def unexpected (bs : Bytes) : Except Fault (α × Bytes) :=
  match bs with
  | [] => .error .malformed
  | b :: r =>
    if b == code 'n' then do
      let _ ← scanWord "ull".toList r
      .error .mismatched
    else if b == code 't' then do
      let _ ← scanWord "rue".toList r
      .error .mismatched
    else if b == code 'f' then do
      let _ ← scanWord "alse".toList r
      .error .mismatched
    else if b == code '-' then do
      let _ ← scanNumber true r
      .error .mismatched
    else if isDigit b then do
      let _ ← scanNumber false bs
      .error .mismatched
    else if b == code '"' then do
      let _ ← scanString r
      .error .mismatched
    else if b == code '[' || b == code '\x7b' then .error .mismatched
    else .error .malformed

/-- `true` or `false`. -/
def bool : Decoder Bool := fun _ bs =>
  let bs := skipSpace bs
  match bs with
  | [] => .error .malformed
  | b :: r =>
    if b == code 't' then do
      let (_, rest) ← scanWord "rue".toList r
      return (true, rest)
    else if b == code 'f' then do
      let (_, rest) ← scanWord "alse".toList r
      return (false, rest)
    else unexpected bs

/-- A string. -/
def text : Decoder String := fun _ bs =>
  let bs := skipSpace bs
  match bs with
  | [] => .error .malformed
  | b :: r => if b == code '"' then scanString r else unexpected bs

/-- Any number that `accept` takes. -/
def numeral (accept : Number → Option α) : Decoder α := fun _ bs =>
  let bs := skipSpace bs
  match bs with
  | [] => .error .malformed
  | b :: r =>
    if b == code '-' || isDigit b then do
      let (n, rest) ← if b == code '-' then scanNumber true r else scanNumber false bs
      match accept n with
      | some a => return (a, rest)
      | none => .error .mismatched
    else unexpected bs

/-- A whole number below `limit`. -/
def natural (limit : Nat) : Decoder Nat :=
  numeral fun n => match n with
    | .natural n => if n < limit then some n else none
    | _ => none

/-- A number as a double. -/
def float : Decoder Float :=
  numeral fun n => match n with
    | .natural n => some (Float.ofNat n)
    | .negative n => some (-(Float.ofNat n))
    | .float x => some x

/-- A decoded value that `accept` takes. -/
def check (d : Decoder α) (accept : α → Option β) : Decoder β := fun depth bs => do
  let (a, rest) ← d depth bs
  match accept a with
  | some b => return (b, rest)
  | none => .error .mismatched

/-- `null`, or a value. -/
def optional (d : Decoder α) : Decoder (Option α) := fun depth bs =>
  let bs := skipSpace bs
  match bs with
  | [] => .error .malformed
  | b :: r =>
    if b == code 'n' then do
      let (_, rest) ← scanWord "ull".toList r
      return (none, rest)
    else do
      let (a, rest) ← d depth bs
      return (some a, rest)

/-! ## Lists -/

/-- What follows an element: the start of the next one, or the end of the list. Before the first
element no comma stands. -/
inductive Next where
  | item (bs : Bytes)
  | done (rest : Bytes)

/-- Looks for the next element of a list or member of an object that ends in `close`. -/
def next (close : UInt8) (first : Bool) (bs : Bytes) : Except Fault Next :=
  match skipSpace bs with
  | [] => .error .malformed
  | b :: r =>
    if b == close then .ok (.done r)
    else if first then .ok (.item (b :: r))
    else if b == code ',' then
      match skipSpace r with
      | [] => .error .malformed
      | c :: r' => if c == close then .error .malformed else .ok (.item (c :: r'))
    else .error .malformed

/-- The elements up to the closing bracket; `fuel` bounds their number. -/
def elements (d : Decoder α) (depth : Nat) : Nat → Bool → Bytes → Except Fault (List α × Bytes)
  | 0, _, _ => .error .malformed
  | fuel + 1, first, bs => do
    match ← next (code ']') first bs with
    | .done rest => return ([], rest)
    | .item bs =>
      let (a, rest) ← d depth bs
      let (as, rest) ← elements d depth fuel false rest
      return (a :: as, rest)

/-- A list of any length. -/
def list (d : Decoder α) : Decoder (List α) := fun depth bs =>
  let bs := skipSpace bs
  match bs with
  | [] => .error .malformed
  | b :: r =>
    if b == code '[' then
      match depth with
      | 0 => .error .malformed
      | depth + 1 => elements d depth (bs.length + 1) true r
    else unexpected bs

/-- Exactly `n` elements; a list that goes on after them is malformed. -/
def exactly (d : Decoder α) (depth : Nat) : Nat → Bool → Bytes → Except Fault (List α × Bytes)
  | 0, _, bs =>
    match skipSpace bs with
    | b :: r => if b == code ']' then .ok ([], r) else .error .malformed
    | [] => .error .malformed
  | n + 1, first, bs => do
    match ← next (code ']') first bs with
    | .done _ => .error .mismatched
    | .item bs =>
      let (a, rest) ← d depth bs
      let (as, rest) ← exactly d depth n false rest
      return (a :: as, rest)

/-- A list of `n` elements. -/
def vector (n : Nat) (d : Decoder α) : Decoder (List α) := fun depth bs =>
  let bs := skipSpace bs
  match bs with
  | [] => .error .malformed
  | b :: r =>
    if b == code '[' then
      match depth with
      | 0 => .error .malformed
      | depth + 1 => exactly d depth n true r
    else unexpected bs

/-! ## Values that do not matter -/

/-- Passes over any value. Nesting has no limit here; `fuel` bounds the number of steps, and `open'`
holds the closing brackets that are due, the innermost first. -/
def skipValues : Nat → List UInt8 → Bytes → Except Fault Bytes
  | 0, _, _ => .error .malformed
  | fuel + 1, due, bs => do
    match skipSpace bs with
    | [] => .error .malformed
    | b :: r =>
      if b == code '[' || b == code '\x7b' then
        let close := if b == code '[' then code ']' else code '\x7d'
        match ← next close true r with
        | .done rest => after fuel due rest
        | .item rest => enter fuel (close :: due) rest
      else
        let rest ←
          if b == code '"' then skipString r
          else if b == code 'n' then (scanWord "ull".toList r).map (·.2)
          else if b == code 't' then (scanWord "rue".toList r).map (·.2)
          else if b == code 'f' then (scanWord "alse".toList r).map (·.2)
          else if b == code '-' then skipNumber r
          else if isDigit b then skipNumber (b :: r)
          else .error .malformed
        after fuel due rest
where
  /-- Goes on after a value: closes what is due or starts the next value. -/
  after : Nat → List UInt8 → Bytes → Except Fault Bytes
    | 0, _, _ => .error .malformed
    | _ + 1, [], bs => .ok bs
    | fuel + 1, close :: due, bs => do
      match ← next close false bs with
      | .done rest => after fuel due rest
      | .item rest => enter fuel (close :: due) rest
  /-- Reads the key of an object's member, then its value. -/
  enter : Nat → List UInt8 → Bytes → Except Fault Bytes
    | 0, _, _ => .error .malformed
    | fuel + 1, due, bs =>
      if due.head? == some (code '\x7d') then
        match bs with
        | 0x22 :: r => do
          let rest ← skipString r
          match skipSpace rest with
          | c :: r' => if c == code ':' then skipValues fuel due r' else .error .malformed
          | [] => .error .malformed
        | _ => .error .malformed
      else skipValues fuel due bs

/-- Passes over one value. -/
def skip (bs : Bytes) : Except Fault Bytes :=
  skipValues (4 * bs.length + 4) [] bs

/-! ## Records -/

/-- One field of a record that is read into a draft of type `σ`. -/
structure Field (σ : Type) where
  name : String
  /-- The draft has a value for this field. -/
  present : σ → Bool
  /-- Reads the field's value into the draft. -/
  read : σ → Decoder σ

/-- A field that is held in the draft as an option. -/
def Field.of (name : String) (get : σ → Option β) (put : σ → β → σ) (d : Decoder β) : Field σ where
  name
  present := fun s => (get s).isSome
  read := fun s depth bs => do
    let (b, rest) ← d depth bs
    return (put s b, rest)

/-- Reads a member's key, the text standing at its opening quote, and the colon's whereabouts. -/
def key (bs : Bytes) : Except Fault (String × Bytes) :=
  match bs with
  | 0x22 :: r => scanString r
  | _ => .error .malformed

def colon (bs : Bytes) : Except Fault Bytes :=
  match skipSpace bs with
  | c :: r => if c == code ':' then .ok r else .error .malformed
  | [] => .error .malformed

/-- The members of an object, read into a draft; `fuel` bounds their number. -/
def members (fields : List (Field σ)) (depth : Nat) :
    Nat → Bool → σ → Bytes → Except Fault (σ × Bytes)
  | 0, _, _, _ => .error .malformed
  | fuel + 1, first, s, bs => do
    match ← next (code '\x7d') first bs with
    | .done rest => return (s, rest)
    | .item bs =>
      let (k, rest) ← key bs
      match fields.find? fun f => f.name == k with
      | some f =>
        if f.present s then .error .mismatched
        else
          let rest ← colon rest
          let (s, rest) ← f.read s depth rest
          members fields depth fuel false s rest
      | none =>
        let rest ← colon rest
        let rest ← skip rest
        members fields depth fuel false s rest

/-- The elements of an array as the fields in order, with the number of them. -/
def positions (depth : Nat) :
    List (Field σ) → Bool → σ → Bytes → Except Fault (Nat × σ × Bytes)
  | [], _, s, bs =>
    match skipSpace bs with
    | b :: r => if b == code ']' then .ok (0, s, r) else .error .malformed
    | [] => .error .malformed
  | f :: fs, first, s, bs => do
    match ← next (code ']') first bs with
    | .done rest => return (0, s, rest)
    | .item bs =>
      let (s, rest) ← f.read s depth bs
      let (n, s, rest) ← positions depth fs false s rest
      return (n + 1, s, rest)

/-- A record from an object or an array. Of an array at least `required` fields must be there;
`finish` turns a draft into a value and fails when a field is missing that has no default. -/
def record (fields : List (Field σ)) (draft : σ) (required : Nat) (finish : σ → Option α) :
    Decoder α := fun depth bs =>
  let bs := skipSpace bs
  match bs with
  | [] => .error .malformed
  | b :: r =>
    if b == code '\x7b' then
      match depth with
      | 0 => .error .malformed
      | depth + 1 => do
        let (s, rest) ← members fields depth (bs.length + 1) true draft r
        match finish s with
        | some a => return (a, rest)
        | none => .error .mismatched
    else if b == code '[' then
      match depth with
      | 0 => .error .malformed
      | depth + 1 => do
        let (n, s, rest) ← positions depth fields true draft r
        if n < required then .error .mismatched
        else match finish s with
          | some a => return (a, rest)
          | none => .error .mismatched
    else unexpected bs

/-! ## Any value -/

mutual

/-- Any value; `fuel` bounds the number of steps. -/
def anyValue : Nat → Decoder Json
  | 0, _, _ => .error .malformed
  | fuel + 1, depth, bs =>
    match skipSpace bs with
    | [] => .error .malformed
    | b :: r =>
      if b == code '"' then do
        let (s, rest) ← scanString r
        return (.text s, rest)
      else if b == code 'n' then do
        let (_, rest) ← scanWord "ull".toList r
        return (.null, rest)
      else if b == code 't' || b == code 'f' then do
        let (v, rest) ← bool depth (b :: r)
        return (.bool v, rest)
      else if b == code '-' || isDigit b then
        numeral (fun n => some <| match n with
          | .natural n => .int n
          | .negative n => .int (-(n : Int))
          | .float x => .float x) depth (b :: r)
      else if b == code '[' then
        match depth with
        | 0 => .error .malformed
        | depth + 1 => do
          let (vs, rest) ← anyElements fuel depth true r
          return (.list vs, rest)
      else if b == code '\x7b' then
        match depth with
        | 0 => .error .malformed
        | depth + 1 => do
          let (ms, rest) ← anyMembers fuel depth true r
          return (.object ms, rest)
      else .error .malformed

/-- The elements of any list. -/
def anyElements : Nat → Nat → Bool → Bytes → Except Fault (List Json × Bytes)
  | 0, _, _, _ => .error .malformed
  | fuel + 1, depth, first, bs => do
    match ← next (code ']') first bs with
    | .done rest => return ([], rest)
    | .item bs =>
      let (v, rest) ← anyValue fuel depth bs
      let (vs, rest) ← anyElements fuel depth false rest
      return (v :: vs, rest)

/-- The members of any object. -/
def anyMembers : Nat → Nat → Bool → Bytes → Except Fault (List (String × Json) × Bytes)
  | 0, _, _, _ => .error .malformed
  | fuel + 1, depth, first, bs => do
    match ← next (code '\x7d') first bs with
    | .done rest => return ([], rest)
    | .item bs =>
      let (k, rest) ← key bs
      let rest ← colon rest
      let (v, rest) ← anyValue fuel depth rest
      let (ms, rest) ← anyMembers fuel depth false rest
      return ((k, v) :: ms, rest)

end

/-- Any value. -/
def any : Decoder Json := fun depth bs => anyValue (2 * bs.length + 2) depth bs

/-! ## Whole texts -/

/-- Reads a value and leaves whatever follows it. -/
def run (d : Decoder α) (bs : Bytes) : Except Fault α :=
  (d nestingLimit bs).map (·.1)

/-- Reads a text that holds one value and nothing else. -/
def runAll (d : Decoder α) (bs : Bytes) : Except Fault α := do
  let (a, rest) ← d nestingLimit bs
  if (skipSpace rest).isEmpty then return a else .error .malformed

end Decoder

end TileDepot.Json
