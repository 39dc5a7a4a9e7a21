/-!
# Punycode

The ASCII form of a domain label with other characters: the ASCII characters in order,
and after a hyphen the others as a list of insertions.
-/

namespace TileDepot.Url.Punycode

def base : Nat := 36

/-- The next bias, after `points` characters are in place. -/
def adapt (delta points : Nat) (first : Bool) : Nat :=
  let delta := if first then delta / 700 else delta / 2
  go 10 (delta + delta / points) 0
where
  /-- Brings the step down to the range of one digit. -/
  go : Nat → Nat → Nat → Nat
    | 0, _, k => k
    | fuel + 1, delta, k =>
      if 455 < delta then go fuel (delta / 35) (k + base) else k + 36 * delta / (delta + 38)

def threshold (k bias : Nat) : Nat :=
  if k ≤ bias then 1 else if bias + 26 ≤ k then 26 else k - bias

def digit (n : Nat) : Char :=
  if n < 26 then Char.ofNat (97 + n) else Char.ofNat (22 + n)

def digitValue? (c : Char) : Option Nat :=
  if c.isDigit then some (c.toNat - 22)
  else if c.isAlpha then some (c.toLower.toNat - 97)
  else none

/-- A number in digits of variable weight; `fuel` bounds their number. -/
def encodeNumber (bias : Nat) : Nat → Nat → Nat → List Char
  | 0, _, _ => []
  | fuel + 1, q, k =>
    let t := threshold k bias
    if q < t then [digit q]
    else
      digit (t + (q - t) % (base - t)) ::
        encodeNumber bias fuel ((q - t) / (base - t)) (k + base)

/-- State of the encoder between two insertions. -/
structure State where
  next : Nat
  delta : Nat
  bias : Nat
  handled : Nat
  output : List Char

/-- Passes once over the input and writes the insertions of the character `n`. -/
def insertAll (n basic : Nat) (input : List Char) (s : State) : State :=
  input.foldl (fun s c =>
    if c.toNat < n then { s with delta := s.delta + 1 }
    else if c.toNat == n then
      { s with
        output := s.output ++ encodeNumber s.bias 20 s.delta base
        bias := adapt s.delta (s.handled + 1) (s.handled == basic)
        delta := 0
        handled := s.handled + 1 }
    else s) s

/-- Inserts the characters beyond ASCII, the lowest first; `fuel` bounds the number of passes. -/
def encodeLoop (basic : Nat) (input : List Char) : Nat → State → State
  | 0, s => s
  | fuel + 1, s =>
    match (input.filter fun c => s.next ≤ c.toNat).map (·.toNat) |>.min? with
    | none => s
    | some m =>
      let s := { s with delta := s.delta + (m - s.next) * (s.handled + 1) }
      let s := insertAll m basic input s
      encodeLoop basic input fuel { s with delta := s.delta + 1, next := m + 1 }

/-- The Punycode form of a label. -/
def encode (label : List Char) : List Char :=
  let plain := label.filter fun c => c.toNat < 0x80
  let start := plain ++ if plain.isEmpty then [] else ['-']
  (encodeLoop plain.length label (label.length + 1) ⟨0x80, 0, 72, plain.length, start⟩).output

/-- Reads a number of variable weight. Neither the number nor a weight may need more than 32
bits. -/
def decodeNumber (bias : Nat) : List Char → Nat → Nat → Nat → Option (Nat × List Char)
  | [], _, _, _ => none
  | c :: r, i, w, k => do
    let d ← digitValue? c
    let i := i + d * w
    let t := threshold k bias
    if UInt32.size ≤ i then none
    else if d < t then return (i, r)
    else if UInt32.size ≤ w * (base - t) then none
    else decodeNumber bias r i (w * (base - t)) (k + base)

/-- Applies the insertions; `fuel` bounds their number. -/
def decodeLoop : Nat → List Char → Nat → Nat → Nat → List Char → Option (List Char)
  | 0, _, _, _, _, _ => none
  | fuel + 1, input, n, i, bias, output =>
    if input.isEmpty then some output
    else do
      let (j, rest) ← decodeNumber bias input i 1 base
      let size := output.length + 1
      let n := n + j / size
      if 0x10FFFF < n || (0xD800 ≤ n && n < 0xE000) then none
      else
        let at' := j % size
        decodeLoop fuel rest n (at' + 1) (adapt (j - i) size (i == 0))
          (output.take at' ++ Char.ofNat n :: output.drop at')

/-- The label that a Punycode form stands for. A hyphen in front of everything else is no
separator, and so no part of a form. -/
def decode? (form : List Char) : Option (List Char) :=
  let tail := (form.reverse.takeWhile (· != '-')).reverse
  let plain := form.take (form.length - tail.length - 1)
  if plain.any fun c => 0x80 ≤ c.toNat then none
  else if plain.isEmpty && tail.length < form.length then none
  else decodeLoop (tail.length + 1) tail 0x80 0 72 plain

end TileDepot.Url.Punycode
