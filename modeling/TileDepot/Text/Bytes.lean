/-!
# Bytes and text

Byte sequences, their hexadecimal writing, and their reading as UTF-8. `decodeLossy` reads any
bytes: each longest piece that starts a character but does not complete one becomes U+FFFD.
-/

namespace TileDepot

/-- A sequence of bytes. -/
abbrev Bytes := List UInt8

namespace Bytes

/-- The UTF-8 form of a text. -/
def ofText (s : String) : Bytes :=
  s.toUTF8.toList

/-- The two hexadecimal digits of a byte. -/
def hexPair (digit : Nat → Char) (b : UInt8) : List Char :=
  [digit (b.toNat / 16), digit (b.toNat % 16)]

/-- Lower-case hexadecimal digit. -/
def lowerDigit (n : Nat) : Char :=
  if n < 10 then Char.ofNat (48 + n) else Char.ofNat (87 + n)

/-- Upper-case hexadecimal digit. -/
def upperDigit (n : Nat) : Char :=
  if n < 10 then Char.ofNat (48 + n) else Char.ofNat (55 + n)

/-- Lower-case hexadecimal, two digits a byte. -/
def toHex (bs : Bytes) : String :=
  String.ofList (bs.flatMap (hexPair lowerDigit))

/-- The value of a hexadecimal digit of either case. -/
def hexValue? (c : Char) : Option Nat :=
  if c.isDigit then some (c.toNat - 48)
  else if 'a' ≤ c && c ≤ 'f' then some (c.toNat - 87)
  else if 'A' ≤ c && c ≤ 'F' then some (c.toNat - 55)
  else none

/-- The bytes that pairs of hexadecimal digits stand for. -/
def ofHexChars? : List Char → Option Bytes
  | [] => some []
  | hi :: lo :: r => do
    let h ← hexValue? hi
    let l ← hexValue? lo
    let rest ← ofHexChars? r
    return UInt8.ofNat (16 * h + l) :: rest
  | [_] => none

/-- The bytes of a hexadecimal text. -/
def ofHex? (s : String) : Option Bytes :=
  ofHexChars? s.toList

/-- A character of several bytes that is not complete: how many bytes are missing, the number read
so far, and the range of the next byte. The range leaves out overlong forms, surrogates and numbers
beyond Unicode. -/
structure Unfinished where
  missing : Nat
  value : Nat
  low : UInt8
  high : UInt8

/-- What a byte at the start of a character begins. -/
inductive Lead where
  | char (c : Char)
  | broken
  | unfinished (p : Unfinished)

/-- Reads the first byte of a character. -/
def lead (b : UInt8) : Lead :=
  if b < 0x80 then .char (Char.ofNat b.toNat)
  else if b < 0xC2 then .broken
  else if b < 0xE0 then .unfinished ⟨1, b.toNat - 0xC0, 0x80, 0xBF⟩
  else if b < 0xF0 then
    .unfinished ⟨2, b.toNat - 0xE0, if b == 0xE0 then 0xA0 else 0x80,
      if b == 0xED then 0x9F else 0xBF⟩
  else if b < 0xF5 then
    .unfinished ⟨3, b.toNat - 0xF0, if b == 0xF0 then 0x90 else 0x80,
      if b == 0xF4 then 0x8F else 0xBF⟩
  else .broken

/-- The characters of any bytes, with nothing in the place of each broken piece. A byte that cannot
go on with the character before it breaks that character and starts anew. -/
def scan : Option Unfinished → Bytes → List (Option Char)
  | none, [] => []
  | some _, [] => [none]
  | none, b :: r =>
    match lead b with
    | .char c => some c :: scan none r
    | .broken => none :: scan none r
    | .unfinished p => scan (some p) r
  | some p, b :: r =>
    if p.low ≤ b && b ≤ p.high then
      let value := 64 * p.value + (b.toNat - 0x80)
      if p.missing ≤ 1 then some (Char.ofNat value) :: scan none r
      else scan (some ⟨p.missing - 1, value, 0x80, 0xBF⟩) r
    else
      none :: match lead b with
        | .char c => some c :: scan none r
        | .broken => none :: scan none r
        | .unfinished q => scan (some q) r

/-- The characters of any bytes, with U+FFFD for each broken piece. -/
def decodeLossy (bs : Bytes) : List Char :=
  (scan none bs).map (·.getD '\uFFFD')

/-- The characters of well-formed UTF-8. -/
def decode? (bs : Bytes) : Option (List Char) :=
  (scan none bs).mapM id

/-- The text of any bytes, with U+FFFD for each broken piece. -/
def toTextLossy (bs : Bytes) : String :=
  String.ofList (decodeLossy bs)

/-- The text of well-formed UTF-8. -/
def toText? (bs : Bytes) : Option String :=
  (decode? bs).map String.ofList

end Bytes

end TileDepot
