import TileDepot.Text.Bytes

/-!
# Pieces of JSON text

Reading of blanks, words, strings and numbers from bytes. Each reader returns what it read and the
bytes after it. A fault is either malformed text, or well-formed text of an unexpected form; the
first one in reading order is the one that counts.
-/

namespace TileDepot.Json

/-- Why a text could not be read. -/
inductive Fault where
  /-- The text is no JSON, or it is cut short. -/
  | malformed
  /-- The text is JSON, but not of the expected form. -/
  | mismatched
  deriving Repr, DecidableEq

def isSpace (b : UInt8) : Bool :=
  b == 0x20 || b == 0x0A || b == 0x0D || b == 0x09

def skipSpace (bs : Bytes) : Bytes :=
  bs.dropWhile isSpace

/-- Code of an ASCII character. -/
def code (c : Char) : UInt8 :=
  UInt8.ofNat c.toNat

/-- Reads the letters of `word` and nothing else. -/
def scanWord : List Char → Bytes → Except Fault (Unit × Bytes)
  | [], bs => .ok ((), bs)
  | c :: w, b :: bs => if b == code c then scanWord w bs else .error .malformed
  | _ :: _, [] => .error .malformed

/-! ## Strings -/

/-- The value of four hexadecimal digits. -/
def hex4? (a b c d : UInt8) : Option Nat := do
  let digit := fun (x : UInt8) => Bytes.hexValue? (Char.ofNat x.toNat)
  return ((((← digit a) * 16 + (← digit b)) * 16 + (← digit c)) * 16 + (← digit d))

/-- The byte that a one-letter escape stands for. -/
def escape? (b : UInt8) : Option UInt8 :=
  if b == code '"' then some b
  else if b == code '\\' then some b
  else if b == code '/' then some b
  else if b == code 'b' then some 0x08
  else if b == code 'f' then some 0x0C
  else if b == code 'n' then some 0x0A
  else if b == code 'r' then some 0x0D
  else if b == code 't' then some 0x09
  else none

/-- The UTF-8 form of a character number. -/
def utf8Of (n : Nat) : Bytes :=
  Bytes.ofText (String.singleton (Char.ofNat n))

/-- The bytes of a string up to its closing quote. Escaped surrogates must come in pairs. -/
def scanStringBytes : Bytes → Except Fault (Bytes × Bytes)
  | [] => .error .malformed
  | 0x22 :: r => .ok ([], r)
  | 0x5C :: 0x75 :: a :: b :: c :: d :: r =>
    match hex4? a b c d with
    | none => .error .malformed
    | some n =>
      if 0xD800 ≤ n && n < 0xDC00 then
        match r with
        | 0x5C :: 0x75 :: e :: f :: g :: h :: r' =>
          match hex4? e f g h with
          | none => .error .malformed
          | some m =>
            if 0xDC00 ≤ m && m < 0xE000 then do
              let (s, rest) ← scanStringBytes r'
              return (utf8Of (0x10000 + (n - 0xD800) * 0x400 + (m - 0xDC00)) ++ s, rest)
            else .error .malformed
        | _ => .error .malformed
      else if 0xDC00 ≤ n && n < 0xE000 then .error .malformed
      else do
        let (s, rest) ← scanStringBytes r
        return (utf8Of n ++ s, rest)
  | 0x5C :: e :: r =>
    match escape? e with
    | none => .error .malformed
    | some b => do
      let (s, rest) ← scanStringBytes r
      return (b :: s, rest)
  | b :: r =>
    if b < 0x20 || b == 0x5C then .error .malformed
    else do
      let (s, rest) ← scanStringBytes r
      return (b :: s, rest)

/-- A string after its opening quote. -/
def scanString (bs : Bytes) : Except Fault (String × Bytes) := do
  let (raw, rest) ← scanStringBytes bs
  match Bytes.toText? raw with
  | some s => .ok (s, rest)
  | none => .error .malformed

/-- Passes over a string after its opening quote. Only its escapes are looked at. -/
def skipString : Bytes → Except Fault Bytes
  | [] => .error .malformed
  | 0x22 :: r => .ok r
  | 0x5C :: 0x75 :: a :: b :: c :: d :: r =>
    if (hex4? a b c d).isSome then skipString r else .error .malformed
  | 0x5C :: e :: r => if (escape? e).isSome then skipString r else .error .malformed
  | b :: r => if b < 0x20 || b == 0x5C then .error .malformed else skipString r

/-! ## Numbers -/

/-- A number as it is written: without a fraction or an exponent and within 64 bits, or any
other. -/
inductive Number where
  | natural (n : Nat)
  | negative (n : Nat)
  | float (x : Float)

def isDigit (b : UInt8) : Bool :=
  code '0' ≤ b && b ≤ code '9'

/-- Leading digits and the rest. -/
def spanDigits (bs : Bytes) : List Nat × Bytes :=
  ((bs.takeWhile isDigit).map fun b => b.toNat - 48, bs.dropWhile isDigit)

/-- The value of the longest run of leading digits that fits 64 bits after `acc`, and how many
digits it has. The run goes on behind the point, whatever was dropped before it. -/
def significand (acc : Nat) : List Nat → Nat × Nat
  | [] => (acc, 0)
  | d :: r =>
    let next := 10 * acc + d
    if next < UInt64.size then
      let (n, used) := significand next r
      (n, used + 1)
    else (acc, 0)

/-- A power of ten as a double. -/
def powerOfTen (n : Nat) : Float :=
  Float.ofScientific 1 false n

/-- The double for `n · 10^e` by one multiplication or division with a power of ten, or by several
where the power itself is out of range. No finite double: no number. -/
def scaled (n : Nat) (e : Int) : Option Float :=
  let x := Float.ofNat n
  if 0 ≤ e then
    if 308 < e then (if n == 0 then some x else none)
    else
      let y := x * powerOfTen e.toNat
      if y.isInf then none else some y
  else if -308 ≤ e then some (x / powerOfTen (-e).toNat)
  else if -616 ≤ e then some (x / powerOfTen 308 / powerOfTen (-e - 308).toNat)
  else some 0.0

/-- An exponent part, if there is one, with the rest. -/
def scanExponent (bs : Bytes) : Except Fault (Option Int × Bytes) :=
  match bs with
  | e :: r =>
    if e == code 'e' || e == code 'E' then
      let (negative, digits) := match r with
        | s :: r' =>
          if s == code '-' then (true, r') else if s == code '+' then (false, r') else (false, r)
        | [] => (false, r)
      match spanDigits digits with
      | ([], _) => .error .malformed
      | (ds, rest) =>
        let n : Nat := ds.foldl (fun a d => 10 * a + d) 0
        .ok (some (if negative then -(n : Int) else n), rest)
    else .ok (none, bs)
  | [] => .ok (none, bs)

/-- A fraction, if there is one: its digits, of which there is at least one, with the rest. -/
def scanFraction (bs : Bytes) : Except Fault (Option (List Nat) × Bytes) :=
  match bs with
  | p :: r =>
    if p == code '.' then
      match spanDigits r with
      | ([], _) => .error .malformed
      | (ds, rest) => .ok (some ds, rest)
    else .ok (none, bs)
  | [] => .ok (none, bs)

/-- The digits before the point: one zero, or digits that do not begin with zero. -/
def scanWhole (bs : Bytes) : Except Fault (List Nat × Bytes) :=
  match spanDigits bs with
  | ([], _) => .error .malformed
  | ([0], rest) => .ok ([0], rest)
  | (0 :: _, _) => .error .malformed
  | (ds, rest) => .ok (ds, rest)

/-- A number after its sign. A number too large for a double is malformed. -/
def scanNumber (negative : Bool) (bs : Bytes) : Except Fault (Number × Bytes) := do
  let (whole, bs) ← scanWhole bs
  let (fraction, bs) ← scanFraction bs
  let (exponent, bs) ← scanExponent bs
  let (n, usedWhole) := significand 0 whole
  let dropped := whole.length - usedWhole
  if fraction.isNone && exponent.isNone && dropped == 0 then
    if !negative then return (.natural n, bs)
    else if n == 0 || 0x8000000000000000 < n then return (.float (-(Float.ofNat n)), bs)
    else return (.negative n, bs)
  else
    let (n, usedFraction) := significand n (fraction.getD [])
    match scaled n (exponent.getD 0 + dropped - usedFraction) with
    | some x => return (.float (if negative then -x else x), bs)
    | none => .error .malformed

/-- Passes over a number after its sign. -/
def skipNumber (bs : Bytes) : Except Fault Bytes := do
  let (_, bs) ← scanWhole bs
  let (_, bs) ← scanFraction bs
  let (_, bs) ← scanExponent bs
  return bs

end TileDepot.Json
