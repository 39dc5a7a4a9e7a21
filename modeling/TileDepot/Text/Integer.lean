/-!
# Decimal integers

Reading of decimal numerals: digits of ASCII only, an optional sign in front, no blanks, and a value
that fits the word it is read into.
-/

namespace TileDepot.Text

/-- The value of a decimal digit. -/
def digitValue (c : Char) : Nat :=
  c.toNat - '0'.toNat

/-- The number that digits stand for, `acc` holding the value of the digits before them. -/
def digitsValue (acc : Nat) (cs : List Char) : Nat :=
  cs.foldl (fun n c => 10 * n + digitValue c) acc

/-- A numeral of one or more digits. -/
def digits? (cs : List Char) : Option Nat :=
  if cs.isEmpty || !cs.all Char.isDigit then none else some (digitsValue 0 cs)

/-- An unsigned numeral below `limit`, with an optional plus sign. -/
def natural? (limit : Nat) (cs : List Char) : Option Nat :=
  let digits := match cs with
    | '+' :: r => r
    | cs => cs
  (digits? digits).filter (· < limit)

/-- A signed numeral. -/
def integer? (cs : List Char) : Option Int :=
  match cs with
  | '+' :: r => (digits? r).map Int.ofNat
  | '-' :: r => (digits? r).map fun n => -Int.ofNat n
  | cs => (digits? cs).map Int.ofNat

/-- A signed numeral of 64 bits. -/
def int64? (s : String) : Option Int64 :=
  (integer? s.toList).bind fun n =>
    if Int64.minValue.toInt ≤ n && n ≤ Int64.maxValue.toInt then some (Int64.ofInt n) else none

/-- An unsigned numeral of 64 bits. -/
def uint64? (s : String) : Option UInt64 :=
  (natural? UInt64.size s.toList).map UInt64.ofNat

/-- An unsigned numeral of 32 bits. -/
def uint32? (s : String) : Option UInt32 :=
  (natural? UInt32.size s.toList).map UInt32.ofNat

/-- An unsigned numeral of 16 bits. -/
def uint16? (s : String) : Option UInt16 :=
  (natural? UInt16.size s.toList).map UInt16.ofNat

end TileDepot.Text
