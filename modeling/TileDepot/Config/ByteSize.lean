import TileDepot.Text.Blank
import TileDepot.Text.Integer

/-!
# Sizes in bytes

Sizes such as `512`, `64KB` and `2 GB`. A size is written with the largest unit that divides it.
-/

namespace TileDepot.Config

/-- A unit of sizes. -/
inductive SizeUnit where
  | byte
  | kilo
  | mega
  | giga
  deriving Repr, DecidableEq

namespace SizeUnit

def bytes : SizeUnit → Nat
  | .byte => 1
  | .kilo => 1024
  | .mega => 1024 * 1024
  | .giga => 1024 * 1024 * 1024

/-- How the unit is written behind a number. -/
def suffix : SizeUnit → String
  | .byte => ""
  | .kilo => "KB"
  | .mega => "MB"
  | .giga => "GB"

/-- The unit of an upper-case suffix; the `B` may be left out. -/
def ofSuffix? (s : String) : Option SizeUnit :=
  if s == "" || s == "B" then some .byte
  else if s == "K" || s == "KB" then some .kilo
  else if s == "M" || s == "MB" then some .mega
  else if s == "G" || s == "GB" then some .giga
  else none

/-- The largest unit that divides a size. -/
def ofBytes (n : Nat) : SizeUnit :=
  let fits (u : SizeUnit) : Bool := u.bytes ≤ n && n % u.bytes == 0
  if fits .giga then .giga
  else if fits .mega then .mega
  else if fits .kilo then .kilo
  else .byte

end SizeUnit

/-- Reads a size of 64 bits. It is enough to raise ASCII letters: no other letter has a letter of a
unit, or a digit, in its upper case. -/
def parseSize? (s : String) : Option UInt64 := do
  let cs := (Text.trimChars s.toList).map Char.toUpper
  let n ← Text.digits? (cs.takeWhile Char.isDigit)
  let unit ← SizeUnit.ofSuffix? (String.ofList (Text.trimChars (cs.dropWhile Char.isDigit)))
  let bytes := n * unit.bytes
  if bytes < UInt64.size then some (UInt64.ofNat bytes) else none

/-- Why a text is no size. -/
def sizeFault (s : String) : String :=
  "invalid size '" ++ s ++ "': expected a whole number with optional KB, MB or GB suffix"

/-- Writes a size. -/
def formatSize (n : UInt64) : String :=
  let unit := SizeUnit.ofBytes n.toNat
  toString (n.toNat / unit.bytes) ++ unit.suffix

end TileDepot.Config
