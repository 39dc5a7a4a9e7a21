/-!
# Binary floating point as whole numbers

A finite double is `m · 2^q` for whole numbers `m` and `q`. `Binary64.ofFloat` takes a double apart,
so that its decimal form can be worked out in exact arithmetic.
-/

namespace TileDepot.Decimal

/-- The parts of a double. -/
inductive Binary64 where
  | nan
  | infinite (negative : Bool)
  /-- The number `± significand · 2^exponent`. `narrow` holds when the double below is only half a
  step away, as it is at a power of two. -/
  | finite (negative : Bool) (significand : Nat) (exponent : Int) (narrow : Bool)

/-- Takes a double apart. -/
def Binary64.ofFloat (x : Float) : Binary64 :=
  let bits := x.toBits.toNat
  let negative := bits / 0x8000000000000000 == 1
  let biased : Nat := bits / 0x10000000000000 % 2048
  let fraction := bits % 0x10000000000000
  if biased == 2047 then
    if fraction == 0 then .infinite negative else .nan
  else if biased == 0 then .finite negative fraction (-1074) false
  else
    .finite negative (0x10000000000000 + fraction) ((biased : Int) - 1075)
      (fraction == 0 && biased > 1)

end TileDepot.Decimal
