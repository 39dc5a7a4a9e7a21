import TileDepot.Decimal.Binary64

/-!
# The shortest decimal that reads back

Of all decimals that round to a given double, the ones with the fewest digits, and of those the
nearest. The search goes by number of digits: on the grid of `n`-digit decimals only the two
neighbours of the value need a look, since a grid point that rounds to the double has a neighbour
that does.
-/

namespace TileDepot.Decimal

/-- The number `digits · 10^exponent`. -/
structure Scaled where
  digits : Nat
  exponent : Int
  deriving Repr, DecidableEq

/-- What to take of two decimals that are equally near. -/
inductive Tie where
  | up
  | even
  deriving Repr, DecidableEq

/-- The decimals that round to one double, all scaled by one denominator: the value itself and both
ends of the interval. The ends belong to it when `closed` holds. -/
structure Interval where
  value : Nat
  low : Nat
  high : Nat
  denominator : Nat
  closed : Bool

/-- The interval of `m · 2^q`. Its upper end is half a step above, its lower end half a step below,
or a quarter where the doubles below are twice as dense. -/
def Interval.of (m : Nat) (q : Int) (narrow : Bool) : Interval :=
  let up := Nat.pow 2 q.toNat
  { value := 4 * m * up
    low := (4 * m - if narrow then 1 else 2) * up
    high := (4 * m + 2) * up
    denominator := 4 * Nat.pow 2 (-q).toNat
    closed := m % 2 == 0 }

/-- The decimal `digits · 10^exponent` lies in the interval. -/
def Interval.holds (i : Interval) (digits : Nat) (exponent : Int) : Bool :=
  let n := digits * Nat.pow 10 exponent.toNat * i.denominator
  let scale := Nat.pow 10 (-exponent).toNat
  if i.closed then i.low * scale ≤ n && n ≤ i.high * scale
  else i.low * scale < n && n < i.high * scale

/-- The number of decimal digits of `n`. -/
def digitCount (n : Nat) : Nat :=
  (Nat.toDigits 10 n).length

/-- The power `k` with `10^(k-1) ≤ value < 10^k`. -/
def Interval.magnitude (i : Interval) : Int :=
  if i.denominator ≤ i.value then digitCount (i.value / i.denominator)
  else
    -- the inverse decides: it lies in `(10^(k-1), 10^k]` for `k` digits before its point
    1 - (digitCount ((i.denominator - 1) / i.value) : Int)

/-- The decimal with exponent `exponent` that is in the interval and nearest to its value. -/
def Interval.nearest? (tie : Tie) (i : Interval) (exponent : Int) : Option Scaled :=
  let scale := i.denominator * Nat.pow 10 exponent.toNat
  let value := i.value * Nat.pow 10 (-exponent).toNat
  let below := value / scale
  let rest := value % scale
  let preferUp :=
    match compare (2 * rest) scale with
    | .lt => false
    | .gt => true
    | .eq => match tie with
      | .up => true
      | .even => below % 2 == 1
  let (first, second) := if preferUp then (below + 1, below) else (below, below + 1)
  if i.holds first exponent then some ⟨first, exponent⟩
  else if i.holds second exponent then some ⟨second, exponent⟩
  else none

/-- Moves trailing zeros of the digits into the exponent; `fuel` bounds their number. -/
def Scaled.strip : Nat → Scaled → Scaled
  | 0, d => d
  | fuel + 1, d =>
    if d.digits != 0 && d.digits % 10 == 0 then strip fuel ⟨d.digits / 10, d.exponent + 1⟩ else d

/-- The shortest decimal for `m · 2^q` with `m` above zero. Seventeen digits always suffice. -/
def shortest (tie : Tie) (m : Nat) (q : Int) (narrow : Bool) : Scaled :=
  let i := Interval.of m q narrow
  let k := i.magnitude
  match (List.range 17).findSome? fun (n : Nat) => i.nearest? tie (k - (n : Int) - 1) with
  | some d => d.strip 20
  | none => ⟨0, 0⟩

end TileDepot.Decimal
