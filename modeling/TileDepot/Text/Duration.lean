/-!
# Durations

Lengths of time in whole nanoseconds, and their text: the largest of seconds, milliseconds,
microseconds and nanoseconds that fits into the duration is the unit, and the fraction keeps every
digit that matters.
-/

namespace TileDepot

/-- A length of time. -/
structure Duration where
  nanos : Nat
  deriving Repr, DecidableEq, Inhabited

namespace Duration

def ofSeconds (n : Nat) : Duration := ⟨n * 1000000000⟩

def ofMillis (n : Nat) : Duration := ⟨n * 1000000⟩

def millis (d : Duration) : Nat := d.nanos / 1000000

/-- `value / unit`, where `unit` is a power of ten with `places` zeros. -/
def decimal (value unit places : Nat) : List Char :=
  let whole := Nat.toDigits 10 (value / unit)
  let fraction := Nat.toDigits 10 (value % unit)
  let padded := List.replicate (places - fraction.length) '0' ++ fraction
  let kept := (padded.reverse.dropWhile (· == '0')).reverse
  if kept.isEmpty then whole else whole ++ '.' :: kept

/-- The text of a duration, as in `1.5s`, `250µs` and `0ns`. -/
def text (d : Duration) : String :=
  let n := d.nanos
  String.ofList <|
    if 1000000000 ≤ n then decimal n 1000000000 9 ++ ['s']
    else if 1000000 ≤ n then decimal n 1000000 6 ++ ['m', 's']
    else if 1000 ≤ n then decimal n 1000 3 ++ ['µ', 's']
    else Nat.toDigits 10 n ++ ['n', 's']

end Duration

end TileDepot
