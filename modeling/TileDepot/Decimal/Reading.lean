import TileDepot.Text.Integer

/-!
# Reading floating-point numbers

The numerals `1`, `-2.5`, `.5`, `5.`, `+1e3`, and the words `inf`, `infinity` and `nan` in any case.
The result is the double nearest to the decimal, ties going to the even one.
-/

namespace TileDepot.Decimal

/-- Leading digits and the rest. -/
def spanDigits (cs : List Char) : List Char × List Char :=
  (cs.takeWhile Char.isDigit, cs.dropWhile Char.isDigit)

/-- An exponent part, `e` or `E` with an optional sign and digits, up to the end of the text; no
exponent part at all is an exponent of zero. -/
def exponentPart? : List Char → Option Int
  | [] => some 0
  | e :: cs =>
    if e == 'e' || e == 'E' then Text.integer? cs else none

/-- The double nearest to `digits · 10^exponent`. Exponents that are far out of range are decided
before any power is taken. -/
def scaleFloat (digits : Nat) (exponent : Int) : Float :=
  if digits == 0 then 0.0
  else
    let magnitude := exponent + (Nat.toDigits 10 digits).length
    if magnitude > 310 then 1.0 / 0.0
    else if magnitude < -330 then 0.0
    else if exponent < 0 then Float.ofScientific digits true exponent.natAbs
    else Float.ofScientific digits false exponent.natAbs

/-- A number without sign. -/
def magnitude? (cs : List Char) : Option Float :=
  let word := cs.map Char.toLower
  if word == "inf".toList || word == "infinity".toList then some (1.0 / 0.0)
  else if word == "nan".toList then some (0.0 / 0.0)
  else
    let (whole, rest) := spanDigits cs
    let (fraction, rest) := match rest with
      | '.' :: r => spanDigits r
      | r => ([], r)
    if whole.isEmpty && fraction.isEmpty then none
    else
      (exponentPart? rest).map fun e =>
        scaleFloat (Text.digitsValue 0 (whole ++ fraction)) (e - fraction.length)

/-- A number with an optional sign. -/
def float? (s : String) : Option Float :=
  match s.toList with
  | '-' :: r => (magnitude? r).map fun x => -x
  | '+' :: r => magnitude? r
  | cs => magnitude? cs

end TileDepot.Decimal
