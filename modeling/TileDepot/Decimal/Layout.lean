import TileDepot.Decimal.Shortest

/-!
# How numbers are written

Two layouts of the shortest decimal. The plain one never uses an exponent and drops a point with
nothing after it; it serves messages and settings. The wire layout always shows that it is a
floating-point number and changes to an exponent outside `10^-5` to `10^16`.
-/

namespace TileDepot.Decimal

/-- The decimal digits of a number. -/
def digitChars (n : Nat) : List Char :=
  Nat.toDigits 10 n

def zeros (n : Nat) : List Char :=
  List.replicate n '0'

/-- Digits and exponent as a positional numeral; `whole` follows one without a fraction. -/
def positional (d : Scaled) (whole : List Char) : List Char :=
  let digits := digitChars d.digits
  if 0 ≤ d.exponent then digits ++ zeros d.exponent.toNat ++ whole
  else
    let fraction := (-d.exponent).toNat
    if fraction < digits.length then
      digits.take (digits.length - fraction) ++ '.' :: digits.drop (digits.length - fraction)
    else '0' :: '.' :: zeros (fraction - digits.length) ++ digits

/-- One digit before the point, and a signed exponent. -/
def scientific (d : Scaled) : List Char :=
  let digits := digitChars d.digits
  let exponent := d.exponent + digits.length - 1
  let mantissa := match digits with
    | [] => []
    | [c] => [c]
    | c :: r => c :: '.' :: r
  mantissa ++ 'e' :: (if exponent < 0 then '-' else '+') :: digitChars exponent.natAbs

def sign (negative : Bool) : List Char :=
  if negative then ['-'] else []

/-- The plain layout: `0.5`, `-0`, `1000000000000000000000`, `NaN`, `-inf`. -/
def plain (x : Float) : String :=
  match Binary64.ofFloat x with
  | .nan => "NaN"
  | .infinite negative => String.ofList (sign negative ++ ['i', 'n', 'f'])
  | .finite negative m q narrow =>
    String.ofList <| sign negative ++
      if m == 0 then ['0'] else positional (shortest .up m q narrow) []

/-- The wire layout: `0.5`, `-0.0`, `1e+21`, `2.5e-7`. A number that is not finite has none. -/
def wire? (x : Float) : Option String :=
  match Binary64.ofFloat x with
  | .nan => none
  | .infinite _ => none
  | .finite negative m q narrow =>
    some <| String.ofList <| sign negative ++
      if m == 0 then ['0', '.', '0']
      else
        let d := shortest .even m q narrow
        let leading := d.exponent + digitCount d.digits - 1
        if -5 ≤ leading && leading < 16 then positional d ['.', '0'] else scientific d

end TileDepot.Decimal
