import TileDepot.Text.Blank
import TileDepot.Text.Integer

/-!
# Points in time

A point in time in UTC, read from and written as RFC 3339 text. Reading is lenient: blanks may stand
between the parts, a blank or a `t` in the place of the `T`, and `UTC` in the place of the `Z`.
-/

namespace TileDepot

/-- A date and a time of day in UTC. The second is 60 in a leap second. -/
structure Timestamp where
  year : Int
  month : Nat
  day : Nat
  hour : Nat
  minute : Nat
  second : Nat
  nanos : Nat
  deriving Repr, DecidableEq, Inhabited

namespace Timestamp

/-! ## Calendar -/

def isLeapYear (year : Int) : Bool :=
  year % 4 == 0 && (year % 100 != 0 || year % 400 == 0)

def daysInMonth (year : Int) (month : Nat) : Nat :=
  if month == 2 then (if isLeapYear year then 29 else 28)
  else if month == 4 || month == 6 || month == 9 || month == 11 then 30
  else 31

/-- The day after or before a date; a day is never further away than an offset reaches. -/
def nextDay (t : Timestamp) : Timestamp :=
  if t.day < daysInMonth t.year t.month then { t with day := t.day + 1 }
  else if t.month < 12 then { t with month := t.month + 1, day := 1 }
  else { t with year := t.year + 1, month := 1, day := 1 }

@[inherit_doc nextDay]
def previousDay (t : Timestamp) : Timestamp :=
  if 1 < t.day then { t with day := t.day - 1 }
  else if 1 < t.month then
    { t with month := t.month - 1, day := daysInMonth t.year (t.month - 1) }
  else { t with year := t.year - 1, month := 12, day := 31 }

/-- The same point in time, given in local time east of Greenwich by `offset` minutes. -/
def ofLocal (t : Timestamp) (offset : Int) : Timestamp :=
  let minutes : Int := (60 * t.hour + t.minute : Nat) - offset
  let moved := if minutes < 0 then t.previousDay else if 1440 ≤ minutes then t.nextDay else t
  let inDay := (minutes % 1440).toNat
  { moved with hour := inDay / 60, minute := inDay % 60 }

/-- The years that a calendar of 19 bits has. -/
def isYear (year : Int) : Bool :=
  -262143 ≤ year && year ≤ 262142

/-- The parts are those of a date and a time that there are. -/
def isValid (t : Timestamp) : Bool :=
  isYear t.year && 1 ≤ t.month && t.month ≤ 12 && 1 ≤ t.day &&
    t.day ≤ daysInMonth t.year t.month && t.hour < 24 && t.minute < 60 && t.second ≤ 60

/-! ## Reading -/

/-- Up to `width` digits, of which there must be one, after blanks. -/
def digits? (width : Nat) (cs : List Char) : Option (Nat × List Char) :=
  let cs := Text.dropBlanks cs
  let ds := (cs.take width).takeWhile Char.isDigit
  if ds.isEmpty then none else some (Text.digitsValue 0 ds, cs.drop ds.length)

/-- A year: four digits at most, or a sign and any number of digits. -/
def year? (cs : List Char) : Option (Int × List Char) :=
  match Text.dropBlanks cs with
  | '-' :: r => digitsOnly r |>.map fun (n, r) => (-(n : Int), r)
  | '+' :: r => digitsOnly r |>.map fun (n, r) => ((n : Int), r)
  | cs => (digits? 4 cs).map fun (n, r) => ((n : Int), r)
where
  digitsOnly (cs : List Char) : Option (Nat × List Char) :=
    let ds := cs.takeWhile Char.isDigit
    if ds.isEmpty then none else some (Text.digitsValue 0 ds, cs.drop ds.length)

/-- One character after blanks. -/
def mark? (c : Char) (cs : List Char) : Option (List Char) :=
  match Text.dropBlanks cs with
  | d :: r => if d == c then some r else none
  | [] => none

/-- The fraction of a second in nanoseconds; digits beyond the ninth do not count. -/
def fraction? : List Char → Option (Nat × List Char)
  | '.' :: r =>
    let ds := r.takeWhile Char.isDigit
    if ds.isEmpty then none
    else
      let kept := ds.take 9
      some (Text.digitsValue 0 kept * Nat.pow 10 (9 - kept.length), r.drop ds.length)
  | cs => some (0, cs)

/-- Two digits. -/
def pair? : List Char → Option (Nat × List Char)
  | a :: b :: r =>
    if a.isDigit && b.isDigit then some (Text.digitsValue 0 [a, b], r) else none
  | _ => none

/-- The offset from UTC in minutes. -/
def offset? (cs : List Char) : Option (Int × List Char) :=
  if (cs.take 3).map Char.toLower == ['u', 't', 'c'] then some (0, cs.drop 3)
  else match cs with
    | 'Z' :: r => some (0, r)
    | 'z' :: r => some (0, r)
    | sign :: r => do
      let negative ←
        if sign == '+' then some false
        else if sign == '-' || sign == '\u2212' then some true
        else none
      let (hours, r) ← pair? r
      let (minutes, r) ← pair? (r.dropWhile fun c => c == ':' || Text.isBlank c)
      if 60 ≤ minutes || 24 ≤ hours then none
      else
        let total : Int := 60 * hours + minutes
        some (if negative then -total else total, r)
    | [] => none

/-- Reads a point in time. It has to lie in the calendar in local time and in UTC. -/
def parse? (s : String) : Option Timestamp := do
  let (year, r) ← year? s.toList
  let r ← mark? '-' r
  let (month, r) ← digits? 2 r
  let r ← mark? '-' r
  let (day, r) ← digits? 2 r
  let r ← match r with
    | c :: r => if c == 'T' || c == 't' || c == ' ' then some r else none
    | [] => none
  let (hour, r) ← digits? 2 r
  let r ← mark? ':' r
  let (minute, r) ← digits? 2 r
  let r ← mark? ':' r
  let (second, r) ← digits? 2 r
  let (nanos, r) ← fraction? r
  let (offset, r) ← offset? (Text.dropBlanks r)
  let t : Timestamp := ⟨year, month, day, hour, minute, second, nanos⟩
  if (Text.dropBlanks r).isEmpty && t.isValid && isYear (t.ofLocal offset).year then
    some (t.ofLocal offset)
  else none

/-! ## Writing -/

/-- A number with at least `width` digits. -/
def padded (width n : Nat) : List Char :=
  let ds := Nat.toDigits 10 n
  List.replicate (width - ds.length) '0' ++ ds

/-- A year of four digits, with a sign if it needs more or lies before year zero. -/
def yearChars (year : Int) : List Char :=
  if 0 ≤ year && year ≤ 9999 then padded 4 year.toNat
  else (if year < 0 then '-' else '+') :: padded 4 year.natAbs

/-- The fraction in thousands, millions or billions of a second, as it needs. -/
def fractionChars (nanos : Nat) : List Char :=
  if nanos == 0 then []
  else if nanos % 1000000 == 0 then '.' :: padded 3 (nanos / 1000000)
  else if nanos % 1000 == 0 then '.' :: padded 6 (nanos / 1000)
  else '.' :: padded 9 nanos

/-- A point in time as text. -/
def text (t : Timestamp) : String :=
  String.ofList <| yearChars t.year ++ '-' :: padded 2 t.month ++ '-' :: padded 2 t.day ++
    'T' :: padded 2 t.hour ++ ':' :: padded 2 t.minute ++ ':' :: padded 2 t.second ++
    fractionChars t.nanos ++ ['Z']

end Timestamp

end TileDepot
