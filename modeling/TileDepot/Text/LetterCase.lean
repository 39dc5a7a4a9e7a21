import TileDepot.Text.CaseTable
import TileDepot.Text.Table

/-!
# Lower-case letters

A text in lower case by the full rules of Unicode. Two characters do not map one to one: a dotted
capital I becomes `i` and a combining dot, and a capital sigma becomes `ς` at the end of a word and
`σ` anywhere else.
-/

namespace TileDepot.Text

/-- The one-character lower-case form; a character without one stands for itself. -/
def lowerChar (c : Char) : Char :=
  let n := c.toNat
  if n < 0x80 then c.toLower
  else
    match lowerRuns.find? fun r => r.first ≤ n && n ≤ r.last && (n - r.first) % r.step == 0 with
    | some r => Char.ofNat (r.image + (n - r.first))
    | none => c

/-- A cased character comes next, once those that case rules look through are passed. -/
def casedNext (cs : List Char) : Bool :=
  match cs.dropWhile (inRanges caseIgnorableRanges) with
  | [] => false
  | c :: _ => inRanges casedRanges c

/-- Lower case of `cs`, where `before` holds the characters in front of it, the nearest first. -/
def lowerFrom (before : List Char) : List Char → List Char
  | [] => []
  | c :: rest =>
    let out :=
      if c == 'İ' then ['i', '\u0307']
      else if c == 'Σ' then [if casedNext before && !casedNext rest then 'ς' else 'σ']
      else [lowerChar c]
    out ++ lowerFrom (c :: before) rest

/-- A text in lower case. -/
def lower (s : String) : String :=
  String.ofList (lowerFrom [] s.toList)

end TileDepot.Text
