import TileDepot.Text.Bytes
import TileDepot.Url.Direction
import TileDepot.Url.DomainTable
import TileDepot.Url.Joiner
import TileDepot.Url.Punycode

/-!
# Domains in ASCII

The form in which a domain of any script is looked up (Unicode's rules for domain names, without
their limits on length): characters in their plain form, and Punycode for each label that has others
than ASCII.
-/

namespace TileDepot.Url

/-- Characters of ASCII that no domain holds. -/
def isForbiddenInDomain (c : Char) : Bool :=
  c.toNat < 0x21 || c.toNat == 0x7F || "#%/:<>?@[\\]^`\x7b|\x7d".toList.contains c

/-- What stands for a character in a domain. -/
def domainImage (c : Char) : List Char :=
  let n := c.toNat
  match shifts.find? fun r => n ≤ r.last with
  | some r =>
    if r.first ≤ n && (n - r.first) % r.step == 0 then [Char.ofNat (r.image + (n - r.first))]
    else spelled c
  | none => spelled c
where
  /-- What stands for a character that is in no run. -/
  spelled (c : Char) : List Char :=
    match spellings.find? fun r => c.toNat ≤ r.1 with
    | some (n, image) => if n == c.toNat then image else [c]
    | none => [c]

/-- A domain in plain characters, or nothing if it has a character that no domain holds. -/
def plainDomain? (cs : List Char) : Option (List Char) :=
  if cs.any (Text.inRanges refusedRanges) then none
  else
    let plain := Text.composed <|
      (cs.filter fun c => !Text.inRanges silentRanges c).flatMap domainImage
    if plain.any isForbiddenInDomain then none else some plain

/-- A label out of Punycode has to be in plain characters already. -/
def isPlainLabel (cs : List Char) : Bool :=
  !cs.contains '.' && plainDomain? cs == some cs

/-- A label in all its characters. One that claims to be Punycode has to be so. -/
def wholeLabel? (label : List Char) : Option (List Char) :=
  match label with
  | 'x' :: 'n' :: '-' :: '-' :: form =>
    if form.length ≤ 2000 && form.getLast?.any (· != '-') then
      (Punycode.decode? form).filter isPlainLabel
    else none
  | _ => some label

/-- A label in all its characters that a domain may have: no mark comes first, joiners have their
reasons, and Punycode is not asked for more than a thousand characters. -/
def isSoundLabel (label : List Char) : Bool :=
  !(label.head?.any (Text.inRanges markRanges)) && areJoinersSound [] label &&
    (label.all (fun c => c.toNat < 0x80) || label.length ≤ 1000)

/-- A label in ASCII. -/
def asciiLabel (label : List Char) : List Char :=
  if label.all fun c => c.toNat < 0x80 then label
  else 'x' :: 'n' :: '-' :: '-' :: Punycode.encode label

/-- A label of ASCII that does not claim to be Punycode. -/
def isOrdinaryLabel (label : List Char) : Bool :=
  label.all (fun c => c.toNat < 0x80) && !(['x', 'n', '-', '-'].isPrefixOf label)

/-- A domain of any script in ASCII. -/
def mappedDomain? (cs : List Char) : Option (List Char) := do
  let labels := Text.pieces '.' (← plainDomain? cs)
  let whole ← labels.mapM wholeLabel?
  if whole.all isSoundLabel && areDirected whole then
    return ['.'].intercalate (labels.map asciiLabel)
  else none

/-- A domain in ASCII. One of ordinary labels stays as it is but for its case. -/
def asciiDomain? (bs : Bytes) : Option (List Char) := do
  let cs ← Bytes.decode? bs
  let lower := cs.map Char.toLower
  if (Text.pieces '.' lower).all isOrdinaryLabel then
    if lower.any isForbiddenInDomain then none else some lower
  else mappedDomain? cs

end TileDepot.Url
