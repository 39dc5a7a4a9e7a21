import TileDepot.Text.CombiningTable

/-!
# Composed text

A letter with marks can be written in more than one way. In composed text the marks of a letter are
ordered by their classes, and each mark that makes a character of its own with the letter is written
as that character (Unicode's normalization form C). Characters that no composition gives are left
alone.
-/

namespace TileDepot.Text

/-- The class of a combining mark, and 0 for any other character. -/
def combiningClass (c : Char) : Nat :=
  match combiningClasses.find? fun r => c.toNat ≤ r.2.1 with
  | some (first, _, k) => if first ≤ c.toNat then k else 0
  | none => 0

/-! ## Syllables of Hangul -/

/-- The first syllable; the others follow it, ordered by consonant, vowel and final consonant. -/
def firstSyllable : Nat := 0xAC00

/-- The letters of a syllable. -/
def syllableLetters? (c : Char) : Option (List Char) :=
  if firstSyllable ≤ c.toNat && c.toNat < firstSyllable + 19 * 21 * 28 then
    let i := c.toNat - firstSyllable
    let open' := [Char.ofNat (0x1100 + i / 588), Char.ofNat (0x1161 + i % 588 / 28)]
    some (if i % 28 == 0 then open' else open' ++ [Char.ofNat (0x11A7 + i % 28)])
  else none

/-- The syllable of a consonant and a vowel, or of an open syllable and its final consonant. -/
def syllable? (a b : Char) : Option Char :=
  if 0x1100 ≤ a.toNat && a.toNat < 0x1113 && 0x1161 ≤ b.toNat && b.toNat < 0x1176 then
    some (Char.ofNat (firstSyllable + (a.toNat - 0x1100) * 588 + (b.toNat - 0x1161) * 28))
  else if firstSyllable ≤ a.toNat && a.toNat < firstSyllable + 19 * 21 * 28 &&
      (a.toNat - firstSyllable) % 28 == 0 && 0x11A8 ≤ b.toNat && b.toNat < 0x11C3 then
    some (Char.ofNat (a.toNat + (b.toNat - 0x11A7)))
  else none

/-! ## Parts and wholes -/

/-- The letter and the marks of a character. Only the first part of a composed character can be
composed itself, and no character has more than `fuel` layers. -/
def decompose (fuel : Nat) (c : Char) : List Char :=
  match fuel with
  | 0 => [c]
  | fuel + 1 =>
    match syllableLetters? c with
    | some letters => letters
    | none =>
      match composites.find? fun r => r.1 == c with
      | some (_, a, b) => decompose fuel a ++ [b]
      | none => [c]

/-- The character that two others make. -/
def compose? (a b : Char) : Option Char :=
  match syllable? a b with
  | some c => some c
  | none => (composites.find? fun r => r.2.1 == a && r.2.2 == b).map (·.1)

/-- Puts a mark behind the marks of a lower class that follow it. -/
def insertMark (c : Char) : List Char → List Char
  | [] => [c]
  | d :: r =>
    if 0 < combiningClass d && combiningClass d < combiningClass c then d :: insertMark c r
    else c :: d :: r

/-- Text taken apart, with the marks of each letter in order. -/
def decomposed (cs : List Char) : List Char :=
  (cs.flatMap (decompose 4)).foldr insertMark []

/-- What has been composed so far, all of it backwards: whole characters, the letter that marks may
still join, and the marks behind it that did not. -/
structure Composing where
  done : List Char := []
  letter : Option Char := none
  marks : List Char := []

/-- All that has been composed, backwards. -/
def Composing.written (s : Composing) : List Char :=
  s.marks ++ s.letter.toList ++ s.done

/-- Takes in one character. It joins the letter unless a mark of the same class or a higher one
stands between them. -/
def Composing.add (s : Composing) (c : Char) : Composing :=
  let reaches := match s.marks with
    | [] => true
    | m :: _ => combiningClass m < combiningClass c
  match s.letter.bind fun a => if reaches then compose? a c else none with
  | some whole => { s with letter := some whole }
  | none =>
    if combiningClass c == 0 then { done := s.written, letter := some c, marks := [] }
    else { s with marks := c :: s.marks }

/-- Text in its composed form. -/
def composed (cs : List Char) : List Char :=
  ((decomposed cs).foldl Composing.add {}).written.reverse

end TileDepot.Text
