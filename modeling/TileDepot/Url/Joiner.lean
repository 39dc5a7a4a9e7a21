import TileDepot.Text.Composed
import TileDepot.Url.JoiningTable

/-!
# Joiners

Two characters without a form of their own join the letters around them or keep them apart. A label
may hold them only where they make a difference.
-/

namespace TileDepot.Url

/-- The sign that takes the vowel from a letter of India's scripts has a class of its own. -/
def isVirama (c : Char) : Bool :=
  Text.combiningClass c == 9

/-- Joins to what follows. -/
def joinsAhead (c : Char) : Bool :=
  Text.inRanges dualJoiningRanges c || Text.inRanges leftJoiningRanges c

/-- Joins to what goes before. -/
def joinsBack (c : Char) : Bool :=
  Text.inRanges dualJoiningRanges c || Text.inRanges rightJoiningRanges c

/-- The next letter satisfies `p`, once the characters that joining passes through are passed
unless they satisfy it too. -/
def nextLetter (p : Char → Bool) (cs : List Char) : Bool :=
  match cs.dropWhile fun c => !p c && Text.inRanges transparentRanges c with
  | [] => false
  | c :: _ => p c

/-- Every joiner of a label has its reason: a virama before it or, for the one that keeps apart,
letters on both sides that would join. `before` holds the characters in front of `cs`, the nearest
first. -/
def areJoinersSound (before : List Char) : List Char → Bool
  | [] => true
  | c :: rest =>
    (!(c == '\u200C' || c == '\u200D') || before.head?.any isVirama ||
      (c == '\u200C' && nextLetter joinsAhead before && nextLetter joinsBack rest)) &&
    areJoinersSound (c :: before) rest

end TileDepot.Url
