import TileDepot.Url.DirectionTable

/-!
# Direction of labels

A domain with text from right to left has to keep each label in one direction, so that the order in
which it shows is the order in which it is read.
-/

namespace TileDepot.Url

/-- The direction of a character. -/
inductive Direction where
  | leftToRight
  | rightToLeft
  | plainDigit
  | arabicDigit
  | attached
  | neutral
  deriving Repr, DecidableEq

/-- The direction of a character that a domain holds. -/
def Direction.of (c : Char) : Direction :=
  if Text.inRanges rightToLeftRanges c then .rightToLeft
  else if Text.inRanges plainDigitRanges c then .plainDigit
  else if Text.inRanges arabicDigitRanges c then .arabicDigit
  else if Text.inRanges attachedRanges c then .attached
  else if Text.inRanges neutralRanges c then .neutral
  else .leftToRight

/-- A label with such a character has to run from right to left. -/
def Direction.isRight : Direction → Bool
  | .rightToLeft | .arabicDigit => true
  | _ => false

/-- A label of one direction, given by the directions of its characters: it begins with a letter,
ends with a letter or a digit but for marks, holds no letter of the other direction, and only one
kind of digits where it runs from right to left. -/
def isDirected : List Direction → Bool
  | [] => true
  | first :: rest =>
    match (rest.reverse.dropWhile (· == .attached)), first with
    | [], .leftToRight | [], .rightToLeft => true
    | last :: _, .leftToRight =>
      (last == .leftToRight || last == .plainDigit) && !rest.any (·.isRight)
    | last :: _, .rightToLeft =>
      (last.isRight || last == .plainDigit) && !rest.contains .leftToRight &&
        !(rest.contains .plainDigit && rest.contains .arabicDigit)
    | _, _ => false

/-- The labels of a domain keep their directions. Nothing is asked of a domain that runs from left
to right throughout. -/
def areDirected (labels : List (List Char)) : Bool :=
  let directions := labels.map (·.map Direction.of)
  !(directions.any (·.any (·.isRight))) || directions.all isDirected

end TileDepot.Url
