/-!
# Tables of characters

Large tables of character data are written as text: rows with blanks or line breaks between them,
and in a row numbers in hexadecimal with dots between them. Smaller ones are arrays of ranges.
-/

namespace TileDepot.Text

/-- The pieces of a text between separators; there is always one more than there are separators. -/
def pieces (separator : Char) : List Char → List (List Char)
  | [] => [[]]
  | c :: r =>
    if c == separator then [] :: pieces separator r
    else match pieces separator r with
      | [] => [[c]]
      | p :: ps => (c :: p) :: ps

/-- The value of a table's digit, which is a capital letter above nine. -/
def tableDigit (c : Char) : Nat :=
  if c.isDigit then c.toNat - 48 else c.toNat - 55

/-- The rows of a table written as text. -/
def tableRows (table : String) : List (List Nat) :=
  let rows := pieces ' ' (table.toList.map fun c => if c == '\n' then ' ' else c)
  (rows.filter (!·.isEmpty)).map fun row =>
    (pieces '.' row).map fun digits => digits.foldl (fun n c => 16 * n + tableDigit c) 0

/-- The ranges of a table written as text; a row of one number is a range of one character. -/
def tableRanges (table : String) : Array (Nat × Nat) :=
  ((tableRows table).filterMap fun row =>
    match row with
    | [c] => some (c, c)
    | [first, last] => some (first, last)
    | _ => none).toArray

/-- Membership in an ordered table of ranges: the first range that reaches up to the character has
to start no later. -/
def inRanges (table : Array (Nat × Nat)) (c : Char) : Bool :=
  match table.find? fun r => c.toNat ≤ r.2 with
  | some r => r.1 ≤ c.toNat
  | none => false

end TileDepot.Text
