import TileDepot.Decimal.Layout
import TileDepot.Decimal.Reading
import TileDepot.Text.Blank
import TileDepot.Text.LetterCase

/-!
# Query values

A value that a query takes as an argument, and the kinds of values that request parameters are read
as. Reading never looks at the query: a kind and a raw text decide the value.
-/

namespace TileDepot.Query

/-- An argument of a query. -/
inductive Value where
  | null
  | bool (b : Bool)
  | int (n : Int64)
  | float (x : Float)
  | text (s : String)

/-- A value as messages show it. -/
def Value.show : Value → String
  | .null => "NULL"
  | .bool b => if b then "true" else "false"
  | .int n => toString n.toInt
  | .float x => Decimal.plain x
  | .text s => "'" ++ s ++ "'"

/-- How a raw parameter is read. -/
inductive Kind where
  | int
  | float
  | bool
  | text
  deriving Repr, DecidableEq

namespace Kind

/-- The canonical name of a kind. -/
def name : Kind → String
  | .int => "int"
  | .float => "float"
  | .bool => "bool"
  | .text => "string"

/-- The kind that a lower-case name stands for. -/
def ofName? (name : String) : Option Kind :=
  if name == "int" || name == "integer" then some .int
  else if name == "float" || name == "number" then some .float
  else if name == "bool" || name == "boolean" then some .bool
  else if name == "string" || name == "text" then some .text
  else none

/-- Reads a kind's name, in any case and with blanks around it. -/
def parse (s : String) : Except String Kind :=
  let name := Text.lower (Text.trim s)
  match ofName? name with
  | some k => .ok k
  | none => .error s!"unknown parameter type '{name}': expected int, float, bool or string"

/-- The word for a truth value. -/
def truth? (word : String) : Option Bool :=
  if ["true", "1", "yes"].contains word then some true
  else if ["false", "0", "no"].contains word then some false
  else none

/-- What a raw text should have been. -/
def expectation : Kind → String
  | .int => "expected an integer"
  | .float => "expected a number"
  | .bool => "expected true or false"
  | .text => "expected text"

/-- The value that a raw text stands for. Blanks around numbers and truth values do not count, and
any text is a text. -/
def value? (k : Kind) (raw : String) : Option Value :=
  match k with
  | .int => (Text.int64? (Text.trim raw)).map .int
  | .float => (Decimal.float? (Text.trim raw)).map .float
  | .bool => (truth? (Text.lower (Text.trim raw))).map .bool
  | .text => some (.text raw)

end Kind

end TileDepot.Query
