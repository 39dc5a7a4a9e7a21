import TileDepot.Decimal.Reading
import TileDepot.Json.Value
import TileDepot.Text.Bytes

/-!
# Members of JSON values

What an object holds under a name. A member that is not there is `null`, and a value of another form
than the one asked for counts as none. Numbers that must be exact may be written as texts.
-/

namespace TileDepot.Json

/-- The member of a name. -/
def field (j : Json) (name : String) : Json :=
  match j with
  | .object ms => (ms.lookup name).getD .null
  | _ => .null

def string? : Json → Option String
  | .text s => some s
  | _ => none

def integer? : Json → Option Int
  | .int n => some n
  | _ => none

/-- A number, or the number that a text stands for. -/
def number : Json → Float
  | .text s => (Decimal.float? s).getD 0.0
  | .int n => Float.ofInt n
  | .float x => x
  | _ => 0.0

def elementsOf : Json → List Json
  | .list vs => vs
  | _ => []

/-- The bytes that a text of hexadecimal digits stands for. -/
def bytes (j : Json) : Bytes :=
  (j.string?.bind Bytes.ofHex?).getD []

/-- The member is there and not `null`. -/
def has (j : Json) (name : String) : Bool :=
  match j.field name with
  | .null => false
  | _ => true

def str? (j : Json) (name : String) : Option String := (j.field name).string?

def str (j : Json) (name : String) : String := (j.str? name).getD ""

def intAt? (j : Json) (name : String) : Option Int := (j.field name).integer?

def intAt (j : Json) (name : String) : Int := (j.intAt? name).getD 0

def nat? (j : Json) (name : String) : Option Nat := (j.intAt? name).map Int.toNat

def nat (j : Json) (name : String) : Nat := (j.nat? name).getD 0

/-- The member is `true`. -/
def flag (j : Json) (name : String) : Bool :=
  match j.field name with
  | .bool b => b
  | _ => false

def items (j : Json) (name : String) : List Json := (j.field name).elementsOf

def texts (j : Json) (name : String) : List String := (j.items name).filterMap string?

def numbers (j : Json) (name : String) : List Float := (j.items name).map number

/-! ## Making values -/

/-- A number as a text that keeps it exactly. -/
def exact (x : Float) : Json := .text (Decimal.plain x)

def hex (bs : Bytes) : Json := .text bs.toHex

def natural (n : Nat) : Json := .int n

/-- A value, or `null` for none. -/
def orNull (f : α → Json) : Option α → Json
  | some a => f a
  | none => .null

/-- An object with the members of another one behind its own. -/
def merge (a b : Json) : Json :=
  match a, b with
  | .object xs, .object ys => .object (xs ++ ys)
  | a, _ => a

end TileDepot.Json
