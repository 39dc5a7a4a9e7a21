import TileDepot.Decimal.Layout

/-!
# JSON values

A JSON value keeps the order of its members, and `Json.text` writes it without spaces. Whole and
floating-point numbers are told apart, since they are written differently.
-/

namespace TileDepot

/-- A JSON value. -/
inductive Json where
  | null
  | bool (b : Bool)
  | int (n : Int)
  | float (x : Float)
  | text (s : String)
  | list (items : List Json)
  | object (members : List (String × Json))
  deriving Inhabited

namespace Json

/-- One character of a JSON string: quotes, backslashes and control characters are escaped, all
else stands for itself. -/
def escaped (c : Char) : List Char :=
  match c with
  | '"' => ['\\', '"']
  | '\\' => ['\\', '\\']
  | '\x08' => ['\\', 'b']
  | '\x0c' => ['\\', 'f']
  | '\n' => ['\\', 'n']
  | '\r' => ['\\', 'r']
  | '\t' => ['\\', 't']
  | c =>
    if c.toNat < 0x20 then
      ['\\', 'u', '0', '0', Nat.digitChar (c.toNat / 16), Nat.digitChar (c.toNat % 16)]
    else [c]

/-- A JSON string. -/
def quote (s : String) : List Char :=
  '"' :: s.toList.flatMap escaped ++ ['"']

mutual

/-- The characters of a value. A number that is not finite is written as `null`. -/
def chars : Json → List Char
  | .null => "null".toList
  | .bool b => (if b then "true" else "false").toList
  | .int n => (toString n).toList
  | .float x => ((Decimal.wire? x).getD "null").toList
  | .text s => quote s
  | .list items => '[' :: elements items ++ [']']
  | .object members => '\x7b' :: entries members ++ ['\x7d']

/-- Values with commas between them. -/
def elements : List Json → List Char
  | [] => []
  | [v] => chars v
  | v :: r => chars v ++ ',' :: elements r

/-- Members with commas between them. -/
def entries : List (String × Json) → List Char
  | [] => []
  | [(k, v)] => quote k ++ ':' :: chars v
  | (k, v) :: r => quote k ++ ':' :: chars v ++ ',' :: entries r

end

/-- A value as compact text. -/
def render (v : Json) : String :=
  String.ofList v.chars

end Json

end TileDepot
