import TileDepot.Url.Percent

/-!
# Form-encoded queries

A query read as name and value pairs, and pairs written as a query. Reading never fails: pieces
without an equals sign have an empty value, empty pieces are passed over, and bytes that are no
UTF-8 become U+FFFD.
-/

namespace TileDepot.Url

/-- Bytes that a form writes as themselves. -/
def isFormSafe (b : UInt8) : Bool :=
  let c := Char.ofNat b.toNat
  b < 0x80 && (c.isAlphanum || c == '*' || c == '-' || c == '.' || c == '_')

/-- A form's writing of bytes: a blank is a plus sign. -/
def formEncodeBytes (bs : Bytes) : List Char :=
  bs.flatMap fun b =>
    if isFormSafe b then [Char.ofNat b.toNat] else if b == 0x20 then ['+'] else percentByte b

/-- A form's writing of a text. -/
def formEncode (s : String) : List Char :=
  formEncodeBytes (Bytes.ofText s)

/-- The text that a piece of a form stands for. -/
def formDecode (bs : Bytes) : String :=
  Bytes.toTextLossy (percentDecode (bs.map fun b => if b == 0x2B then 0x20 else b))

/-- The pieces between separators, of which there is always at least one. -/
def splitAt (separator : UInt8) : Bytes → List Bytes
  | [] => [[]]
  | b :: r =>
    if b == separator then [] :: splitAt separator r
    else match splitAt separator r with
      | [] => [[b]]
      | p :: ps => (b :: p) :: ps

/-- The name and the value of one piece. -/
def formPair (piece : Bytes) : String × String :=
  (formDecode (piece.takeWhile (· != 0x3D)), formDecode ((piece.dropWhile (· != 0x3D)).drop 1))

/-- The pairs of a query, in order. -/
def formPairs (query : String) : List (String × String) :=
  ((splitAt 0x26 (Bytes.ofText query)).filter fun p => !p.isEmpty).map formPair

/-- A query of one pair. -/
def formQuery (name value : String) : String :=
  String.ofList (formEncode name ++ '=' :: formEncode value)

end TileDepot.Url
