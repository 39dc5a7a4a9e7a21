import TileDepot.Text.Bytes

/-!
# Percent encoding

Bytes written as `%XX`, and text read back from them. Which bytes need it depends on the part of a
URL they stand in; each part has its own set.
-/

namespace TileDepot.Url

/-- The bytes of a part of a URL that have to be written as `%XX`. -/
abbrev EncodeSet := UInt8 → Bool

/-- `%XX` with upper-case digits. -/
def percentByte (b : UInt8) : List Char :=
  '%' :: Bytes.hexPair Bytes.upperDigit b

/-- Writes the bytes of `set` as `%XX` and all others as themselves. -/
def percentEncode (set : EncodeSet) (bs : Bytes) : List Char :=
  bs.flatMap fun b => if set b then percentByte b else [Char.ofNat b.toNat]

/-- Encodes the UTF-8 form of a text. -/
def encodeText (set : EncodeSet) (s : String) : String :=
  String.ofList (percentEncode set (Bytes.ofText s))

/-- The bytes of a text in which `%XX` stands for a byte. A percent sign without two digits after it
stands for itself. -/
def percentDecode : Bytes → Bytes
  | [] => []
  | [b] => [b]
  | [b, c] => [b, c]
  | b :: h :: l :: r =>
    if b == 0x25 then
      match Bytes.hexValue? (Char.ofNat h.toNat), Bytes.hexValue? (Char.ofNat l.toNat) with
      | some x, some y => UInt8.ofNat (16 * x + y) :: percentDecode r
      | _, _ => b :: percentDecode (h :: l :: r)
    else b :: percentDecode (h :: l :: r)

/-- One of the given ASCII characters. -/
def isOneOf (cs : String) (b : UInt8) : Bool :=
  cs.toList.any fun c => c.toNat == b.toNat

/-- Control characters and everything outside ASCII. -/
def controlSet : EncodeSet := fun b => b < 0x20 || 0x7F ≤ b

def fragmentSet : EncodeSet := fun b => controlSet b || isOneOf " \"<>\x60" b

def pathSet : EncodeSet := fun b => fragmentSet b || isOneOf "#?\x7b\x7d" b

def userInfoSet : EncodeSet := fun b => pathSet b || isOneOf "/:;=@[\\]^|" b

def querySet : EncodeSet := fun b => controlSet b || isOneOf " \"#<>" b

/-- The query set of the web's own schemes. -/
def specialQuerySet : EncodeSet := fun b => querySet b || isOneOf "'" b

end TileDepot.Url
