import TileDepot.Url.Domain
import TileDepot.Url.Percent

/-!
# Hosts

The host of a URL by the rules of the URL standard. The web's own schemes have domains in their
ASCII form and addresses; every other scheme takes its host as it stands.
-/

namespace TileDepot.Url

/-- Why a text is no URL. -/
inductive Fault where
  | relativeWithoutBase
  | emptyHost
  | invalidPort
  | invalidIpv4
  | invalidIpv6
  | invalidDomainCharacter
  | invalidDomainName
  deriving Repr, DecidableEq

/-- What a fault is called. -/
def Fault.message : Fault → String
  | .relativeWithoutBase => "relative URL without a base"
  | .emptyHost => "empty host"
  | .invalidPort => "invalid port number"
  | .invalidIpv4 => "invalid IPv4 address"
  | .invalidIpv6 => "invalid IPv6 address"
  | .invalidDomainCharacter => "invalid domain character"
  | .invalidDomainName => "invalid international domain name"

/-- A host. The eight parts of an IPv6 address have 16 bits each. -/
inductive Host where
  | domain (name : String)
  | ipv4 (address : Nat)
  | ipv6 (parts : List Nat)
  deriving Repr, DecidableEq

/-! ## IPv4 -/

/-- The value of digits in a base up to 16. -/
def radixValue? (base : Nat) (cs : List Char) : Option Nat :=
  cs.foldlM (fun n c => do
    let d ← Bytes.hexValue? c
    if d < base then some (base * n + d) else none) 0

/-- A part of an IPv4 address: decimal, octal after `0`, or hexadecimal after `0x`. -/
def ipv4Part? (cs : List Char) : Option Nat :=
  match cs with
  | [] => none
  | '0' :: 'x' :: r => radixValue? 16 r
  | '0' :: 'X' :: r => radixValue? 16 r
  | '0' :: d :: r => radixValue? 8 (d :: r)
  | cs => radixValue? 10 cs

/-- The last part of a domain is a number, so that the whole has to be an address. -/
def endsInNumber (cs : List Char) : Bool :=
  let parts := (Text.pieces '.' cs).reverse
  let last := match parts with
    | [] :: p :: _ => p
    | [] :: [] => []
    | p :: _ => p
    | [] => []
  !last.isEmpty && (last.all Char.isDigit || (ipv4Part? last).isSome)

/-- Reads an IPv4 address of one to four parts, the last of which fills the bytes left over. -/
def ipv4? (cs : List Char) : Option Nat := do
  let parts := Text.pieces '.' cs
  let parts := if parts.getLast? == some [] then parts.dropLast else parts
  if 4 < parts.length then none
  let numbers ← parts.mapM ipv4Part?
  let last ← numbers.getLast?
  let front := numbers.dropLast
  if front.any (255 < ·) || Nat.pow 256 (4 - front.length) ≤ last then none
  return last + front.zipIdx.foldl (fun sum (n, i) => sum + n * Nat.pow 256 (3 - i)) 0

/-! ## IPv6 -/

/-- The IPv4 form at the end of an IPv6 address: four decimal numbers below 256 without leading
zeros, as two parts. -/
def embeddedIpv4? (cs : List Char) : Option (List Nat) := do
  let numbers ← (Text.pieces '.' cs).mapM fun p =>
    if p.isEmpty || 3 < p.length || (1 < p.length && p.head? == some '0') then none
    else (radixValue? 10 p).filter (· < 256)
  match numbers with
  | [a, b, c, d] => some [256 * a + b, 256 * c + d]
  | _ => none

/-- One part of an IPv6 address, of one to four hexadecimal digits. -/
def ipv6Part? (cs : List Char) : Option Nat :=
  if cs.isEmpty || 4 < cs.length then none else radixValue? 16 cs

/-- Parts between colons, the last of which may be an IPv4 form. -/
def ipv6Parts? (allowIpv4 : Bool) (cs : List Char) : Option (List Nat) :=
  if cs.isEmpty then some []
  else
    let pieces := Text.pieces ':' cs
    match pieces.getLast? with
    | some last =>
      if allowIpv4 && last.contains '.' then do
        let front ← pieces.dropLast.mapM ipv6Part?
        return front ++ (← embeddedIpv4? last)
      else pieces.mapM ipv6Part?
    | none => some []

/-- The text around the first `::`, if there is one. -/
def splitDoubleColon : List Char → Option (List Char × List Char)
  | ':' :: ':' :: r => some ([], r)
  | c :: r => (splitDoubleColon r).map fun (a, b) => (c :: a, b)
  | [] => none

/-- Reads an IPv6 address; `::` stands for one or more parts of zero. -/
def ipv6? (cs : List Char) : Option (List Nat) := do
  match splitDoubleColon cs with
  | some (front, back) =>
    let a ← ipv6Parts? false front
    let b ← ipv6Parts? true back
    if 7 < a.length + b.length then none
    return a ++ List.replicate (8 - a.length - b.length) 0 ++ b
  | none =>
    let parts ← if cs.isEmpty then none else ipv6Parts? true cs
    if parts.length == 8 then some parts else none

/-- Where the longest run of two or more zeros starts and how long it is; the first of equals. -/
def longestZeros (parts : List Nat) : Option (Nat × Nat) :=
  let runs := (List.range parts.length).map fun i =>
    (i, ((parts.drop i).takeWhile (· == 0)).length)
  let best := runs.foldl (fun b r => if b.2 < r.2 then r else b) (0, 0)
  if 2 ≤ best.2 then some best else none

/-- Parts in hexadecimal with colons between them. -/
def colonParts (parts : List Nat) : List Char :=
  ":".intercalate (parts.map fun p => String.ofList (Nat.toDigits 16 p)) |>.toList

/-- An IPv6 address without brackets, its longest run of zeros left out. -/
def ipv6Text (parts : List Nat) : String :=
  String.ofList <| match longestZeros parts with
    | some (i, n) => colonParts (parts.take i) ++ [':', ':'] ++ colonParts (parts.drop (i + n))
    | none => colonParts parts

/-- An IPv4 address. -/
def ipv4Text (address : Nat) : String :=
  ".".intercalate <| [3, 2, 1, 0].map fun i => toString (address / Nat.pow 256 i % 256)

/-- A host as it stands in a URL. -/
def Host.text : Host → String
  | .domain name => name
  | .ipv4 address => ipv4Text address
  | .ipv6 parts => "[" ++ ipv6Text parts ++ "]"

/-! ## Domains -/

/-- The address inside brackets, if the text opens with one. -/
def bracketed? (cs : List Char) : Option (Except Fault Host) :=
  match cs with
  | '[' :: r =>
    if r.getLast? == some ']' then
      match ipv6? r.dropLast with
      | some parts => some (.ok (.ipv6 parts))
      | none => some (.error .invalidIpv6)
    else some (.error .invalidIpv6)
  | _ => none

/-- The host of one of the web's own schemes. -/
def specialHost (cs : List Char) : Except Fault Host :=
  match bracketed? cs with
  | some r => r
  | none =>
    match asciiDomain? (percentDecode (Bytes.ofText (String.ofList cs))) with
    | none => .error .invalidDomainName
    | some [] => .error .emptyHost
    | some domain =>
      if endsInNumber domain then
        match ipv4? domain with
        | some address => .ok (.ipv4 address)
        | none => .error .invalidIpv4
      else .ok (.domain (String.ofList domain))

/-- The host of any other scheme. -/
def opaqueHost (cs : List Char) : Except Fault Host :=
  match bracketed? cs with
  | some r => r
  | none =>
    if cs.any fun c => "\x00\t\n\r #/:<>?@[\\]^|".toList.contains c then
      .error .invalidDomainCharacter
    else .ok (.domain (encodeText controlSet (String.ofList cs)))

end TileDepot.Url
