import TileDepot.Text.Integer
import TileDepot.Url.Host

/-!
# URLs

Absolute URLs, read and written by the rules of the URL standard: blanks at both ends and line
breaks anywhere are dropped, dot segments are resolved, and characters that may not stand for
themselves are encoded.
-/

namespace TileDepot

/-- An absolute URL. Every part is in its encoded form. -/
structure Url where
  scheme : String
  /-- Two slashes stand before the host, even before an empty one. -/
  hasAuthority : Bool
  username : String
  password : Option String
  host : Option Url.Host
  port : Option Nat
  /-- The path, with its leading slash unless it is opaque. -/
  path : String
  /-- The path has no segments, as in `data:x`. -/
  opaquePath : Bool
  query : Option String
  fragment : Option String
  deriving Repr

namespace Url

/-- The schemes of the web with their ports. -/
def specialPort? (scheme : String) : Option (Option Nat) :=
  match scheme with
  | "http" => some (some 80)
  | "https" => some (some 443)
  | "ws" => some (some 80)
  | "wss" => some (some 443)
  | "ftp" => some (some 21)
  | "file" => some none
  | _ => none

def isSpecial (scheme : String) : Bool :=
  (specialPort? scheme).isSome

/-- Slashes, of which special schemes know two. -/
def isSlash (special : Bool) (c : Char) : Bool :=
  c == '/' || (special && c == '\\')

/-- The input less what readers ignore. -/
def cleaned (s : String) : List Char :=
  let inner := ((s.toList.dropWhile (·.toNat ≤ 0x20)).reverse.dropWhile (·.toNat ≤ 0x20)).reverse
  inner.filter fun c => c != '\t' && c != '\n' && c != '\r'

/-- A scheme in lower case, and the text after its colon. -/
def splitScheme? (cs : List Char) : Option (String × List Char) :=
  let name := cs.takeWhile fun c => c.isAlphanum || c == '+' || c == '-' || c == '.'
  match name, cs.drop name.length with
  | c :: _, ':' :: rest =>
    if c.isAlpha then some (String.ofList (name.map Char.toLower), rest) else none
  | _, _ => none

/-! ## Authority -/

/-- User name and password, the host and the port, as they are written. -/
structure Authority where
  username : String
  password : Option String
  host : Option Host
  port : Option Nat

def Authority.empty : Authority := ⟨"", none, none, none⟩

/-- The last at-sign divides the user from the host. -/
def splitUser? (cs : List Char) : Option (List Char × List Char) :=
  if cs.contains '@' then
    let host := (cs.reverse.takeWhile (· != '@')).reverse
    some (cs.take (cs.length - host.length - 1), host)
  else none

/-- The characters up to the port's colon; colons in brackets belong to the host. -/
def spanHost : Bool → List Char → List Char × List Char
  | _, [] => ([], [])
  | inside, c :: r =>
    if c == ':' && !inside then ([], c :: r)
    else
      let inside := if c == '[' then true else if c == ']' then false else inside
      let (a, b) := spanHost inside r
      (c :: a, b)

/-- The port after a colon, and what stands behind it: nothing, or a path that a backslash begins.
The scheme's own port is the same as none. -/
def port? (default : Option Nat) (cs : List Char) : Except Fault (Option Nat × List Char) :=
  let (numeral, rest) := cs.span Char.isDigit
  let number := (Text.digits? numeral).getD 0
  if 65535 < number || !(rest.isEmpty || rest.head? == some '\\') then .error .invalidPort
  else .ok (if numeral.isEmpty || default == some number then none else some number, rest)

/-- Reads the text between the two slashes and the path; `last` holds when nothing follows it. What
stands behind the port is the start of the path. -/
def authority (scheme : String) (cs : List Char) (last : Bool) :
    Except Fault (Authority × List Char) := do
  let special := isSpecial scheme
  let (user, place) := match splitUser? cs with
    | some (u, h) => (some u, h)
    | none => (none, cs)
  if user == some [] && place.isEmpty && !last then .error .emptyHost
  let name := (user.getD []).takeWhile (· != ':')
  let secret := (user.getD []).drop (name.length + 1)
  let (hostChars, rest) := spanHost false place
  if special && hostChars.isEmpty then .error .emptyHost
  let host ← if special then specialHost hostChars else opaqueHost hostChars
  let hostless := host == .domain ""
  if hostless && !rest.isEmpty then .error .emptyHost
  let (port, rest) ← port? ((specialPort? scheme).getD none) (rest.drop 1)
  if hostless && !(name.isEmpty && secret.isEmpty) then .error .emptyHost
  return ({
    username := encodeText userInfoSet (String.ofList name)
    password :=
      if secret.isEmpty then none else some (encodeText userInfoSet (String.ofList secret))
    host := if hostless then none else some host
    port }, rest)

/-! ## Path -/

def isSingleDot (segment : String) : Bool :=
  [".", "%2e"].contains (segment.map Char.toLower)

def isDoubleDot (segment : String) : Bool :=
  ["..", "%2e.", ".%2e", "%2e%2e"].contains (segment.map Char.toLower)

/-- A letter with a colon or a bar names a drive. -/
def isDrive : List Char → Bool
  | [letter, mark] => letter.isAlpha && (mark == ':' || mark == '|')
  | _ => false

/-- A segment begins with a drive; what follows stands behind a backslash. -/
def beginsWithDrive (segment : String) : Bool :=
  match segment.toList with
  | letter :: mark :: rest =>
    isDrive [letter, mark] && (rest.isEmpty || rest.head? == some '\\')
  | _ => false

/-- Resolves dot segments; `done` holds the segments before, the nearest first. There is no way up
from a drive. A dot segment at the end leaves an empty segment, so that the path still ends in a
slash. -/
def resolveDots (done : List String) : List String → List String
  | [] => done.reverse
  | s :: r =>
    if isDoubleDot s then
      let above := if done.head?.any beginsWithDrive then done else done.drop 1
      resolveDots (if r.isEmpty then "" :: above else above) r
    else if isSingleDot s then resolveDots (if r.isEmpty then "" :: done else done) r
    else resolveDots (s :: done) r

/-- The segments of a path that begins after its first slash. -/
def segments (special : Bool) : List Char → List (List Char)
  | [] => [[]]
  | c :: r =>
    if isSlash special c then [] :: segments special r
    else match segments special r with
      | [] => [[c]]
      | p :: ps => (c :: p) :: ps

/-- A path after its first slash, in its resolved and encoded form. -/
def pathText (special : Bool) (cs : List Char) : String :=
  let encoded := (segments special cs).map fun s => encodeText pathSet (String.ofList s)
  "/" ++ "/".intercalate (resolveDots [] encoded)

/-! ## Reading -/

/-- The text up to the first of `stops`, and the rest. -/
def spanTo (stops : Char → Bool) (cs : List Char) : List Char × List Char :=
  (cs.takeWhile fun c => !stops c, cs.dropWhile fun c => !stops c)

/-- Path, query and fragment apart. -/
def splitTail (cs : List Char) : List Char × Option (List Char) × Option (List Char) :=
  let (front, hash) := spanTo (· == '#') cs
  let fragment := match hash with
    | _ :: r => some r
    | [] => none
  let (path, mark) := spanTo (· == '?') front
  let query := match mark with
    | _ :: r => some r
    | [] => none
  (path, query, fragment)

/-- Reads the path and what follows it. -/
def withTail (scheme : String) (a : Option Authority) (cs : List Char) : Url :=
  let special := isSpecial scheme
  let (path, query, fragment) := splitTail cs
  let opaquePath := !special && a.isNone && path.head? != some '/'
  let pathForm :=
    if opaquePath then encodeText controlSet (String.ofList path)
    else match path with
      | c :: r => if isSlash special c then pathText special r else pathText special path
      | [] => if special then "/" else ""
  let place := a.getD .empty
  { scheme
    hasAuthority := a.isSome
    username := place.username
    password := place.password
    host := place.host
    port := place.port
    path := pathForm
    opaquePath
    query := query.map fun q =>
      encodeText (if special then specialQuerySet else querySet) (String.ofList q)
    fragment := fragment.map fun f => encodeText fragmentSet (String.ofList f) }

/-! ## Files -/

/-- The host of a `file` URL: none for the empty one and for `localhost`. -/
def fileHost (cs : List Char) : Except Fault (Option Host) :=
  if cs.isEmpty then .ok none
  else do
    let host ← specialHost cs
    return if host == .domain "localhost" then none else some host

/-- The path of a `file` URL after its first slash, with a bar behind a drive's letter as a
colon. -/
def withColon (cs : List Char) : List Char :=
  match cs with
  | letter :: '|' :: r => if isDrive [letter, '|'] then letter :: ':' :: r else cs
  | _ => cs

/-- Reads a `file` URL after its host. A path that begins with a drive needs no host, and no path
begins with two slashes. -/
def withFilePath (host : Option Host) (cs : List Char) : Url :=
  let (front, tail) := spanTo (fun c => c == '?' || c == '#') cs
  let inner := match front with
    | c :: r => if isSlash true c then r else front
    | [] => []
  let onDrive := isDrive (spanTo (isSlash true) inner).1
  let path := if onDrive then withColon inner else inner
  let u := withTail "file" (some { Authority.empty with host := if onDrive then none else host })
    ('/' :: path ++ tail)
  { u with path := "/" ++ String.ofList (u.path.toList.dropWhile (· == '/')) }

/-- Reads a `file` URL after its scheme. A drive in the place of the host is part of the path. -/
def fileUrl (cs : List Char) : Except Fault Url := do
  match cs with
  | a :: b :: r =>
    if isSlash true a && isSlash true b then
      let (place, tail) := spanTo (fun c => isSlash true c || c == '?' || c == '#') r
      if isDrive place then return withFilePath none r
      else return withFilePath (← fileHost place) tail
    else return withFilePath none cs
  | _ => return withFilePath none cs

/-! ## All schemes -/

/-- Reads a URL after its scheme and the slashes before its host. -/
def hostUrl (scheme : String) (cs : List Char) : Except Fault Url := do
  let (place, tail) := spanTo (fun c => isSlash (isSpecial scheme) c || c == '?' || c == '#') cs
  let (a, rest) ← authority scheme place tail.isEmpty
  return withTail scheme (some a) (rest ++ tail)

/-- Reads an absolute URL. -/
def parse (s : String) : Except Fault Url :=
  match splitScheme? (cleaned s) with
  | none => .error .relativeWithoutBase
  | some ("file", rest) => fileUrl rest
  | some (scheme, rest) =>
    if isSpecial scheme then hostUrl scheme (rest.dropWhile (isSlash true))
    else
      match rest with
      | '/' :: '/' :: r => hostUrl scheme r
      | _ => .ok (withTail scheme none rest)

/-! ## Writing -/

/-- The user, if there is one, with the at-sign after it. -/
def userText (u : Url) : String :=
  match u.password with
  | some p => u.username ++ ":" ++ p ++ "@"
  | none => if u.username.isEmpty then "" else u.username ++ "@"

/-- The URL as text. Without a host, a path that begins with two slashes is kept apart from the
colon. -/
def text (u : Url) : String :=
  let place :=
    if u.hasAuthority then
      "//" ++ u.userText ++ ((u.host.map Host.text).getD "") ++ (match u.port with
        | some p => ":" ++ toString p
        | none => "")
    else if u.path.startsWith "//" then "/."
    else ""
  u.scheme ++ ":" ++ place ++ u.path ++
    (match u.query with
    | some q => "?" ++ q
    | none => "") ++
    (match u.fragment with
    | some f => "#" ++ f
    | none => "")

end Url

end TileDepot
