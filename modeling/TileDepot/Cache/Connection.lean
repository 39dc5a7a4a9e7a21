import TileDepot.Cache.Settings
import TileDepot.Url.Basic
import TileDepot.Url.Form

/-!
# Connections to Redis

Where and as whom to connect, read from a URI or put together from the settings. An address becomes
a URI first, so that what a URI cannot hold is refused.
-/

namespace TileDepot.Cache

/-- Where a store listens. -/
inductive Place where
  | tcp (host : String) (port : Nat)
  | tls (host : String) (port : Nat) (insecure : Bool)
  | socket (path : String)
  deriving Repr, DecidableEq

def Place.text : Place → String
  | .tcp host port => host ++ ":" ++ toString port
  | .tls host port _ => host ++ ":" ++ toString port
  | .socket path => path

/-- A place with a database and the user's credentials. -/
structure Connection where
  place : Place
  database : Int64
  username : Option String
  password : Option String
  deriving Repr, DecidableEq

/-- Why a URI describes no connection. -/
inductive UriFault where
  | notAUri
  | missingHost
  | missingPath
  | badDatabase
  | badUser
  | badPassword
  | badFragment
  | badProtocol (name : String)
  deriving Repr, DecidableEq

def UriFault.message : UriFault → String
  | .notAUri => "Redis URL did not parse- InvalidClientConfig"
  | .missingHost => "Missing hostname- InvalidClientConfig"
  | .missingPath => "Missing path- InvalidClientConfig"
  | .badDatabase => "Invalid database number- InvalidClientConfig"
  | .badUser => "Username is not valid UTF-8 string- InvalidClientConfig"
  | .badPassword => "Password is not valid UTF-8 string- InvalidClientConfig"
  | .badFragment => "only #insecure is supported as URL fragment- InvalidClientConfig"
  | .badProtocol name => "Invalid protocol version - InvalidClientConfig: " ++ name

namespace Connection

/-- The port if none is given. -/
def defaultPort : Nat := 6379

/-- An address as connections write it: IPv6 has no brackets, and an embedded IPv4 address is
written in its own form. -/
def hostName : Url.Host → String
  | .domain name => name
  | .ipv4 address => Url.ipv4Text address
  | .ipv6 parts =>
    if parts.take 6 == [0, 0, 0, 0, 0, 0xFFFF] then
      "::ffff:" ++ Url.ipv4Text (65536 * parts.getD 6 0 + parts.getD 7 0)
    else Url.ipv6Text parts

/-- The last value of a query's parameter. -/
def lastValue? (pairs : List (String × String)) (name : String) : Option String :=
  (pairs.reverse.find? fun p => p.1 == name).map (·.2)

def checkProtocol (pairs : List (String × String)) : Except UriFault Unit :=
  match lastValue? pairs "protocol" with
  | none => .ok ()
  | some name =>
    if ["2", "resp2", "3", "resp3"].contains name then .ok () else .error (.badProtocol name)

/-- The database that a numeral stands for. -/
def databaseOf (numeral : String) : Except UriFault Int64 :=
  match Text.int64? numeral with
  | some n => .ok n
  | none => .error .badDatabase

/-- The text of an encoded part of a URI. -/
def decoded (fault : UriFault) (part : String) : Except UriFault String :=
  match Bytes.toText? (Url.percentDecode (Bytes.ofText part)) with
  | some s => .ok s
  | none => .error fault

/-- A connection to a host: the path is the number of the database. -/
def ofHostUri (u : Url) (pairs : List (String × String)) : Except UriFault Connection := do
  let host ← match u.host with
    | some h => .ok (hostName h)
    | none => .error .missingHost
  let port := u.port.getD defaultPort
  let place ←
    if u.scheme == "rediss" then
      match u.fragment with
      | none => .ok (Place.tls host port false)
      | some f => if f == "insecure" then .ok (.tls host port true) else .error .badFragment
    else .ok (.tcp host port)
  let path := String.ofList (Tile.trimSlashes u.path.toList)
  let database ← if path.isEmpty then .ok 0 else databaseOf path
  let username ←
    if u.username.isEmpty then .ok none else (decoded .badUser u.username).map some
  let password ← match u.password with
    | some p => (decoded .badPassword p).map some
    | none => .ok none
  checkProtocol pairs
  return ⟨place, database, username, password⟩

/-- The path of a socket. A drive letter at its end is given a slash. -/
def socketPath? (u : Url) : Option String :=
  let isLocal := match u.host with
    | none => true
    | some h => h == .domain "localhost"
  if isLocal && !u.opaquePath && u.path.toList.head? == some '/' then
    let bytes := Url.percentDecode (Bytes.ofText u.path)
    let isDrive := match bytes.reverse with
      | mark :: letter :: _ :: _ =>
        (mark == 0x3A || mark == 0x7C) && (Char.ofNat letter.toNat).isAlpha
      | _ => false
    some (Bytes.toTextLossy (if isDrive then bytes ++ [0x2F] else bytes))
  else none

/-- A connection to a socket: database and credentials stand in the query. -/
def ofSocketUri (u : Url) (pairs : List (String × String)) : Except UriFault Connection := do
  let path ← match socketPath? u with
    | some p => .ok p
    | none => .error .missingPath
  let database ← match lastValue? pairs "db" with
    | some numeral => databaseOf numeral
    | none => .ok 0
  checkProtocol pairs
  return ⟨.socket path, database, lastValue? pairs "user", lastValue? pairs "pass"⟩

/-- The connection that a URI describes. -/
def ofUri (uri : String) : Except UriFault Connection :=
  match Url.parse uri with
  | .error _ => .error .notAUri
  | .ok u =>
    let pairs := Url.formPairs (u.query.getD "")
    if u.scheme == "redis" || u.scheme == "rediss" then ofHostUri u pairs
    else if u.scheme == "unix" || u.scheme == "redis+unix" then ofSocketUri u pairs
    else .error .notAUri

/-- The last colon divides the host from the port. -/
def splitPort? (address : List Char) : Option (List Char × List Char) :=
  if address.contains ':' then
    let port := (address.reverse.takeWhile (· != ':')).reverse
    some (address.take (address.length - port.length - 1), port)
  else none

/-- The host and the port of an address. -/
def hostAndPort (address : String) : Except Error (String × UInt16) := do
  match splitPort? address.toList with
  | none => .error (.config s!"address '{address}' has no port")
  | some (host, port) =>
    let opened := host.dropWhile (· == '[')
    if (opened.reverse.dropWhile (· == ']')).isEmpty then .error (.hostMissing address)
    else
      match Text.uint16? (String.ofList port) with
      | some n => return (String.ofList host, n)
      | none => .error (.config s!"invalid port in address '{address}'")

/-- The URI of the settings' address. -/
def addressUri (s : RedisSettings) : Except Error String := do
  match s.network with
  | .tcp =>
    let (host, port) ← hostAndPort s.address
    return (if s.tls then "rediss" else "redis") ++ "://" ++ host ++ ":" ++ toString port.toNat
  | .unix =>
    if Text.isBlankText s.address then .error (.config "unix network requires a socket path")
    else return "redis+unix://" ++ s.address

/-- The connection that settings describe. A URI that is not blank decides alone; else the address
does, with the settings' database and password. -/
def ofSettings (s : RedisSettings) : Except Error Connection := do
  match s.uri.filter fun u => !Text.isBlankText u with
  | some uri =>
    match ofUri uri with
    | .ok c => return c
    | .error f => .error (.config ("invalid uri: " ++ f.message))
  | none =>
    match ofUri (← addressUri s) with
    | .ok c =>
      return { c with database := s.database, password := s.password.filter fun p => !p.isEmpty }
    | .error f => .error (.config ("invalid address: " ++ f.message))

end Connection

end TileDepot.Cache
