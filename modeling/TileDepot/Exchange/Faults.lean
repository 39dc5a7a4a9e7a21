import TileDepot.Files.LogFile
import TileDepot.Json.Access
import TileDepot.Server.Startup

/-!
# Errors in exchange

Errors as JSON: the kind, which is a word, and the message. Errors are read back from their kind and
their parts.
-/

namespace TileDepot

/-- An error as JSON. -/
def Json.fault (kind message : String) : Json :=
  .object [("error", .text kind), ("message", .text message)]

/-- An error of which only the kind is told. -/
def Json.bareFault (kind : String) : Json :=
  .object [("error", .text kind)]

/-- What came out, or the error in its place. -/
def Json.orFault (f : ε → Json) (g : α → Json) : Except ε α → Json
  | .ok a => g a
  | .error e => f e

namespace Tile

def KeyError.kind : KeyError → String
  | .invalidPath _ => "InvalidPath"
  | .invalidComponent _ _ => "InvalidComponent"

def KeyError.json (e : KeyError) : Json := .fault e.kind e.message

def KeyError.ofJson (j : Json) : KeyError :=
  let component : Component := match j.str "component" with
    | "x" => .x
    | "y" => .y
    | _ => .zoom
  match j.str "kind" with
  | "InvalidComponent" => .invalidComponent component (j.str "text")
  | _ => .invalidPath (j.str "text")

end Tile

namespace Query.TemplateError

def kind : TemplateError → String
  | .invalidParameter _ _ _ => "InvalidParameter"
  | .invalidDefinition _ => "InvalidDefinition"
  | .introspection _ => "Introspection"

def json (e : TemplateError) : Json := .fault e.kind e.message

def ofJson (j : Json) : TemplateError :=
  match j.str "kind" with
  | "InvalidParameter" => .invalidParameter (j.str "name") (j.str "value") (j.str "reason")
  | "InvalidDefinition" => .invalidDefinition (j.str "text")
  | _ => .introspection (j.str "text")

end Query.TemplateError

namespace Tile.Error

def kind : Tile.Error → String
  | .invalidRequest _ => "InvalidRequest"
  | .unknownMap _ => "UnknownMap"
  | .remote _ => "Upstream"
  | .database _ => "Database"
  | .template _ => "Template"
  | .body _ => "Body"
  | .timeout _ => "Timeout"

def json (e : Tile.Error) : Json := .fault e.kind e.message

def ofJson (j : Json) : Tile.Error :=
  match j.str "kind" with
  | "InvalidRequest" => .invalidRequest (.ofJson (j.field "key"))
  | "UnknownMap" => .unknownMap (j.str "text")
  | "Upstream" => .remote (j.str "text")
  | "Database" => .database (j.str "text")
  | "Template" => .template (.ofJson (j.field "template"))
  | "Timeout" => .timeout ⟨j.nat "nanos"⟩
  | _ => .body (j.str "text")

end Tile.Error

namespace Warming.Error

def kind : Warming.Error → String
  | .invalidBounds _ => "InvalidBounds"
  | .invalidTask _ => "InvalidTaskId"
  | .invalidZoom _ => "InvalidZoom"
  | .broken _ => "Join"

def json (e : Warming.Error) : Json := .fault e.kind e.message

def ofJson (j : Json) : Warming.Error :=
  match j.str "kind" with
  | "InvalidBounds" => .invalidBounds (j.nat "count")
  | "InvalidTaskId" => .invalidTask (j.str "text")
  | "InvalidZoom" => .invalidZoom (UInt32.ofNat (j.nat "zoom"))
  | _ => .broken (j.str "text")

end Warming.Error

namespace Cache.Error

def kind : Cache.Error → String
  | .config _ => "Config"
  | .hostMissing _ => "HostMissing"
  | .handshake _ => "Handshake"
  | .backend _ => "Backend"
  | .key _ => "Key"

def json (e : Cache.Error) : Json := .fault e.kind e.message

def ofJson (j : Json) : Cache.Error :=
  match j.str "kind" with
  | "Config" => .config (j.str "text")
  | "HostMissing" => .hostMissing (j.str "text")
  | "Handshake" => .handshake (j.str "text")
  | "Key" => .key (.ofJson (j.field "key"))
  | _ => .backend (j.str "text")

end Cache.Error

namespace Config

def InvalidValue.json (e : InvalidValue) : Json :=
  .merge (.fault "InvalidValue" e.message) <| .object [("section", .text e.sectionName),
    ("key", .text e.key), ("value", .text e.value), ("reason", .text e.reason)]

def InvalidValue.ofJson (j : Json) : InvalidValue :=
  ⟨j.str "section", j.str "key", j.str "value", j.str "reason"⟩

def LoadError.json : LoadError → Json
  | .notText => .bareFault "ReadError"
  | .notIni _ => .bareFault "ReadError"
  | .invalid e => e.json

end Config

namespace Server.StartError

/-- Of what another program says only the kind is told. -/
def json (e : StartError) : Json :=
  match e with
  | .settings _ => .fault "ConfigFile" e.message
  | .missing _ => .fault "Config" e.message
  | .cache _ => .fault "CacheStart" e.message
  | .generator _ => .fault "Generator" e.message
  | .database _ => .bareFault "Database"
  | .server _ => .bareFault "Server"

def ofJson (j : Json) : StartError :=
  match j.str "kind" with
  | "Config" => .missing (j.str "text")
  | "Server" => .server (j.str "text")
  | "CacheStart" => .cache (.ofJson (j.field "cause"))
  | "Generator" => .generator (.ofJson (j.field "cause"))
  | "Database" => .database (j.str "text")
  | _ => .settings (.ofJson (j.field "cause"))

end Server.StartError

/-- How JSON text fails to be what it should be. -/
def Json.Fault.json : Json.Fault → Json
  | .malformed => .bareFault "json-syntax"
  | .mismatched => .bareFault "json-data"

namespace Files

def Fault.kind : Fault → String
  | .notFound => "NotFound"
  | .alreadyExists => "AlreadyExists"
  | .notADirectory => "NotADirectory"
  | .isADirectory => "IsADirectory"
  | .nameTooLong => "InvalidFilename"
  | .badName => "InvalidInput"

/-- The message is told only if it does not depend on the machine. -/
def LogFile.Fault.json (e : LogFile.Fault) : Json :=
  match e with
  | .disk .badName => .fault "InvalidInput" e.message
  | .disk cause => .object [("error", .text cause.kind), ("message", .null)]
  | .noFileName _ => .fault "InvalidInput" e.message

end Files

end TileDepot
