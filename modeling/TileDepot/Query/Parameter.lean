import TileDepot.Query.Token
import TileDepot.Query.Value

/-!
# Query parameters

A parameter says which token of a query's template a request parameter fills, with which fragment,
and how its raw value is read. Some tokens are reserved: no parameter may fill them.
-/

namespace TileDepot.Query

/-- What goes wrong between a template and the query made from it. -/
inductive TemplateError where
  /-- A raw value that is not of its parameter's kind. -/
  | invalidParameter (name value reason : String)
  | invalidDefinition (reason : String)
  /-- The columns of the task's table could not be listed. -/
  | introspection (reason : String)
  deriving Repr, DecidableEq

def TemplateError.message : TemplateError → String
  | .invalidParameter name value reason =>
    s!"invalid value '{value}' for parameter '{name}': {reason}"
  | .invalidDefinition reason => s!"invalid parameter definition: {reason}"
  | .introspection reason => s!"column introspection failed: {reason}"

/-- Stands for the task's table. -/
def taskToken : String := "!TASKID!"

/-- Stands for the columns of the task's table. -/
def columnsToken : String := "!COLUMNS!"

/-- The tokens for the address of the tile. -/
def zoomToken : String := "!ZOOM!"

def xToken : String := "!X!"

def yToken : String := "!Y!"

def reservedTokens : List String :=
  [taskToken, columnsToken, zoomToken, xToken, yToken]

/-- A request parameter that fills a token. -/
structure Parameter where
  /-- The parameter's name in requests. -/
  name : String
  token : String
  /-- Stands in the token's place; the question mark in it marks the argument. -/
  fragment : String
  kind : Kind
  /-- The raw value when a request has none. -/
  default : Option String
  deriving Repr, DecidableEq

namespace Parameter

/-- Why a token and a fragment make no parameter. -/
def flaw? (token fragment : String) : Option String :=
  if !isToken token then some s!"token '{token}' must look like !NAME!"
  else if reservedTokens.contains token then some s!"token '{token}' is reserved"
  else if fragment.toList.count '?' != 1 then
    some s!"fragment for '{token}' must contain exactly one '?'"
  else none

/-- A parameter with a free token and a fragment that takes one argument. -/
def define (name token fragment : String) (kind : Kind) (default : Option String) :
    Except TemplateError Parameter :=
  match flaw? token fragment with
  | some reason => .error (.invalidDefinition reason)
  | none => .ok ⟨name, token, fragment, kind, default⟩

/-- The raw value of a parameter in a request: that of the first pair of its name, or else the
default. -/
def raw? (p : Parameter) (pairs : List (String × String)) : Option String :=
  match pairs.find? fun q => q.1 == p.name with
  | some (_, value) => some value
  | none => p.default

end Parameter

end TileDepot.Query
