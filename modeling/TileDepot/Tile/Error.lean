import TileDepot.Query.Parameter
import TileDepot.Text.Duration
import TileDepot.Tile.Key

/-!
# Errors of tile generation
-/

namespace TileDepot.Tile

/-- Why a tile could not be produced. -/
inductive Error where
  | invalidRequest (cause : KeyError)
  | unknownMap (map : String)
  /-- The server that the tile comes from failed or refused. -/
  | remote (reason : String)
  | database (reason : String)
  | template (cause : Query.TemplateError)
  /-- The body broke off. -/
  | body (reason : String)
  | timeout (limit : Duration)
  deriving Repr, DecidableEq

def Error.message : Error → String
  | .invalidRequest cause => "Invalid tile request: " ++ cause.message
  | .unknownMap map => "Unknown map '" ++ map ++ "'"
  | .remote reason => "Upstream error: " ++ reason
  | .database reason => "Database error: " ++ reason
  | .template cause => "Query template error: " ++ cause.message
  | .body reason => "Body error: " ++ reason
  | .timeout limit => "Tile generation timed out after " ++ limit.text

/-- What the cause of an error says, if it is an error of its own. -/
def Error.cause? : Error → Option String
  | .invalidRequest cause => some cause.message
  | .template cause => some cause.message
  | _ => none

end TileDepot.Tile
