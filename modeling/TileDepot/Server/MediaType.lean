/-!
# Media types

Whether a content type says that a body is JSON. A content type is a type and a subtype with
parameters behind semicolons. Reading goes from left to right and ends at the first character that
cannot stand where it is.
-/

namespace TileDepot.Server.MediaType

/-- A character of a name. -/
def isTokenChar (c : Char) : Bool :=
  c.isAlphanum || "!#$%&'*+-.^_\x60|~".toList.contains c

/-- A character of a quoted value. -/
def isQuotedChar (c : Char) : Bool :=
  31 < c.toNat && c.toNat < 127

/-- How far the reading of parameters has come. -/
inductive Place where
  /-- Before a parameter, where blanks do not count. -/
  | start
  /-- In a parameter's name. -/
  | name
  /-- At the beginning of a value. -/
  | value
  /-- In a value without quotes. -/
  | plain
  /-- In a quoted value, of which the first character is still to come if `fresh` holds; as the
  first character a quote does not close the value. -/
  | quoted (fresh : Bool)
  /-- After a quoted value. -/
  | closed
  deriving Repr, DecidableEq

/-- The place after a character, unless it cannot stand here. -/
def Place.next? (p : Place) (c : Char) : Option Place :=
  match p with
  | .start => if c == ' ' then some .start else if isTokenChar c then some .name else none
  | .name => if c == '=' then some .value else if isTokenChar c then some .name else none
  | .value => if c == '"' then some (.quoted true) else if isTokenChar c then some .plain else none
  | .plain => if c == ';' then some .start else if isTokenChar c then some .plain else none
  | .quoted fresh =>
    if c == '"' && !fresh then some .closed
    else if isQuotedChar c then some (.quoted false) else none
  | .closed => if c == ';' then some .start else if c == ' ' then some .closed else none

/-- The parameters may end here. -/
def Place.isEnd : Place → Bool
  | .name => false
  | .quoted _ => false
  | _ => true

/-- What follows the first semicolon is well formed. -/
def areParameters (cs : List Char) : Bool :=
  (cs.foldlM Place.next? .start).any Place.isEnd

/-- The two names of a type are well formed. -/
def isName (cs : List Char) : Bool :=
  !cs.isEmpty && cs.all isTokenChar

/-- A subtype before its last plus sign, and what follows the sign. A plus sign at the front is part
of the name. -/
def splitSuffix (sub : List Char) : List Char × Option (List Char) :=
  let tail := (sub.reverse.takeWhile (· != '+')).reverse
  let front := sub.take (sub.length - tail.length - 1)
  if front.isEmpty then (sub, none) else (front, some tail)

/-- A subtype of JSON: `json` before its last plus sign or behind it. -/
def isJsonSubtype (sub : List Char) : Bool :=
  let (name, suffix) := splitSuffix sub
  name == "json".toList || suffix == some "json".toList

/-- A content type of JSON: one of `application`, in any case and with any parameters. -/
def isJson (contentType : String) : Bool :=
  let cs := contentType.toList
  let essence := cs.takeWhile (· != ';')
  let parameters := (cs.drop essence.length).drop 1
  let main := essence.takeWhile (· != '/')
  let sub := (essence.drop main.length).drop 1
  isName main && isName sub && areParameters parameters &&
    main.map Char.toLower == "application".toList && isJsonSubtype (sub.map Char.toLower)

end TileDepot.Server.MediaType
