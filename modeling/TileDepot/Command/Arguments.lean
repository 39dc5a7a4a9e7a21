import TileDepot.Text.Integer

/-!
# Command lines

A command line is read level by level: the options of a level come in any order before or after one
another, and the first word that is no option names the level below. An option is given at most once
on its level. The configuration file may be named on every level; the deepest one counts.
-/

namespace TileDepot.Command

/-- An option that takes a value. -/
structure OptionRule where
  /-- The name behind two dashes. -/
  name : String
  /-- The value may begin with a dash. -/
  takesDashes : Bool := false
  /-- The values that the option can have. -/
  accepts : String → Bool := fun _ => true

/-- Why a command line asks for nothing to be run. -/
inductive Stop where
  | misuse
  | help
  | version
  deriving Repr, DecidableEq

/-- The options of a level with their values. -/
abbrev Given := List (String × String)

/-- What a level is. -/
structure Level where
  options : List OptionRule
  /-- A word may follow that names the level below. -/
  hasWords : Bool
  hasVersion : Bool := false

/-- A text that looks like an option and not like a value. -/
def isOption (s : String) : Bool :=
  match s.toList with
  | '-' :: _ :: _ => true
  | _ => false

/-- The name in an option, and the value that is joined to it. -/
def splitOption (cs : List Char) : String × Option String :=
  let name := cs.takeWhile (· != '=')
  (String.ofList name,
    if name.length < cs.length then some (String.ofList (cs.drop (name.length + 1))) else none)

namespace Level

/-- Notes an option's value. -/
def note (r : OptionRule) (value : String) (given : Given) : Except Stop Given :=
  if (given.lookup r.name).isSome || !r.accepts value then .error .misuse
  else .ok (given ++ [(r.name, value)])

/-- What an option without a value asks for. -/
def flag (l : Level) (name : String) : Stop :=
  if name == "help" || name == "h" then .help
  else if l.hasVersion && (name == "version" || name == "V") then .version
  else .misuse

/-- Reads a level: its options, and the word that follows with the rest of the line. -/
def read (l : Level) (given : Given) :
    List String → Except Stop (Given × Option (String × List String))
  | [] => .ok (given, none)
  | arg :: rest =>
    match arg.toList with
    | ['-', '-'] => if rest.isEmpty then .ok (given, none) else .error .misuse
    | '-' :: '-' :: body =>
      let (name, joined) := splitOption body
      match l.options.find? fun r => r.name == name, joined, rest with
      | some r, some value, rest => do l.read (← note r value given) rest
      | some r, none, value :: rest =>
        if isOption value && !r.takesDashes then .error .misuse
        else do l.read (← note r value given) rest
      | some _, none, [] => .error .misuse
      | none, some _, _ => .error .misuse
      | none, none, _ => .error (l.flag name)
    | '-' :: letter :: _ => .error (l.flag (String.ofList [letter]))
    | _ => if l.hasWords then .ok (given, some (arg, rest)) else .error .misuse

end Level

/-- What is done by settings that are loaded. -/
inductive Action where
  /-- Runs the server, perhaps at another address than the settings say. -/
  | serve (bind : Option String)
  /-- Carries out one run. -/
  | warm (task bounds : String) (minZoom maxZoom : UInt32) (baseUrl : Option String)
    (concurrency : Option UInt64)
  /-- Removes one tile from the cache. -/
  | purge (path : String) (query : Option String)
  deriving Repr, DecidableEq

/-- What is done with the configuration file. -/
inductive FileAction where
  | showSettings
  | showPath
  /-- Writes a file with the default settings if there is none. -/
  | writeDefaults
  deriving Repr, DecidableEq

/-- What a command line asks for. -/
inductive Request where
  | act (a : Action)
  | file (a : FileAction)
  deriving Repr, DecidableEq

/-- A command line. -/
structure Arguments where
  /-- The configuration file. -/
  config : Option String
  request : Request
  deriving Repr, DecidableEq

/-- The option that all levels have. -/
def configOption : OptionRule where
  name := "config"
  accepts value := !value.isEmpty

/-- A zoom level as an option's value: any signed numeral whose value fits 32 bits without a sign,
so that a minus sign before zeros is taken. -/
def zoom? (value : String) : Option UInt32 :=
  (Text.integer? value.toList).bind fun n =>
    if 0 ≤ n && n < 0x100000000 then some (UInt32.ofNat n.toNat) else none

/-- An option whose value is a zoom level. -/
def zoomOption (name : String) : OptionRule where
  name
  accepts value := (zoom? value).isSome

def topLevel : Level where
  options := [configOption]
  hasWords := true
  hasVersion := true

def serveLevel : Level where
  options := [configOption, { name := "bind" }]
  hasWords := false

def warmLevel : Level where
  options := [
    configOption,
    { name := "task-id" },
    { name := "bounds", takesDashes := true },
    zoomOption "minzoom",
    zoomOption "maxzoom",
    { name := "base-url" },
    { name := "concurrency", accepts := fun value => (Text.uint64? value).isSome }]
  hasWords := false

def purgeLevel : Level where
  options := [configOption, { name := "path" }, { name := "query" }]
  hasWords := false

def configLevel : Level where
  options := [configOption]
  hasWords := true

/-- A level without options of its own and without words. -/
def bareLevel : Level where
  options := [configOption]
  hasWords := false

/-- The words that name the levels below the one that `above` leads to. -/
def wordsBelow : (above : List String) → List String
  | [] => ["serve", "warm", "purge", "config", "help"]
  | ["config"] => ["show", "path", "init", "help"]
  | _ => []

/-- What a request for help asks for: its words have to lead to a level. -/
def helpOn (above : List String) : List String → Stop
  | [] => .help
  | word :: rest =>
    if (wordsBelow above).contains word then helpOn (above ++ [word]) rest else .misuse

/-- What the options of a run say; four of them must be there. -/
def warmAction? (given : Given) : Option Action := do
  return .warm (← given.lookup "task-id") (← given.lookup "bounds")
    (← (given.lookup "minzoom").bind zoom?) (← (given.lookup "maxzoom").bind zoom?)
    (given.lookup "base-url") ((given.lookup "concurrency").bind Text.uint64?)

/-- What the options of a purge say. -/
def purgeAction? (given : Given) : Option Action := do
  return .purge (← given.lookup "path") (given.lookup "query")

/-- Reads the last level of a line, on which nothing but options stand. -/
def readLast (l : Level) (outer : Given) (rest : List String) (request? : Given → Option Request) :
    Except Stop Arguments := do
  let (given, _) ← l.read [] rest
  match request? given with
  | some request =>
    return ⟨(given.lookup "config").or (outer.lookup "config"), request⟩
  | none => .error .misuse

/-- Reads the level of the commands for settings. -/
def readConfigLevel (outer : Given) (rest : List String) : Except Stop Arguments := do
  let (given, word) ← configLevel.read [] rest
  let outer := given ++ outer
  match word with
  | some ("show", rest) => readLast bareLevel outer rest fun _ => some (.file .showSettings)
  | some ("path", rest) => readLast bareLevel outer rest fun _ => some (.file .showPath)
  | some ("init", rest) => readLast bareLevel outer rest fun _ => some (.file .writeDefaults)
  | some ("help", rest) => .error (helpOn ["config"] rest)
  | _ => .error .misuse

/-- Reads a command line, without the program's own name. -/
def Arguments.parse (line : List String) : Except Stop Arguments := do
  let (outer, word) ← topLevel.read [] line
  match word with
  | some ("serve", rest) =>
    readLast serveLevel outer rest fun given =>
      some (.act (.serve (given.lookup "bind")))
  | some ("warm", rest) =>
    readLast warmLevel outer rest fun given => (warmAction? given).map .act
  | some ("purge", rest) =>
    readLast purgeLevel outer rest fun given => (purgeAction? given).map .act
  | some ("config", rest) => readConfigLevel outer rest
  | some ("help", rest) => .error (helpOn [] rest)
  | _ => .error .misuse

end TileDepot.Command
