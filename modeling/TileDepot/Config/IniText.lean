import TileDepot.Text.Blank
import TileDepot.Text.Bytes
import TileDepot.Text.Integer
import TileDepot.Text.Quoted

/-!
# INI text

Sections of keys and values as they stand in an INI file. Values may be quoted and may hold escapes;
a comment takes a line of its own. Sections and keys may be repeated, and the first of each counts.
A text that is no INI text has a fault at a line and a column.
-/

namespace TileDepot.Config

/-- A section with its pairs in order. Pairs before the first heading have no section name. -/
structure IniSection where
  name : Option String
  pairs : List (String × String)
  deriving Repr, DecidableEq

/-- The first value of a key. -/
def IniSection.get? (s : IniSection) (key : String) : Option String :=
  s.pairs.lookup key

/-- The sections of a file in order. -/
structure IniText where
  sections : List IniSection
  deriving Repr, DecidableEq

namespace IniText

/-- The first section of a name. -/
def section? (t : IniText) (name : String) : Option IniSection :=
  t.sections.find? fun s => s.name == some name

/-! ## Faults -/

/-- What is wrong with a text. -/
inductive Cause where
  /-- A comment stands behind something else. -/
  | inlineComment
  | missingKey
  /-- The text ends before any of these characters; `none` is the end itself, which is no stop
  inside an escape. -/
  | endOfText (expected : List (Option Char))
  /-- In a character code, a backslash that does not end its line stands before `found`. -/
  | brokenCode (found : Option Char)
  | unknownCode
  deriving Repr, DecidableEq

/-- A character as a fault shows it, if there is one. -/
def shownChar : Option Char → String
  | none => "None"
  | some '\'' => "Some('\\'')"
  | some '"' => "Some('\"')"
  | some c => "Some('" ++ String.ofList (Text.quotedChar c) ++ "')"

def Cause.message : Cause → String
  | .inlineComment => "doesn't support inline comment"
  | .missingKey => "missing key"
  | .endOfText expected =>
    "expecting \"[" ++ ", ".intercalate (expected.map shownChar) ++ "]\" but found EOF."
  | .brokenCode found => "expecting \"\\\\n\" but found \"" ++ shownChar found ++ "\"."
  | .unknownCode => "unknown character in \\xHH form"

/-- What is wrong with a text, and where. -/
structure Fault where
  line : Nat
  column : Nat
  cause : Cause
  deriving Repr, DecidableEq

def Fault.message (f : Fault) : String :=
  toString f.line ++ ":" ++ toString f.column ++ " " ++ f.cause.message

/-! ## Reading characters -/

/-- A place in the text: what is left, and the line and the column of its first character. -/
structure Place where
  rest : List Char
  line : Nat
  column : Nat

namespace Place

def start (cs : List Char) : Place := ⟨cs, 1, 1⟩

/-- The place after the first character. -/
def step (p : Place) : Place :=
  match p.rest with
  | [] => p
  | '\n' :: r => ⟨r, p.line + 1, 1⟩
  | _ :: r => ⟨r, p.line, p.column + 1⟩

/-- A fault here. Its column is that of the next character, and the end of a line counts as the
beginning of the next one. -/
def fault (p : Place) (cause : Cause) : Fault :=
  match p.rest with
  | [] => ⟨p.line, p.column, cause⟩
  | '\n' :: _ => ⟨p.line + 1, 1, cause⟩
  | _ :: _ => ⟨p.line, p.column + 1, cause⟩

/-- The place after `n` characters. -/
def skip (p : Place) : Nat → Place
  | 0 => p
  | n + 1 => p.step.skip n

/-- The place after the characters that satisfy `q`. -/
def skipWhile (q : Char → Bool) (p : Place) : Place :=
  p.skip (p.rest.takeWhile q).length

end Place

/-- What an escape of one letter stands for; any other character stands for itself. -/
def escaped (c : Char) : Char :=
  match c with
  | '0' => '\x00'
  | 'a' => '\x07'
  | 'b' => '\x08'
  | 't' => '\t'
  | 'r' => '\r'
  | 'n' => '\n'
  | c => c

/-- The character of a code of four hexadecimal digits, of which the first may be a plus sign. -/
def codeChar? (code : List Char) : Option Char := do
  let digits := match code with
    | '+' :: r => r
    | code => code
  let values ← digits.mapM Bytes.hexValue?
  let n := values.foldl (fun n d => 16 * n + d) 0
  if n.isValidChar then some (Char.ofNat n) else none

/-- The fault in a code that is cut short or holds a backslash: how far it is from the code's
beginning, and what it is. Of the code `n` characters are still to come. -/
def codeFault (expected : List (Option Char)) : Nat → List Char → Nat × Cause
  | 0, _ => (0, .unknownCode)
  | _ + 1, [] => (0, .endOfText expected)
  | n + 1, '\\' :: '\n' :: r =>
    if n == 0 then (1, .unknownCode)
    else
      let (far, cause) := codeFault expected n r
      (2 + far, cause)
  | _ + 1, '\\' :: r => (1, .brokenCode r.head?)
  | n + 1, _ :: r =>
    if n == 0 then (0, .unknownCode)
    else
      let (far, cause) := codeFault expected n r
      (1 + far, cause)

/-- Where text ends that is read. -/
structure Stops where
  chars : List Char
  /-- The end of the text is a stop too. -/
  atEnd : Bool := false

/-- The stops as a fault shows them. -/
def Stops.expected (s : Stops) : List (Option Char) :=
  s.chars.map some ++ if s.atEnd then [none] else []

/-- What reading up to a stop gives: the text with the place of the stop, or a cause with its
place. -/
abbrev Reading := Except (Cause × Place) (List Char × Place)

/-- Text up to a stop, which is left where it is. Without a stop, or with a broken escape, there is
a fault. `fuel` bounds the number of characters. -/
def readUntil (stops : Stops) : Nat → List Char → Place → Reading
  | 0, _, p => .error (.endOfText stops.expected, p)
  | fuel + 1, seen, p =>
    match p.rest with
    | [] =>
      if stops.atEnd then .ok (seen.reverse, p) else .error (.endOfText stops.expected, p)
    | c :: r =>
      if stops.chars.contains c then .ok (seen.reverse, p)
      else if c == '\\' then
        match r with
        | [] => readUntil stops fuel ('\\' :: seen) p.step
        | '\n' :: _ => readUntil stops fuel seen (p.skip 2)
        | 'x' :: code =>
          let four := code.take 4
          match if four.length == 4 && !four.contains '\\' then codeChar? four else none with
          | some c => readUntil stops fuel (c :: seen) (p.skip 6)
          | none =>
            let (far, cause) := codeFault stops.expected 4 code
            .error (cause, p.skip (2 + far))
        | d :: _ => readUntil stops fuel (escaped d :: seen) (p.skip 2)
      else readUntil stops fuel (c :: seen) p.step

/-- Text up to a stop. -/
def untilStop (stops : Stops) (p : Place) : Reading :=
  readUntil stops (p.rest.length + 1) [] p

/-- The same, with the fault where it is. -/
def untilStop? (stops : Stops) (p : Place) : Except Fault (List Char × Place) :=
  (untilStop stops p).mapError fun (cause, p) => p.fault cause

def keyEnd : Stops := { chars := ['=', ':'] }

def lineEnd : Stops := { chars := ['\n', '\r'], atEnd := true }

def isLineEnd (c : Char) : Bool := c == '\n' || c == '\r'

def isBlankOrTab (c : Char) : Bool := c == ' ' || c == '\t'

/-- The place after white space, or after the end of a line that an indented line follows. -/
def skipSpace : Nat → Place → Place
  | 0, p => p
  | fuel + 1, p =>
    match p.rest with
    | [] => p
    | c :: r =>
      if !Text.isBlank c then p
      else if isLineEnd c && (r.head?.any isBlankOrTab) then p.step
      else skipSpace fuel p.step

/-! ## Values -/

/-- The quoted parts at the front of a value, put together, and whether there are any. `fuel` bounds
their number. -/
def quotedParts : Nat → List Char → Bool → Place → Except Fault (List Char × Bool × Place)
  | 0, seen, any, p => .ok (seen, any, p)
  | fuel + 1, seen, any, p =>
    match p.rest with
    | q :: _ =>
      if q == '"' || q == '\'' then do
        let (text, p) ← untilStop? { chars := [q] } p.step
        quotedParts fuel (seen ++ text) true p.step
      else .ok (seen, any, p)
    | [] => .ok (seen, any, p)

/-- The value after an equals sign. Blanks at its end do not count, nor do those at its front,
unless they follow a quoted part. -/
def value (p : Place) : Except Fault (String × Place) := do
  let p := p.skipWhile fun c => Text.isBlank c && !isLineEnd c
  let (quoted, any, p) ← quotedParts (p.rest.length + 1) [] false p
  let (text, p) ← untilStop? lineEnd p
  let plain := if any then Text.dropBlanksEnd text else Text.trimChars text
  return (String.ofList (quoted ++ plain), p)

/-! ## Sections -/

/-- What has been read: the sections, the last one first and its last pair first, and the key that
waits for its value. -/
structure Draft where
  sections : List IniSection
  key : String

namespace Draft

def start : Draft := ⟨[⟨none, []⟩], ""⟩

/-- Opens a section. -/
def openSection (d : Draft) (name : String) : Draft :=
  { d with sections := ⟨some name, []⟩ :: d.sections }

/-- Adds a pair to the section that is open. -/
def addPair (d : Draft) (value : String) : Draft :=
  match d.sections with
  | [] => d
  | s :: ss => ⟨{ s with pairs := (d.key, value) :: s.pairs } :: ss, ""⟩

/-- The sections in order. -/
def finish (d : Draft) : IniText :=
  ⟨(d.sections.map fun s => { s with pairs := s.pairs.reverse }).reverse⟩

end Draft

/-- Reads a heading, the place being at its bracket. -/
def heading (d : Draft) (p : Place) : Except Fault (Draft × Place) := do
  let (name, p) ← untilStop? { chars := [']'] } p.step
  return (d.openSection (Text.trim (String.ofList name)), p.step)

/-- The draft with a key that waits for its value. -/
def withKey (d : Draft) (key : List Char) : Draft :=
  { d with key := Text.trim (String.ofList key) }

/-- What a step of reading gives: more to read, with white space passed over or not. -/
inductive Step where
  | settled (d : Draft) (p : Place)
  | restart (d : Draft) (p : Place)

/-- One step from the character `c` on. An indented line without a key is no fault. -/
def step (d : Draft) (p : Place) (c : Char) : Except Fault Step :=
  if c == ';' || c == '#' then
    if 1 < p.column then .error (p.fault .inlineComment)
    else .ok (.settled d ((p.skipWhile (· != '\n')).step))
  else if c == '[' then (heading d p).map fun (d, p) => .settled d p
  else if keyEnd.chars.contains c then
    if d.key.isEmpty then .error (p.fault .missingKey)
    else (value p.step).map fun (v, p) => .settled (d.addPair v) p
  else if isBlankOrTab c then
    let p := p.skipWhile isBlankOrTab
    match p.rest with
    | '[' :: _ => (heading d p).map fun (d, p) => .settled d p
    | '\n' :: _ => .ok (.restart d p.step)
    | '\r' :: _ => .ok (.restart d p.step)
    | _ =>
      match untilStop keyEnd p with
      | .ok (key, p) => .ok (.settled (withKey d key) p)
      | .error (_, p) => .ok (.settled d p)
  else if isLineEnd c then .ok (.settled d p.step)
  else (untilStop? keyEnd p).map fun (key, p) => .settled (withKey d key) p

/-- Reads to the end of the text; `fuel` bounds the number of steps. -/
def readAll : Nat → Draft → Place → Except Fault Draft
  | 0, d, _ => .ok d
  | fuel + 1, d, p =>
    match p.rest with
    | [] => .ok d
    | c :: _ => do
      match ← step d p c with
      | .restart d p => readAll fuel d p
      | .settled d p => readAll fuel d (skipSpace (p.rest.length + 1) p)

/-- Reads INI text. A byte order mark at its front is passed over. -/
def parse (s : String) : Except Fault IniText :=
  let cs := match s.toList with
    | '\uFEFF' :: r => r
    | cs => cs
  (readAll (2 * cs.length + 2) .start (.start cs)).map Draft.finish

end IniText

end TileDepot.Config
