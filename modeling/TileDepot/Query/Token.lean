/-!
# Tokens

A token is a name between two exclamation marks. `scan` cuts a template into tokens and the text
between them, leftmost tokens first: an exclamation mark that ends a token opens no other.
-/

namespace TileDepot.Query

/-- A character of ASCII that a word of a query may hold. -/
def isWordChar (c : Char) : Bool :=
  c.isAlphanum || c == '_'

/-- A character of a token's name. -/
def isTokenChar (c : Char) : Bool :=
  isWordChar c || c == '-'

/-- A text that can stand in a query as a bare name. -/
def isIdentifier (s : String) : Bool :=
  !s.isEmpty && s.toList.all isWordChar

/-- The rest of a token, after its first mark and after some of its name if `named` holds. -/
def isTokenTail (named : Bool) : List Char → Bool
  | [] => false
  | c :: r => if isTokenChar c then isTokenTail true r else c == '!' && named && r.isEmpty

/-- Exactly one token. -/
def isTokenChars : List Char → Bool
  | '!' :: r => isTokenTail false r
  | _ => false

/-- A text that is exactly one token. -/
def isToken (s : String) : Bool :=
  isTokenChars s.toList

/-- A piece of a template. -/
inductive Piece where
  | literal (cs : List Char)
  /-- The token with this name. -/
  | token (name : List Char)
  deriving Repr, DecidableEq

namespace Piece

/-- The characters of a piece as they stand in the template. -/
def chars : Piece → List Char
  | .literal cs => cs
  | .token name => '!' :: (name ++ ['!'])

/-- The token in this piece. -/
def token? : Piece → Option String
  | .literal _ => none
  | .token name => some (String.ofList ('!' :: (name ++ ['!'])))

/-- A literal piece, unless it is empty. -/
def literals (cs : List Char) : List Piece :=
  if cs.isEmpty then [] else [.literal cs]

end Piece

/-- Cuts up what follows `seen`, the literal text since the last token in reverse. After an
exclamation mark `name` holds the characters that may become a token's name, in reverse. -/
def scanFrom (seen : List Char) (name : Option (List Char)) : List Char → List Piece
  | [] =>
    match name with
    | none => Piece.literals seen.reverse
    | some n => Piece.literals (seen.reverse ++ '!' :: n.reverse)
  | c :: r =>
    match name with
    | none => if c == '!' then scanFrom seen (some []) r else scanFrom (c :: seen) none r
    | some n =>
      if isTokenChar c then scanFrom seen (some (c :: n)) r
      else if c == '!' then
        if n.isEmpty then scanFrom ('!' :: seen) (some []) r
        else Piece.literals seen.reverse ++ .token n.reverse :: scanFrom [] none r
      else scanFrom (c :: (n ++ '!' :: seen)) none r

/-- The pieces of a template. -/
def scan (template : String) : List Piece :=
  scanFrom [] none template.toList

/-- The tokens of a template, each at its first occurrence. -/
def tokens (pieces : List Piece) : List String :=
  (pieces.filterMap Piece.token?).foldl
    (fun seen t => if seen.contains t then seen else seen ++ [t]) []

end TileDepot.Query
