import TileDepot.Query.Bindings

/-!
# Filling in templates

A template becomes a query: the task's token gives way to the task's table, the column token to the
columns of that table, and each other bound token to its fragment with a numbered argument. Text
that is put in is not looked at again, and a token that is not bound stays.
-/

namespace TileDepot.Query

/-- A query with the arguments it takes. -/
structure Statement where
  sql : String
  args : List Value

/-- A fragment for the `n`-th argument. -/
def numbered (fragment : String) (n : Nat) : List Char :=
  fragment.toList.flatMap fun c => if c == '?' then '$' :: Nat.toDigits 10 n else [c]

/-- What stands in a token's place, and the argument that it takes; `n` is the number of the next
argument. -/
def Bindings.resolve (bs : Bindings) (columns : Option String) (n : Nat) (token : String) :
    Option (List Char) × List Value :=
  if token == taskToken then (bs.taskTable?.map String.toList, [])
  else if token == columnsToken then (columns.map String.toList, [])
  else
    match bs.get? token with
    | some b => (some (numbered b.fragment n), [b.value])
    | none => (none, [])

/-- What stands in the place of each of several tokens, and all arguments after `args`. -/
def Bindings.resolveAll (bs : Bindings) (columns : Option String) (args : List Value) :
    List String → List (String × Option (List Char)) × List Value
  | [] => ([], args)
  | t :: ts =>
    let (text, new) := bs.resolve columns (args.length + 1) t
    let (table, args) := resolveAll bs columns (args ++ new) ts
    ((t, text) :: table, args)

/-- A piece of the template as it stands in the query. -/
def Piece.substitute (table : List (String × Option (List Char))) (p : Piece) : List Char :=
  match p.token? with
  | none => p.chars
  | some t => ((table.lookup t).join).getD p.chars

/-- Fills in a template; new arguments follow `args`. -/
def Bindings.fill (bs : Bindings) (columns : Option String) (template : String)
    (args : List Value) : Statement :=
  let pieces := scan template
  let (table, args) := bs.resolveAll columns args (tokens pieces)
  ⟨String.ofList (pieces.flatMap (Piece.substitute table)), args⟩

end TileDepot.Query
