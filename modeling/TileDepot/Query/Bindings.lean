import TileDepot.Query.Parameter

/-!
# Bindings

The values that one request binds to tokens, at most one for each token. The last binding of a token
counts.
-/

namespace TileDepot.Query

/-- A token bound to a value. -/
structure Binding where
  token : String
  fragment : String
  value : Value
  /-- The name and the raw value of the parameter that the value came from. -/
  param : String
  raw : String

/-- The bindings of a request, by token. -/
structure Bindings where
  entries : List Binding

namespace Bindings

def empty : Bindings := ⟨[]⟩

/-- What a token is bound to. -/
def get? (bs : Bindings) (token : String) : Option Binding :=
  bs.entries.find? fun b => b.token == token

/-- Binds a token anew. -/
def insert (bs : Bindings) (b : Binding) : Bindings :=
  ⟨bs.entries.filter (fun b' => b'.token != b.token) ++ [b]⟩

/-- The number of bound tokens. -/
def size (bs : Bindings) : Nat :=
  bs.entries.length

/-- Binds the task's table. -/
def setTask (bs : Bindings) (task : String) : Bindings :=
  bs.insert ⟨taskToken, "", .text task, "task_id", task⟩

/-- A token's name in lower case. -/
def tokenName (token : String) : String :=
  let inner := token.toList.dropWhile (· == '!')
  Text.lower (String.ofList (inner.reverse.dropWhile (· == '!')).reverse)

/-- Binds a token to a number. -/
def setInt (bs : Bindings) (token : String) (n : Int64) : Bindings :=
  bs.insert ⟨token, "?", .int n, tokenName token, toString n.toInt⟩

/-- Binds the parameters that a request has a raw value for, in order, up to the first raw value
that is not of its parameter's kind. -/
def addAll (bs : Bindings) (pairs : List (String × String)) :
    List Parameter → Except TemplateError Bindings
  | [] => .ok bs
  | p :: ps =>
    match p.raw? pairs with
    | none => addAll bs pairs ps
    | some raw =>
      match p.kind.value? raw with
      | none => .error (.invalidParameter p.name raw p.kind.expectation)
      | some value => addAll (bs.insert ⟨p.token, p.fragment, value, p.name, raw⟩) pairs ps

/-- The bindings of a request. An empty task is none. -/
def ofRequest (ps : List Parameter) (pairs : List (String × String)) (task : Option String) :
    Except TemplateError Bindings := do
  let bs ← addAll empty pairs ps
  match task with
  | some t => return if t.isEmpty then bs else bs.setTask t
  | none => return bs

/-- The task's table, if its name can stand in a query. -/
def taskTable? (bs : Bindings) : Option String :=
  match bs.get? taskToken with
  | some b => if isIdentifier b.raw then some b.raw else none
  | none => none

end Bindings

end TileDepot.Query
