import TileDepot.Query.Statement

/-!
# Columns

The columns of a task's table are quoted and listed for the column token. They are looked up only
for a template that mentions them, at most once, and only when a task's table is bound.
-/

namespace TileDepot.Query

/-- A name between double quotes; a quote inside is doubled. -/
def quoteColumn (name : String) : List Char :=
  '"' :: (name.toList.flatMap fun c => if c == '"' then ['"', '"'] else [c]) ++ ['"']

/-- The columns that a query lists: all but the geometry and `id`. -/
def listed (columns : List String) (geometry : String) : List String :=
  columns.filter fun c => c != geometry && c != "id"

/-- The list of columns as a query shows it. -/
def columnList (columns : List String) (geometry : String) : String :=
  String.ofList ([',', ' '].intercalate ((listed columns geometry).map quoteColumn))

/-- `cs` occurs in a text. -/
def occursIn (cs : List Char) : List Char → Bool
  | [] => cs.isEmpty
  | c :: r => cs.isPrefixOf (c :: r) || occursIn cs r

/-- The table whose columns a template needs. -/
def Bindings.lookupTable? (bs : Bindings) (template : String) : Option String :=
  if occursIn columnsToken.toList template.toList then bs.taskTable? else none

/-- Fills in a template, listing the columns of a table by `columnsOf` where they are needed. -/
def Bindings.fillWithColumns {m : Type → Type} [Monad m] (bs : Bindings)
    (columnsOf : String → m (Except TemplateError (List String))) (geometry template : String)
    (args : List Value) : m (Except TemplateError Statement) := do
  match bs.lookupTable? template with
  | none => return .ok (bs.fill none template args)
  | some table =>
    match ← columnsOf table with
    | .error e => return .error e
    | .ok columns => return .ok (bs.fill (some (columnList columns geometry)) template args)

end TileDepot.Query
