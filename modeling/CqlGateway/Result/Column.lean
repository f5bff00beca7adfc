import CqlGateway.Json.Tree
import CqlGateway.Schema.ColumnType
import CqlGateway.Schema.Identifier
import CqlGateway.Session.Answer
import CqlGateway.Value.Conversion

/-!
# Columns and rows of a result

A column of a result has a name, the type that the session reports and its place in its table.
Columns are told apart by the keys of their names alone.  A row holds its cells in order, without
those that are null.
-/

namespace CqlGateway

/-- A column of a result. -/
structure Column where
  name : Identifier .typedColumn
  dataType? : Option String := none
  type : ColumnType := .regular
  deriving DecidableEq

namespace Column

/-- The name as it was read. -/
def text (c : Column) : String :=
  c.name.text

/-- The form by which the name is looked up. -/
def key (c : Column) : String :=
  c.name.key

/-- The two columns have the same name, up to case. -/
def same (a b : Column) : Bool :=
  a.name.same b.name

/-- The JSON form of a text that may be missing. -/
def optionJson (s? : Option String) : Json :=
  match s? with
  | some s => .str s
  | none => .null

/-- Name, place and reported type. -/
def toJson (c : Column) : Json :=
  .obj [("name", .str c.text), ("type", .str c.type.word), ("data_type", optionJson c.dataType?)]

end Column

/-- A row of a result. -/
structure Row where
  cells : List (Column × Value)

namespace Row

/-- The columns of the cells. -/
def columns (r : Row) : List Column :=
  r.cells.map (·.1)

/-- The value of the first cell with a name, up to case. -/
def get? (r : Row) (name : String) : Option Value :=
  let key := Text.lower name
  (r.cells.find? fun cell => cell.1.key == key).map (·.2)

/-- The value of the first cell with a name, up to case, or another value if there is none. -/
def get (r : Row) (name : String) (default : Value) : Value :=
  (r.get? name).getD default

/-- The name of a cell as it was read, with the JSON form of the value. -/
def memberOf (room : Nat) (cell : Column × Value) : Except Failure (String × Json) := do
  let form ← cell.2.toJson room
  pure (cell.1.text, form)

/-- The JSON forms of the values by the names as they were read, if all values have one. -/
def members (room : Nat) (r : Row) : Except Failure (Members Json) :=
  (r.cells.mapM (memberOf room)).map Members.collapse

/-- The row as an object, if all its values have a JSON form. -/
def toJson (room : Nat) (r : Row) : Except Failure Json :=
  (r.members room).map .obj

end Row

end CqlGateway
