import CqlGateway.Collection.Search
import CqlGateway.Text.Case
import CqlGateway.Text.Quoted
import CqlGateway.Value.Basic

/-!
# Sessions and their answers

A session answers every CQL text.  It refuses a text with a fault, which is what it raises when it
cannot execute a statement, or it delivers a result set: names and types of columns, and rows, which
may be cut short by a fault.  `Answer.stream` is the view of an answer that everything else uses:
rows of cells, and the fault behind the last of them, if there is one.

A session may follow a script, which is a list of texts with answers (`Session.ofScript`).
-/

namespace CqlGateway

/-! ### Faults -/

/-- The kinds of faults. -/
inductive FaultKind where
  | runtime
  | connection
  | timeout
  | value
  | lookup
  | type
  | system
  | general
  deriving DecidableEq, Repr

/-- A fault with its message. -/
structure Fault where
  kind : FaultKind
  message : String
  deriving DecidableEq, Repr

/-- The text of a fault.  The message of a failed look-up is the key that was missed, and is quoted.
-/
def Fault.text (f : Fault) : String :=
  match f.kind with
  | .lookup => Text.quoted f.message
  | _ => f.message

/-! ### Columns and rows -/

/-- The type of a column as a session describes it. -/
inductive TypeTag where
  /-- A type with its own text, parameters included. -/
  | parameterized (text : String)
  /-- Any other description, null for none. -/
  | described (value : Value)

/-- The text of a column type. -/
def TypeTag.text? : TypeTag → Option String
  | .parameterized text => some text
  | .described .null => none
  | .described v => some v.display

/-- A column of a row. -/
structure Cell where
  name : String
  dataType? : Option String
  value : Value

/-- The form of the name by which a column is looked up. -/
def Cell.key (c : Cell) : String :=
  Text.lower c.name

/-- The value of the first cell with a name, up to case; null if there is none. -/
def valueOf (cells : List Cell) (name : String) : Value :=
  let key := Text.lower name
  ((cells.find? fun c => c.key == key).map Cell.value).getD .null

/-- Rows of cells, and the fault that ends them. -/
structure RowStream where
  rows : List (List Cell) := []
  interruption? : Option Fault := none

/-- A described result: names and types of the columns, no types meaning that none is known, and
rows of values, with the fault that ends them. -/
structure ResultSet where
  names : List String
  types : List TypeTag := []
  rows : List (List Value) := []
  interruption? : Option Fault := none

namespace ResultSet

/-- The texts of the column types. -/
def typeTexts (r : ResultSet) : List (Option String) :=
  if r.types.isEmpty then r.names.map fun _ => none else r.types.map TypeTag.text?

/-- The cells of a row: as many as there are names, types and values. -/
def cells (r : ResultSet) (values : List Value) : List Cell :=
  ((r.names.zip r.typeTexts).zip values).map fun ((name, dataType?), value) =>
    ⟨name, dataType?, value⟩

/-- The rows of a result.  A result without named columns has none and ends without a fault. -/
def stream (r : ResultSet) : RowStream :=
  if r.names.isEmpty then {} else ⟨r.rows.map r.cells, r.interruption?⟩

end ResultSet

/-! ### Answers -/

/-- The answer to a CQL text. -/
inductive Answer where
  | refused (fault : Fault)
  | delivered (result : ResultSet)

/-- The rows of an answer.  A refusal is a fault before the first row. -/
def Answer.stream : Answer → RowStream
  | .refused f => { interruption? := some f }
  | .delivered r => r.stream

/-- A session answers every CQL text. -/
abbrev Session := String → Answer

/-! ### Scripts -/

/-- An entry of a script. -/
structure ScriptEntry where
  /-- The text that the CQL text has to contain. -/
  pattern : String
  answer : Answer

/-- The session of a script.  It answers with the first entry whose text is contained in the CQL
text, and with an empty result if there is none. -/
def Session.ofScript (script : List ScriptEntry) : Session := fun cql =>
  match script.find? fun e => isInside e.pattern.toList cql.toList with
  | some e => e.answer
  | none => .delivered { names := [] }

end CqlGateway
