import CqlGateway.Cql.Naming
import CqlGateway.Metadata.Aliases
import CqlGateway.Metadata.Template
import CqlGateway.Metadata.TypeMap
import CqlGateway.Session.Execution

/-!
# Looking up column types

The column types of the table that a query reads from.  The newer generation has a row for each
column; later rows win over earlier ones.  The older one has the names of the clustering and of the
partition key columns in the row of the table; of a row the partition key wins, and later rows win
over earlier ones.

A lookup that fails gives the empty map.
-/

namespace CqlGateway

/-! ### Cells that hold names -/

/-- A byte string without the white space of ASCII at both ends. -/
def stripBytes (bytes : List UInt8) : List UInt8 :=
  let isSpace (b : UInt8) : Bool := b == 0x20 || (0x09 ≤ b && b ≤ 0x0D)
  ((bytes.dropWhile isSpace).reverse.dropWhile isSpace).reverse

/-- The text or byte string in a cell without the blanks around it; a value that is not given counts
as an empty text. -/
def trimmedCell (v : Value) : Except Failure Value :=
  if !v.isTruthy then .ok (.text "")
  else match v with
    | .text s => .ok (.text (Text.strip s))
    | .bytes b => .ok (.bytes (stripBytes b))
    | .buffer b => .ok (.buffer (stripBytes b))
    | _ => .error (.notTrimmable v.qualifiedTypeName)

/-- The column type that a value names.  What names none is reported and counts as regular. -/
def readColumnType (v : Value) : Outcome ColumnType :=
  let type? : Except Failure (Option ColumnType) :=
    match trimmedCell v with
    | .error e => .error e
    | .ok (.text s) => .ok (ColumnType.ofText? s)
    | .ok (.buffer b) => .error (.notHashable (Value.buffer b).typeName)
    | .ok _ => .ok none
  match type? with
  | .error e => .fail e
  | .ok (some type) => pure type
  | .ok none => do
    .report (.columnTypeUnsupported v.display)
    pure .regular

namespace TypeMap

/-! ### The newer generation -/

/-- Enters the column of a metadata row, if it has a name and a type. -/
def addColumn (m : TypeMap) (row : List Cell) : Outcome TypeMap := do
  let type ← .ofExcept (trimmedCell (valueOf row "type"))
  let name ← .ofExcept (trimmedCell (valueOf row "column_name"))
  if type.isTruthy && name.isTruthy then
    let type ← readColumnType type
    let key ← .ofExcept (TypeKey.ofName name)
    pure (m.insert key type)
  else
    pure m

/-! ### The older generation -/

/-- Enters the key columns of a metadata row. -/
def addAliases (room : Nat) (m : TypeMap) (row : List Cell) : Outcome TypeMap := do
  let clustering ← readAliases room (valueOf row "column_aliases")
  let m := m.insertNames clustering .clusteringKey
  let partition ← readAliases room (valueOf row "key_aliases")
  pure (m.insertNames partition .partitionKey)

/-! ### Lookups -/

/-- Enters rows one after the other. -/
def addRows (add : TypeMap → List Cell → Outcome TypeMap) (m : TypeMap) :
    List (List Cell) → Outcome TypeMap
  | [] => pure m
  | row :: rest => do
    let m ← add m row
    addRows add m rest

/-- The types of the columns of the table that a query reads from. -/
def lookup (generation : Generation) (ex : Executor) (q : Query) : Outcome TypeMap :=
  match q.sourceTable? with
  | none => do
    .report (.tableNotFound q.cql)
    pure empty
  | some table => do
    let name := table.text
    match generation with
    | .v1 =>
      match ← ex.executeSilent (MetadataQuery.keyAliases (some name)).cql with
      | some rows => addRows (addAliases ex.room) empty rows
      | none =>
        .report (.keyAliasesUnavailable name)
        pure empty
    | .v2 =>
      match ← ex.executeSilent (MetadataQuery.columnTypes name).cql with
      | some rows => addRows addColumn empty rows
      | none =>
        .report (.columnTypesUnavailable name)
        pure empty

end TypeMap

end CqlGateway
