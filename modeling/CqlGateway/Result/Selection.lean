import CqlGateway.Result.Column

/-!
# Selections

A selection is a result reshaped for display.  Its columns are counted over all its rows: those that
occur more than once are *common* and can head the columns of a table, those that occur once are
*dynamic*.  Both lists are in the order of first occurrence, and show each column as it occurred
first.

The first column of the partition key identifies the rows.
-/

namespace CqlGateway

/-- A result reshaped for display. -/
structure Selection where
  common : List Column := []
  dynamic : List Column := []
  rows : List Row := []
  /-- The columns of the partition key, in the order of first occurrence. -/
  partitionColumns : List Column := []

namespace Selection

/-- The selection without rows. -/
def empty : Selection := {}

/-- There are no rows. -/
def isEmpty (s : Selection) : Bool :=
  s.rows.isEmpty

/-- The column that identifies the rows. -/
def partitionKey? (s : Selection) : Option Column :=
  s.partitionColumns.head?

/-- The partition key has several columns. -/
def hasCompositeKey (s : Selection) : Bool :=
  1 < s.partitionColumns.length

/-- The columns, the common ones first. -/
def columns (s : Selection) : List Column :=
  s.common ++ s.dynamic

/-- The members of the selection as an object, if all its values have a JSON form. -/
def members (room : Nat) (s : Selection) : Except Failure (Members Json) := do
  let rows ← s.rows.mapM (Row.toJson room)
  pure [("common_columns", .arr (s.common.map Column.toJson)),
    ("dynamic_columns", .arr (s.dynamic.map Column.toJson)),
    ("rows", .arr rows),
    ("partition_key", Column.optionJson (s.partitionKey?.map Column.text)),
    ("partition_key_columns", .arr (s.partitionColumns.map fun c => .str c.text))]

end Selection

end CqlGateway
