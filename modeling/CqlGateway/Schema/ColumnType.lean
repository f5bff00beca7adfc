import CqlGateway.Text.Blank
import CqlGateway.Text.Case

/-!
# Generations and column types

The store has changed its metadata tables once.  The older generation lists the key columns of a
table as JSON in the row of the table; the newer one gives every column a type of its own, which is
its place in the table.
-/

namespace CqlGateway

/-! ### Generations -/

/-- A family of versions with the same metadata tables. -/
inductive Generation where
  | v1
  | v2
  deriving DecidableEq, Repr

namespace Generation

/-- The name of a generation. -/
def label : Generation → String
  | .v1 => "V1"
  | .v2 => "V2"

/-- The generation with a number. -/
def ofNumber? (n : Int) : Option Generation :=
  if n == 1 then some .v1 else if n == 2 then some .v2 else none

/-- The generation of a major version. -/
def ofMajorVersion (n : Int) : Generation :=
  if n < 2 then .v1 else .v2

end Generation

/-! ### Column types -/

/-- The place of a column in its table. -/
inductive ColumnType where
  | partitionKey
  | clusteringKey
  | regular
  | static
  | compactValue
  deriving DecidableEq, Repr

namespace ColumnType

/-- The name of a column type in lower case. -/
def word : ColumnType → String
  | .partitionKey => "partition_key"
  | .clusteringKey => "clustering_key"
  | .regular => "regular"
  | .static => "static"
  | .compactValue => "compact_value"

/-- The name of a column type in upper case. -/
def label : ColumnType → String
  | .partitionKey => "PARTITION_KEY"
  | .clusteringKey => "CLUSTERING_KEY"
  | .regular => "REGULAR"
  | .static => "STATIC"
  | .compactValue => "COMPACT_VALUE"

/-- All column types. -/
def all : List ColumnType :=
  [.partitionKey, .clusteringKey, .regular, .static, .compactValue]

/-- The column type with a name in upper case. -/
def ofLabel? (s : String) : Option ColumnType :=
  all.find? (·.label == s)

/-- The column type that a metadata text names, in any case and with blanks around it.  Newer tables
shorten the name of clustering keys. -/
def ofText? (s : String) : Option ColumnType :=
  let name := Text.strip s
  (ofLabel? (Text.upper name)).or
    (if Text.lower name == "clustering" then some .clusteringKey else none)

theorem ofLabel?_label (t : ColumnType) : ofLabel? t.label = some t := by
  cases t <;> decide

end ColumnType

end CqlGateway
