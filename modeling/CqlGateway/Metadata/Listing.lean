import CqlGateway.Metadata.TypeLookup
import CqlGateway.Schema.Identifier

/-!
# Listings

The keyspaces, tables, columns and indexes that the metadata tables hold.  A listing whose query
fails is empty, and an existence check whose query fails is negative.

The generations differ in two places: the older one has no metadata of indexes, and its column
listing lacks the partition keys, which are read from the lists of key columns instead.
-/

namespace CqlGateway.Listing

/-- The values of the column `name` in the rows. -/
def column (rows : List (List Cell)) (name : String) : List Value :=
  rows.map fun row => valueOf row name

/-- A name for a report, which has none if no name was given. -/
def nameText {c : NameClass} (name? : Option (Identifier c)) : String :=
  (name?.map Identifier.text).getD "None"

/-- All keyspaces. -/
def keyspaces (ex : Executor) : Outcome (List Keyspace) := do
  match ← ex.executeSilent MetadataQuery.keyspaces.cql with
  | some rows => pure (Identifier.listing .keyspace (column rows "keyspace_name"))
  | none =>
    .report .keyspacesUnavailable
    pure []

/-- Whether there is a keyspace of this name; no name names none. -/
def keyspaceExists (ex : Executor) (keyspace? : Option Keyspace) : Outcome Bool :=
  match keyspace? with
  | none => pure false
  | some keyspace => do
    let all ← keyspaces ex
    pure (all.any keyspace.same)

/-- The tables of a keyspace, or of all. -/
def tables (ex : Executor) (keyspace? : Option Keyspace) : Outcome (List Table) := do
  match ← ex.executeSilent (MetadataQuery.tables (keyspace?.map Identifier.key)).cql with
  | some rows => pure (Identifier.listing .table (column rows "columnfamily_name"))
  | none =>
    .report (.tablesUnavailable (nameText keyspace?))
    pure []

/-- Whether there is a table of this name; no name names none. -/
def tableExists (ex : Executor) (table? : Option Table) : Outcome Bool :=
  match table? with
  | none => pure false
  | some table => do
    match ← ex.executeSilent (MetadataQuery.tablesNamed table.key).cql with
    | some rows => pure (!rows.isEmpty)
    | none => pure false

/-- The indexes of a keyspace, or of all. -/
def indexes (generation : Generation) (ex : Executor) (keyspace? : Option Keyspace) :
    Outcome (List (Identifier .index)) :=
  match generation with
  | .v1 => pure []
  | .v2 => do
    match ← ex.executeSilent (MetadataQuery.indexes (keyspace?.map Identifier.key)).cql with
    | some rows => pure (Identifier.listing .index (column rows "index_name"))
    | none =>
      .report (.indexesUnavailable (nameText keyspace?))
      pure []

/-! ### Columns -/

/-- The names that the rows list as partition keys. -/
def partitionKeyNames (room : Nat) : List (List Cell) → Outcome (List (Identifier .column))
  | [] => pure []
  | row :: rest => do
    let names ← readAliases room (valueOf row "key_aliases")
    let more ← partitionKeyNames room rest
    pure (names.filterMap (Identifier.ofText? .column) ++ more)

/-- The partition keys of a table, or of all, from the lists of key columns. -/
def partitionKeys (ex : Executor) (table? : Option Table) :
    Outcome (List (Identifier .column)) := do
  match ← ex.executeSilent (MetadataQuery.keyAliases (table?.map Identifier.key)).cql with
  | some rows => partitionKeyNames ex.room rows
  | none =>
    .report (.partitionKeysUnavailable (nameText table?))
    pure []

/-- The columns of a table, or of all; no more than `limit` rows of the metadata table are asked
for. -/
def columns (generation : Generation) (ex : Executor) (limit : Nat) (table? : Option Table) :
    Outcome (List (Identifier .column)) := do
  match ← ex.executeSilent (MetadataQuery.columns (table?.map Identifier.key) limit).cql with
  | none =>
    .report .columnsUnavailable
    pure []
  | some rows =>
    let listed := Identifier.listing .column (column rows "column_name")
    match generation with
    | .v2 => pure listed
    | .v1 =>
      let keys ← partitionKeys ex table?
      pure (Identifier.sortedDistinct (listed ++ keys))

end CqlGateway.Listing
