import CqlGateway.Cql.Literal

/-!
# Metadata queries

The texts that are sent to read the metadata tables.  Each is fixed, but for one place that may hold
a name: `slot?` is the name of a query, and `cql` puts it there as a string literal.
-/

namespace CqlGateway

/-- A query of the metadata tables. -/
inductive MetadataQuery where
  /-- The version of the store. -/
  | release
  /-- All keyspaces. -/
  | keyspaces
  /-- The tables, of one keyspace or of all. -/
  | tables (keyspace? : Option String)
  /-- The tables of a name. -/
  | tablesNamed (table : String)
  /-- The indexes, of one keyspace or of all. -/
  | indexes (keyspace? : Option String)
  /-- So many column names, of one table or of all. -/
  | columns (table? : Option String) (limit : Nat)
  /-- The lists of key columns, of one table or of all. -/
  | keyAliases (table? : Option String)
  /-- The columns of a table with their types. -/
  | columnTypes (table : String)
  deriving DecidableEq, Repr

namespace MetadataQuery

/-- The name in a query. -/
def slot? : MetadataQuery → Option String
  | .release | .keyspaces => none
  | .tables name? | .indexes name? | .columns name? _ | .keyAliases name? => name?
  | .tablesNamed name | .columnTypes name => some name

/-- The text in front of the name; for a query without a name the text up to where it would stand.
-/
def front : MetadataQuery → String
  | .release => "select release_version from system.local"
  | .keyspaces => "select keyspace_name from system.schema_keyspaces"
  | .tables none => "select columnfamily_name from system.schema_columnfamilies"
  | .tables (some _) =>
    "select columnfamily_name from system.schema_columnfamilies where keyspace_name="
  | .tablesNamed _ =>
    "select columnfamily_name from system.schema_columnfamilies where columnfamily_name="
  | .indexes none => "SELECT index_name FROM system.schema_columns"
  | .indexes (some _) => "SELECT index_name FROM system.schema_columns where keyspace_name="
  | .columns none _ => "select column_name from system.schema_columns"
  | .columns (some _) _ =>
    "select column_name from system.schema_columns where columnfamily_name="
  | .keyAliases none =>
    "select columnfamily_name, key_aliases, column_aliases from system.schema_columnfamilies"
  | .keyAliases (some _) =>
    "select columnfamily_name, key_aliases, column_aliases from system.schema_columnfamilies" ++
      " where columnfamily_name="
  | .columnTypes _ =>
    "select column_name, type from system.schema_columns where columnfamily_name="

/-- The text behind the name. -/
def back : MetadataQuery → String
  | .release | .keyspaces | .tables _ | .indexes _ => ""
  | .tablesNamed _ | .keyAliases _ | .columnTypes _ => " allow filtering"
  | .columns _ limit => " limit " ++ toString limit ++ " allow filtering"

/-- The text of a query. -/
def cql (q : MetadataQuery) : String :=
  q.front ++ (q.slot?.map Literal.quote).getD "" ++ q.back

end MetadataQuery

end CqlGateway
