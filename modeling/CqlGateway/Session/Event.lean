import CqlGateway.Schema.ColumnType

/-!
# Events

What the gateway reports while it works.  An event has a level, a source and a text.
-/

namespace CqlGateway

/-- How much an event matters. -/
inductive Level where
  | debug
  | info
  | warning
  deriving DecidableEq, Repr

/-- The part of the gateway that reports an event. -/
inductive Source where
  | connection
  | execution
  | columnTypes
  | listings
  | materialization
  | service
  deriving DecidableEq, Repr

/-- Something that is reported. -/
inductive Event where
  /-- A connection to the store is opened. -/
  | connecting (contactPoints : String)
  /-- A generation was prescribed that does not exist. -/
  | overrideIgnored (value : String)
  /-- The version of the store could not be read. -/
  | releaseUnavailable (reason : String)
  /-- The version of the store is no version. -/
  | releaseUnreadable (version : String)
  /-- The version of the store decided the generation. -/
  | releaseRead (version : String) (generation : Generation)
  /-- A statement is sent. -/
  | executing (cql : String)
  /-- A statement failed, and the failure is passed over. -/
  | executionFailed (cql reason : String)
  /-- The details of a failure that is passed over. -/
  | failureDetail
  /-- A column type is not known. -/
  | columnTypeUnsupported (text : String)
  /-- A list of key columns is no JSON. -/
  | aliasesUnreadable (text : String)
  /-- The JSON of a list of key columns is no list. -/
  | aliasesNoList (text : String)
  /-- A query names no table to look up column types of. -/
  | tableNotFound (cql : String)
  /-- The column types of a table could not be read. -/
  | columnTypesUnavailable (table : String)
  /-- The key columns of a table could not be read. -/
  | keyAliasesUnavailable (table : String)
  /-- The keyspaces could not be read. -/
  | keyspacesUnavailable
  /-- The tables of a keyspace could not be read. -/
  | tablesUnavailable (keyspace : String)
  /-- The indexes of a keyspace could not be read. -/
  | indexesUnavailable (keyspace : String)
  /-- The column names could not be read. -/
  | columnsUnavailable
  /-- The names of the partition keys of a table could not be read. -/
  | partitionKeysUnavailable (table : String)
  /-- A row has more cells than are read. -/
  | columnsLimitReached (limit : Nat)
  /-- As many rows were read as are allowed. -/
  | rowsLimitReached (limit : Nat)
  /-- A column of a result has no known type. -/
  | columnTypeMissing (column : String)
  /-- A result has several partition key columns, of which the first one identifies its rows. -/
  | severalPartitionKeys (columns : List String)
  /-- The query of a client is executed. -/
  | queryReceived (cql : String)
  deriving DecidableEq, Repr

namespace Event

/-- The level of an event. -/
def level : Event → Level
  | .connecting _ | .releaseRead _ _ => .info
  | .executing _ | .failureDetail | .keyspacesUnavailable | .tablesUnavailable _
  | .indexesUnavailable _ | .columnsLimitReached _ | .rowsLimitReached _ | .columnTypeMissing _
  | .queryReceived _ => .debug
  | .overrideIgnored _ | .releaseUnavailable _ | .releaseUnreadable _ | .executionFailed _ _
  | .columnTypeUnsupported _ | .aliasesUnreadable _ | .aliasesNoList _ | .tableNotFound _
  | .columnTypesUnavailable _ | .keyAliasesUnavailable _ | .columnsUnavailable
  | .partitionKeysUnavailable _ | .severalPartitionKeys _ => .warning

/-- The source of an event. -/
def source : Event → Source
  | .connecting _ | .overrideIgnored _ | .releaseUnavailable _ | .releaseUnreadable _
  | .releaseRead _ _ => .connection
  | .executing _ | .executionFailed _ _ | .failureDetail => .execution
  | .columnTypeUnsupported _ | .aliasesUnreadable _ | .aliasesNoList _ | .tableNotFound _
  | .columnTypesUnavailable _ | .keyAliasesUnavailable _ => .columnTypes
  | .keyspacesUnavailable | .tablesUnavailable _ | .indexesUnavailable _ | .columnsUnavailable
  | .partitionKeysUnavailable _ => .listings
  | .columnsLimitReached _ | .rowsLimitReached _ | .columnTypeMissing _
  | .severalPartitionKeys _ => .materialization
  | .queryReceived _ => .service

/-- The text of an event. -/
def text : Event → String
  | .connecting points => "Connecting to cluster at " ++ points
  | .overrideIgnored value => "Ignoring unsupported engine generation override: " ++ value
  | .releaseUnavailable reason =>
    "Cannot read release version, assuming " ++ Generation.v1.label ++ ": " ++ reason
  | .releaseUnreadable version =>
    "Unparseable release version " ++ version ++ ", assuming " ++ Generation.v1.label
  | .releaseRead version generation =>
    "Cluster release " ++ version ++ " uses metadata dialect " ++ generation.label
  | .executing cql => "Executing: " ++ cql
  | .executionFailed cql reason => "Error executing CQL: '" ++ cql ++ "', reason: " ++ reason
  | .failureDetail => "CQL failure detail"
  | .columnTypeUnsupported text => "Read unsupported column type: " ++ text ++ " - using regular"
  | .aliasesUnreadable text => "Cannot parse column aliases: " ++ text
  | .aliasesNoList text => "Column aliases are not a list: " ++ text
  | .tableNotFound cql =>
    "Could not extract table name from: " ++ cql ++ ". Column type information is not available."
  | .columnTypesUnavailable table => "Could not read types for columns of table: " ++ table
  | .keyAliasesUnavailable table => "Could not read key aliases of table: " ++ table
  | .keyspacesUnavailable => "Cannot read keyspace info"
  | .tablesUnavailable keyspace => "No table names found for keyspace: " ++ keyspace
  | .indexesUnavailable keyspace => "No indexes found for keyspace: " ++ keyspace
  | .columnsUnavailable => "Cannot read column names"
  | .partitionKeysUnavailable table => "Cannot read partition key names for table: " ++ table
  | .columnsLimitReached limit => "Reached columns limit: " ++ toString limit
  | .rowsLimitReached limit => "Reached rows limit: " ++ toString limit
  | .columnTypeMissing column => "Column type not found for: " ++ column ++ " - using regular"
  | .severalPartitionKeys columns =>
    "Result carries " ++ toString columns.length ++ " partition key columns (" ++
      ", ".intercalate columns ++ "), using " ++ columns.headD "" ++ " as row identifier"
  | .queryReceived cql => "Executing CQL: " ++ cql

end Event

end CqlGateway
