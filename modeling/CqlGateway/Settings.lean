import CqlGateway.Failure
import CqlGateway.Text.Blank

/-!
# Settings

The settings of the gateway, read from the environment with a default for each variable.  Numbers
are read in the order of the fields; the first one that is no integer decides the failure.
-/

namespace CqlGateway

/-- The settings of the gateway.  Timeouts are in seconds. -/
structure Settings where
  contactPoints : List String
  port : Int
  username : String
  password : String
  protocolVersion : Int
  connectTimeout : Int
  queryTimeout : Int
  /-- The number of the generation to assume, empty to ask the store. -/
  engineGeneration : String
  rowsLimit : Int
  columnsLimit : Int
  resultLimit : Int
  logLevel : String
  deriving DecidableEq, Repr

/-- The integer that a text writes. -/
def integerOf (s : String) : Except Failure Int :=
  match Text.readInteger s.toList with
  | .ok n => .ok n
  | .error .malformed => .error (.badInteger s)
  | .error (.tooLong digits) => .error (.integerTooLong digits)

/-- The parts of a text between commas, without the blanks around them; blank parts are left out. -/
def commaSeparated (s : String) : List String :=
  go [] s.toList
where
  go (part : List Char) : List Char → List String
    | [] => named part
    | ',' :: rest => named part ++ go [] rest
    | c :: rest => go (c :: part) rest
  named (part : List Char) : List String :=
    match Text.trim part.reverse with
    | [] => []
    | cs => [String.ofList cs]

namespace Settings

/-- The settings of an environment. -/
def ofEnvironment (env : String → Option String) : Except Failure Settings := do
  let text (name default : String) : String := (env name).getD default
  let contactPoints := commaSeparated (text "CASSANDRA_CONTACT_POINTS" "localhost")
  let port ← integerOf (text "CASSANDRA_PORT" "9042")
  let protocolVersion ← integerOf (text "CASSANDRA_PROTOCOL_VERSION" "2")
  let connectTimeout ← integerOf (text "CASSANDRA_CONNECT_TIMEOUT" "10")
  let queryTimeout ← integerOf (text "CASSANDRA_QUERY_TIMEOUT" "120")
  let rowsLimit ← integerOf (text "CQL_ROWS_LIMIT" "1000")
  let columnsLimit ← integerOf (text "CQL_COLUMNS_LIMIT" "500")
  let resultLimit ← integerOf (text "CQL_RESULT_LIMIT" "5000")
  pure {
    contactPoints, port, protocolVersion, connectTimeout, queryTimeout
    rowsLimit, columnsLimit, resultLimit
    username := text "CASSANDRA_USERNAME" ""
    password := text "CASSANDRA_PASSWORD" ""
    engineGeneration := Text.strip (text "CASSANDRA_ENGINE_GENERATION" "")
    logLevel := text "LOG_LEVEL" "INFO" }

end Settings

end CqlGateway
