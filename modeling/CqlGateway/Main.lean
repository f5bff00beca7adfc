import CqlGateway.Http.Gateway

/-!
# The command line

Reads the settings from the environment and prints the routes that are served.
-/

namespace CqlGateway

/-- The names of the variables that the settings are read from. -/
def settingNames : List String :=
  ["CASSANDRA_CONTACT_POINTS", "CASSANDRA_PORT", "CASSANDRA_USERNAME", "CASSANDRA_PASSWORD",
    "CASSANDRA_PROTOCOL_VERSION", "CASSANDRA_CONNECT_TIMEOUT", "CASSANDRA_QUERY_TIMEOUT",
    "CASSANDRA_ENGINE_GENERATION", "CQL_ROWS_LIMIT", "CQL_COLUMNS_LIMIT", "CQL_RESULT_LIMIT",
    "LOG_LEVEL"]

end CqlGateway

open CqlGateway in
/-- Prints the routes, or the failure of the settings. -/
def main : IO UInt32 := do
  let values ← settingNames.mapM fun name => return (name, ← IO.getEnv name)
  match Settings.ofEnvironment fun name => (values.lookup name).join with
  | .error e =>
    IO.eprintln e.message
    return 1
  | .ok _ =>
    for line in Startup.lines do
      IO.println line
    return 0
