import CqlGateway.Metadata.Listing
import CqlGateway.Result.Materialize

/-!
# The service of one generation

A service answers the questions of a client for one generation of the store: it lists what the
metadata tables hold, looks up column types, and executes queries.  Everything that a client carries
from call to call is its `Context`, the active keyspace; only a `use` statement that returns changes
it.

The questions are values of type `Operation`, and `Service.perform` answers them.
-/

namespace CqlGateway

/-- What a client carries from call to call. -/
structure Context where
  keyspace? : Option Keyspace := none
  deriving DecidableEq

namespace Context

/-- The context with another active keyspace. -/
def withKeyspace (_ : Context) (keyspace? : Option Keyspace) : Context :=
  ⟨keyspace?⟩

/-- The two contexts have the same active keyspace, up to case. -/
def same (a b : Context) : Bool :=
  match a.keyspace?, b.keyspace? with
  | none, none => true
  | some x, some y => x.same y
  | _, _ => false

/-- The name of the active keyspace. -/
def name? (c : Context) : Option String :=
  c.keyspace?.map Identifier.text

/-- The context behind a query that returned. -/
def after (q : Query) (c : Context) : Context :=
  match q.kind with
  | .use => c.withKeyspace q.keyspace?
  | _ => c

end Context

/-- The service of a generation. -/
structure Service where
  generation : Generation
  limits : Limits
  allowance : Allowance

/-- A question of a client.  Where a name may be missing, a missing one asks for everything, or for
nothing in an existence check. -/
inductive Operation where
  | generation
  | keyspaces
  | keyspaceExists (keyspace? : Option Keyspace)
  | tables (keyspace? : Option Keyspace)
  /-- The tables of the active keyspace. -/
  | activeTables (context : Context)
  | tableExists (table? : Option Table)
  | columns (table? : Option Table)
  | indexes (keyspace? : Option Keyspace)
  /-- The column types of the table that a query reads from. -/
  | typeMap (query : Query)
  | execute (query : Query) (context : Context)

/-- The answer to a question. -/
inductive Reply where
  | generation (generation : Generation)
  /-- A listing. -/
  | names (names : List String)
  /-- An existence check. -/
  | found (found : Bool)
  | typeMap (types : TypeMap)
  /-- The result of a query, and the context for the next call. -/
  | selection (selection : Selection) (context : Context)

namespace Service

/-- What sends the statements of a service to a session. -/
def executor (s : Service) (session : Session) : Executor :=
  { s.allowance with session }

@[simp] theorem executor_session (s : Service) (session : Session) :
    (s.executor session).session = session := rfl

@[simp] theorem executor_timeout (s : Service) (session : Session) :
    (s.executor session).timeout = s.allowance.timeout := rfl

@[simp] theorem executor_room (s : Service) (session : Session) :
    (s.executor session).room = s.allowance.room := rfl

/-- The names of a listing. -/
def texts {c : NameClass} (names : List (Identifier c)) : List String :=
  names.map Identifier.text

/-- Executes a query.  The first row is awaited before column types are looked up; a result without
rows needs none. -/
def execute (s : Service) (session : Session) (q : Query) (context : Context) :
    Outcome (Selection × Context) :=
  let ex := s.executor session
  let next := Executor.nextRow q.cql
  let events := [Event.queryReceived q.cql, .executing q.cql]
  match ex.submit q.cql with
  | .error e => { result := .error e, statements := [ex.sent q.cql 0], events }
  | .ok opened =>
    match next opened with
    | (.error e, left) => { result := .error e, statements := [ex.sent q.cql left.pulled], events }
    | (.ok none, left) =>
      { result := .ok (.empty, context.after q)
        statements := [ex.sent q.cql left.pulled]
        events }
    | (.ok (some first), left) =>
      let types := TypeMap.lookup s.generation ex q
      match types.result with
      | .error e =>
        { result := .error e
          statements := ex.sent q.cql left.pulled :: types.statements
          events := events ++ types.events }
      | .ok map =>
        let read := materializeFrom (Reader.chained next) map s.limits (some first, left)
        { result := read.result.map fun selection => (selection, context.after q)
          statements := ex.sent q.cql read.rest.2.pulled :: types.statements
          events := events ++ types.events ++ read.events }

/-- Answers a question. -/
def perform (s : Service) (session : Session) (op : Operation) : Outcome Reply :=
  let ex := s.executor session
  match op with
  | .generation => pure (.generation s.generation)
  | .keyspaces => return .names (texts (← Listing.keyspaces ex))
  | .keyspaceExists keyspace? => return .found (← Listing.keyspaceExists ex keyspace?)
  | .tables keyspace? => return .names (texts (← Listing.tables ex keyspace?))
  | .activeTables context => return .names (texts (← Listing.tables ex context.keyspace?))
  | .tableExists table? => return .found (← Listing.tableExists ex table?)
  | .columns table? =>
    return .names (texts (← Listing.columns s.generation ex s.limits.result table?))
  | .indexes keyspace? => return .names (texts (← Listing.indexes s.generation ex keyspace?))
  | .typeMap q => return .typeMap (← TypeMap.lookup s.generation ex q)
  | .execute q context => do
    let (selection, context) ← s.execute session q context
    return .selection selection context

end Service

end CqlGateway
