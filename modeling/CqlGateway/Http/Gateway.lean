import CqlGateway.Http.Route
import CqlGateway.Json.Reader
import CqlGateway.Json.Writer
import CqlGateway.Service.Dispatcher
import CqlGateway.Session.Connection

/-!
# The gateway

The gateway answers requests by asking a dispatcher.  It connects to the store when it first needs
to, and keeps the dispatcher that it then makes.

A failed query and a bad value are the fault of the client (status 400); every other failure is a
fault of the gateway (status 500).  A reply that cannot be shown as JSON is a failure like others,
though the store has answered.

How many calls may be nested depends on the calls that are under way, so that the gateway has a
bound for each place where it matters (`Stack`).

`Startup` holds what the command line prints before it serves requests, and the parameters of the
server and of its log.
-/

namespace CqlGateway.Http

/-- The calls that may be nested while a request is answered. -/
structure Stack where
  /-- Where a cell of a metadata table is read. -/
  cell : Nat
  /-- Where the body of the request is read. -/
  body : Nat
  /-- Where the values of the reply are converted. -/
  reply : Nat
  deriving DecidableEq, Repr

/-- The gateway between two requests. -/
structure Gateway where
  settings : Settings
  stack : Stack
  dispatcher? : Option Dispatcher := none
  /-- The connections opened so far. -/
  connections : Nat := 0

/-- The outside of the gateway: the store, and the fault with which it refuses connections, if it
does. -/
structure Store where
  session : Session
  refusal? : Option Fault := none

/-- A response; one without a body, or with a body that is no JSON, has none. -/
structure Response where
  status : Nat
  body? : Option Json := none

namespace Response

/-- A successful response. -/
def ok (members : Members Json) : Response :=
  ⟨200, some (.obj members)⟩

/-- A response that refuses a request. -/
def refusal (message : String) : Response :=
  ⟨400, some (.obj [("error", .str message)])⟩

/-- The response to a request that failed. -/
def ofFailure (e : Failure) : Response :=
  match e with
  | .queryFailed cql _ => ⟨400, some (.obj [("error", .str e.message), ("cql", .str cql)])⟩
  | _ => if e.isBadValue then refusal e.message else { status := 500 }

/-- A response if there is one, or else the response to the failure. -/
def ofResult : Except Failure Response → Response
  | .ok response => response
  | .error e => ofFailure e

end Response

namespace Gateway

/-- What the settings and the stack allow. -/
def allowance (g : Gateway) : Allowance :=
  ⟨g.settings.queryTimeout, g.stack.cell⟩

/-- The dispatcher of the gateway, made at the first need. -/
def connect (g : Gateway) (refusal? : Option Fault) : Outcome Dispatcher × Gateway :=
  match g.dispatcher? with
  | some d => (pure d, g)
  | none =>
    let made : Outcome Dispatcher := do
      (Connection.ofSettings g.settings [] 0).establish refusal?
      let limits ← .ofExcept (Limits.ofSettings g.settings)
      pure { limits, allowance := g.allowance, prescription := g.settings.engineGeneration }
    (made, { g with dispatcher? := made.result.toOption, connections := g.connections + 1 })

/-- Asks the dispatcher.  The question is put only when there is a dispatcher, and may then turn out
to be none. -/
def ask (g : Gateway) (store : Store) (question : Except Failure Operation) :
    Outcome Reply × Gateway :=
  let (connected, g) := g.connect store.refusal?
  let reply := do
    let d ← connected
    let op ← .ofExcept question
    d.perform store.session op
  match connected.result, question with
  | .ok d, .ok _ => (reply, { g with dispatcher? := some (d.settled store.session) })
  | _, _ => (reply, g)

/-- The members of a reply; a listing and an existence check are named by the route. -/
def replyMembers (room : Nat) (listing : String) (subject : Members Json) :
    Reply → Except Failure (Members Json)
  | .names names => .ok [(listing, .arr (names.map .str))]
  | .found found => .ok (subject ++ [("exists", .bool found)])
  | .selection s context => do
    let members ← s.members room
    pure (members ++ [("active_keyspace", Column.optionJson context.name?)])
  | .generation g => .ok [("generation", .str g.label)]
  | .typeMap _ => .ok []

/-- The successful response that shows a reply, if the reply can be converted and written. -/
def render (room : Nat) (listing : String) (subject : Members Json) (reply : Reply) :
    Except Failure Response := do
  let members ← replyMembers room listing subject reply
  if (Json.obj members).holdsOverlong then .error .integerUnwritable
  else .ok (.ok members)

/-- The response to a question. -/
def respond (asked : Outcome Reply × Gateway) (listing : String) (subject : Members Json) :
    Outcome Response × Gateway :=
  let (outcome, g) := asked
  let response := Response.ofResult (outcome.result.bind (render g.stack.reply listing subject))
  ({ result := .ok response, statements := outcome.statements, events := outcome.events }, g)

/-- The name that a parameter of the query string gives. -/
def nameParameter? (c : NameClass) (r : Request) (name : String) : Option (Identifier c) :=
  (r.parameter? name).bind fun s => Identifier.ofText? c (Text.strip s)

/-! ### Queries -/

/-- What the body of a query request asks for: a CQL text and the active keyspace. -/
structure QueryBody where
  cql : String
  keyspace? : Option Keyspace

/-- The active keyspace in a body: a missing one and one that is not given name none. -/
def bodyKeyspace (body : Json) : Except String (Option Keyspace) :=
  match body.member? "active_keyspace" with
  | none => .ok none
  | some (.str s) => .ok (Identifier.ofText? .keyspace (Text.strip s))
  | some v => if v.isTruthy then .error "active_keyspace must be a string" else .ok none

/-- The body of a query request, or the reason to refuse it. -/
def readQueryBody (body : Json) : Except String QueryBody :=
  match body with
  | .obj _ =>
    match body.member? "cql" with
    | some (.str cql) =>
      if Text.isBlankText cql then .error "cql must be a non-empty string"
      else (bodyKeyspace body).map fun keyspace? => ⟨cql, keyspace?⟩
    | _ => .error "cql must be a non-empty string"
  | _ => .error "JSON object required"

/-- Executes the query of a request. -/
def handleQuery (g : Gateway) (store : Store) (text : String) : Outcome Response × Gateway :=
  match Json.readBytes g.stack.body (Text.utf8Bytes text) with
  | .error (.tooDeep container) => (pure (.ofFailure (.nestedTooDeep container)), g)
  | .error _ => (pure (.refusal "JSON object required"), g)
  | .ok body =>
    match readQueryBody body with
    | .error reason => (pure (.refusal reason), g)
    | .ok q =>
      let question := (Query.ofText q.cql).map fun query => .execute query ⟨q.keyspace?⟩
      respond (g.ask store question) "" []

/-! ### Requests -/

/-- The response of a route. -/
def handleRoute (g : Gateway) (store : Store) (r : Request) : Route → Outcome Response × Gateway
  | .keyspaces => respond (g.ask store (.ok .keyspaces)) "keyspaces" []
  | .keyspaceExists name =>
    let question := (Identifier.ofValue .keyspace (.text name)).map fun k =>
      Operation.keyspaceExists (some k)
    respond (g.ask store question) "" [("keyspace", .str name)]
  | .tables =>
    respond (g.ask store (.ok (.tables (nameParameter? .keyspace r "keyspace")))) "tables" []
  | .tableExists name =>
    let question := (Identifier.ofValue .table (.text name)).map fun t =>
      Operation.tableExists (some t)
    respond (g.ask store question) "" [("table", .str name)]
  | .columns =>
    respond (g.ask store (.ok (.columns (nameParameter? .table r "table")))) "columns" []
  | .indexes =>
    respond (g.ask store (.ok (.indexes (nameParameter? .keyspace r "keyspace")))) "indexes" []
  | .query => g.handleQuery store r.body
  | .staticFile _ => (pure { status := 404 }, g)

/-- The response to a request, and the gateway behind it.  A request for the head of a page is
answered like one for the page, without the body. -/
def handle (g : Gateway) (store : Store) (r : Request) : Outcome Response × Gateway :=
  match r.target with
  | .notFound => (pure { status := 404 }, g)
  | .notAllowed => (pure { status := 405 }, g)
  | .redirect => (pure { status := 308 }, g)
  | .methods => (pure { status := 200 }, g)
  | .route route =>
    let (response, g) := g.handleRoute store r route
    if r.method == .head then ((fun response => { response with body? := none }) <$> response, g)
    else (response, g)

end Gateway

end CqlGateway.Http

namespace CqlGateway.Startup

/-! ### Starting the gateway -/

/-- The lines that are printed. -/
def lines : List String :=
  "Registered routes:" :: Http.Route.patterns.map ("  " ++ ·)

/-- The address on which requests are served: every one of the host. -/
def host : String := "0.0.0.0"

/-- The port on which requests are served. -/
def port : Nat := 8000

/-- The layout of a line of the log. -/
def logFormat : String := "%(asctime)s %(levelname)s %(name)s: %(message)s"

/-- The least level of the events that are logged. -/
def logLevel (s : Settings) : String :=
  s.logLevel

end CqlGateway.Startup
