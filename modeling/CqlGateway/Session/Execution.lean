import CqlGateway.Session.Outcome
import CqlGateway.Session.Reader

/-!
# Executing statements

A statement is sent to the session once and never repeated.  `executeSilent` is for the lookups of
the gateway itself: it reads the whole result, and a fault is reported and turned into "nothing".
`submit` is for the statement of a client: a refusal is a failure of the query at once, the rows are
read later with `nextRow`, and a fault among them is a failure of the query as well.

What an executor is allowed, a timeout for its statements and room on the stack, does not depend on
the session (`Allowance`).
-/

namespace CqlGateway

/-- What the statements of the gateway are allowed: a timeout in seconds, and the calls that may be
nested where a cell of a metadata table is read. -/
structure Allowance where
  timeout : Int
  room : Nat
  deriving DecidableEq, Repr

/-- The rows of a statement of a client, and the failure of the query that ends them. -/
structure Delivery where
  rows : List (List Cell)
  failure? : Option Failure

/-- What sends statements: a session, and what is allowed. -/
structure Executor extends Allowance where
  session : Session

namespace Executor

/-- The rows that a statement delivers, and the fault that ends them. -/
def stream (ex : Executor) (cql : String) : RowStream :=
  (ex.session cql).stream

/-- The statement as it was sent, with the number of rows that were read. -/
def sent (ex : Executor) (cql : String) (pulled : Nat) : Statement :=
  ⟨cql, ex.timeout, pulled⟩

/-- The rows of a lookup, or nothing if there was a fault before the end. -/
def executeSilent (ex : Executor) (cql : String) : Outcome (Option (List (List Cell))) :=
  let stream := ex.stream cql
  let statements := [ex.sent cql stream.rows.length]
  match stream.interruption? with
  | none => { result := .ok (some stream.rows), statements, events := [.executing cql] }
  | some f =>
    { result := .ok none
      statements
      events := [.executing cql, .executionFailed cql f.text, .failureDetail] }

/-! ### The statement of a client -/

/-- What a fault of the session makes of a query. -/
def failed (cql : String) (f : Fault) : Failure :=
  .queryFailed cql (some f)

/-- Sends a statement; none of its rows is read yet. -/
def submit (ex : Executor) (cql : String) : Except Failure (Cursor Fault) :=
  match ex.session cql with
  | .refused f => .error (failed cql f)
  | .delivered r => .ok (.ofStream r.stream)

/-- Reads the next row of a statement. -/
def nextRow (cql : String) : Reader Failure (Cursor Fault) (List Cell) :=
  Reader.guarded (failed cql) Cursor.next

/-- The statement of a client with its rows read to their end. -/
def executeToEnd (ex : Executor) (cql : String) : Outcome Delivery :=
  let delivery : Delivery :=
    match ex.submit cql with
    | .error e => ⟨[], some e⟩
    | .ok c => ⟨c.ahead, c.failure?.map (failed cql)⟩
  { result := .ok delivery
    statements := [ex.sent cql delivery.rows.length]
    events := [.executing cql] }

end Executor

end CqlGateway
