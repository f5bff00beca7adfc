import CqlGateway.Service.Dispatcher

/-!
# Clients

A client puts questions to a dispatcher, one after the other, and carries its context from call to
call: behind a query that returned it goes on with the context of the reply, and behind every other
call with the context it had.  `Client.ask` is one call, and `Client.run` a list of them.
-/

namespace CqlGateway

/-- A question that may depend on the context of the client. -/
abbrev Question := Context → Operation

/-- A client with the dispatcher that it asks. -/
structure Client where
  dispatcher : Dispatcher
  context : Context := {}

namespace Client

/-- The context behind an outcome. -/
def contextAfter (c : Client) (o : Outcome Reply) : Context :=
  match o.result with
  | .ok (.selection _ context) => context
  | _ => c.context

/-- Puts a question to the store that a session reaches. -/
def ask (c : Client) (session : Session) (question : Question) : Outcome Reply × Client :=
  let outcome := c.dispatcher.perform session (question c.context)
  (outcome, ⟨c.dispatcher.settled session, c.contextAfter outcome⟩)

/-- Puts questions one after the other, each to the session of its time. -/
def run (c : Client) : List (Session × Question) → List (Outcome Reply) × Client
  | [] => ([], c)
  | (session, question) :: rest =>
    let (outcome, c) := c.ask session question
    let (outcomes, c) := c.run rest
    (outcome :: outcomes, c)

end Client

end CqlGateway
