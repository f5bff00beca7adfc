import CqlGateway.Metadata.Detection
import CqlGateway.Service.Service

/-!
# The dispatcher

A dispatcher answers with the service of one generation.  The first question makes that service:
its generation is the one that the dispatcher was built with, or else the one that the settings
prescribe or that the store tells.  The dispatcher keeps the service, which answers every later
question.
-/

namespace CqlGateway

/-- A service that is made when it is first needed. -/
structure Dispatcher where
  limits : Limits
  allowance : Allowance
  /-- The generation that the settings prescribe, empty for none. -/
  prescription : String := ""
  /-- The generation that the dispatcher was built with. -/
  generation? : Option Generation := none
  /-- The service that answers, once there is one. -/
  service? : Option Service := none

namespace Dispatcher

/-- The generation of the service that the dispatcher makes. -/
def choose (d : Dispatcher) (session : Session) : Outcome Generation :=
  match d.generation? with
  | some g => pure g
  | none => detectGeneration { d.allowance with session } (.text d.prescription)

/-- The service that answers, and the dispatcher that keeps it. -/
def get (d : Dispatcher) (session : Session) : Outcome Service × Dispatcher :=
  match d.service? with
  | some s => (pure s, d)
  | none =>
    let made : Outcome Service := do
      let generation ← d.choose session
      pure ⟨generation, d.limits, d.allowance⟩
    (made, { d with service? := made.result.toOption })

/-- Answers a question. -/
def perform (d : Dispatcher) (session : Session) (op : Operation) : Outcome Reply := do
  let s ← (d.get session).1
  s.perform session op

/-- The dispatcher behind a question. -/
def settled (d : Dispatcher) (session : Session) : Dispatcher :=
  (d.get session).2

end Dispatcher

end CqlGateway
