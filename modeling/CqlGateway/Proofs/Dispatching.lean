import CqlGateway.Proofs.Detection
import CqlGateway.Proofs.Statements
import CqlGateway.Service.Dispatcher

/-!
# Runs of a dispatcher

A run is a list of questions, each with the session that is reached while it is asked, so that the
store may answer differently from question to question.

The first question settles which service answers, and a dispatcher that keeps a service does nothing
but ask it (`run_of_kept`).  Hence a whole run is that of one fixed service, but for the one
statement that may be needed to choose it (`run_of_dispatcher`).
-/

namespace CqlGateway

/-- A question, and the session that is reached while it is asked. -/
structure Step where
  session : Session
  op : Operation

/-- The outcomes of a service. -/
def Service.run (s : Service) (steps : List Step) : List (Outcome Reply) :=
  steps.map fun step => s.perform step.session step.op

namespace Dispatcher

/-- The outcomes of a dispatcher. -/
def run (d : Dispatcher) : List Step → List (Outcome Reply)
  | [] => []
  | step :: rest => d.perform step.session step.op :: (d.settled step.session).run rest

/-- The dispatcher behind a run. -/
def after (d : Dispatcher) (steps : List Step) : Dispatcher :=
  steps.foldl (fun d step => d.settled step.session) d

end Dispatcher

/-- The answers of a run, failures included. -/
def repliesOf (run : List (Outcome Reply)) : List (Except Failure Reply) :=
  run.map Outcome.result

/-- The statements of a run. -/
def statementsOf (run : List (Outcome Reply)) : List Statement :=
  run.flatMap Outcome.statements

variable {d : Dispatcher} {s : Service} {g : Generation} {session : Session}

/-! ### Single questions -/

theorem perform_of_kept (h : d.service? = some s) (session : Session) (op : Operation) :
    d.perform session op = s.perform session op := by
  rw [Dispatcher.perform, Dispatcher.get, h]
  exact pure_bind s _

theorem settled_of_kept (h : d.service? = some s) (session : Session) :
    d.settled session = d := by
  rw [Dispatcher.settled, Dispatcher.get, h]

theorem get_of_chosen (hs : d.service? = none) (hg : (d.choose session).result = .ok g) :
    (d.get session).1.result = .ok ⟨g, d.limits, d.allowance⟩ ∧
      (d.get session).1.statements = (d.choose session).statements ∧
      (d.settled session).service? = some ⟨g, d.limits, d.allowance⟩ := by
  have hget : (d.choose session >>= fun g => pure (⟨g, d.limits, d.allowance⟩ : Service)) =
      { result := .ok ⟨g, d.limits, d.allowance⟩
        statements := (d.choose session).statements ++ []
        events := (d.choose session).events ++ [] } := Outcome.bind_of_ok hg _
  rw [Dispatcher.settled, Dispatcher.get, hs]
  dsimp only
  rw [hget]
  exact ⟨rfl, List.append_nil _, rfl⟩

/-- The question that settles the service is answered by it. -/
theorem perform_of_chosen (hs : d.service? = none) (hg : (d.choose session).result = .ok g)
    (op : Operation) :
    (d.perform session op).result = (Service.perform ⟨g, d.limits, d.allowance⟩ session op).result ∧
      (d.perform session op).statements =
        (d.choose session).statements ++
          (Service.perform ⟨g, d.limits, d.allowance⟩ session op).statements := by
  obtain ⟨hresult, hstatements, -⟩ := get_of_chosen hs hg
  rw [Dispatcher.perform, Outcome.bind_of_ok hresult, hstatements]
  exact ⟨rfl, rfl⟩

/-! ### Runs -/

/-- **A dispatcher that keeps a service answers as that service**, whatever the sessions are. -/
theorem run_of_kept (h : d.service? = some s) (steps : List Step) : d.run steps = s.run steps := by
  induction steps with
  | nil => rfl
  | cons step rest ih =>
    rw [Dispatcher.run, perform_of_kept h, settled_of_kept h, ih]
    rfl

theorem after_of_kept (h : d.service? = some s) (steps : List Step) : d.after steps = d := by
  induction steps with
  | nil => rfl
  | cons step rest ih => rw [Dispatcher.after, List.foldl_cons, settled_of_kept h]; exact ih

theorem run_of_chosen {first : Step} (hs : d.service? = none)
    (hg : (d.choose first.session).result = .ok g) (rest : List Step) :
    repliesOf (d.run (first :: rest)) =
        repliesOf (Service.run ⟨g, d.limits, d.allowance⟩ (first :: rest)) ∧
      statementsOf (d.run (first :: rest)) =
        (d.choose first.session).statements ++
          statementsOf (Service.run ⟨g, d.limits, d.allowance⟩ (first :: rest)) ∧
      ∀ n, (d.after ((first :: rest).take (n + 1))).service? = some ⟨g, d.limits, d.allowance⟩ := by
  obtain ⟨-, -, hkept⟩ := get_of_chosen hs hg
  obtain ⟨hresult, hstatements⟩ := perform_of_chosen hs hg first.op
  -- behind the first question the service is kept
  have hrun : d.run (first :: rest) =
      d.perform first.session first.op :: Service.run ⟨g, d.limits, d.allowance⟩ rest := by
    rw [Dispatcher.run, run_of_kept hkept]
  refine ⟨?_, ?_, fun n => ?_⟩
  · rw [hrun, repliesOf, List.map_cons, hresult]
    rfl
  · rw [hrun, statementsOf, List.flatMap_cons, hstatements, List.append_assoc]
    rfl
  · rw [List.take_succ_cons, Dispatcher.after, List.foldl_cons]
    exact (congrArg Dispatcher.service? (after_of_kept hkept (rest.take n))).trans hkept

/-- A service asks for the version of the store only if a client writes this very query. -/
theorem own_of_release {steps : List Step} {st : Statement}
    (hst : st ∈ statementsOf (s.run steps)) (hcql : st.cql = MetadataQuery.release.cql) :
    ∃ step ∈ steps, step.op.own? = some MetadataQuery.release.cql := by
  obtain ⟨outcome, houtcome, hst⟩ := List.mem_flatMap.1 hst
  obtain ⟨step, hstep, rfl⟩ := List.mem_map.1 houtcome
  have htext : st.cql ∈ (s.perform step.session step.op).texts := List.mem_map.2 ⟨st, hst, rfl⟩
  rw [texts_perform, List.mem_append, hcql] at htext
  refine ⟨step, hstep, ?_⟩
  -- the text is that of a client or of a metadata query, and those are never the version
  rcases htext with hown | hquestion
  · exact Option.mem_toList.1 hown
  · obtain ⟨m, hm, hrelease⟩ := List.mem_map.1 hquestion
    rw [eq_release_of_cql hrelease] at hm
    exact absurd hm (release_not_mem_questions s step.session step.op)

/-- **A dispatcher is one service.**  A dispatcher that is built without a generation chooses one at
its first question and keeps the service; the version of the store is asked for once, unless the
prescription is the number of a generation.  A dispatcher that is built with a generation has the
very outcomes of the service, which never asks for the version by itself. -/
theorem run_of_dispatcher (limits : Limits) (allowance : Allowance) (prescription : String) :
    (∀ first rest, ∃ g,
      (detectGeneration { allowance with session := first.session } (.text prescription)).result =
        .ok g ∧
      repliesOf (Dispatcher.run { limits, allowance, prescription } (first :: rest)) =
        repliesOf (Service.run ⟨g, limits, allowance⟩ (first :: rest)) ∧
      (∀ n, (Dispatcher.after { limits, allowance, prescription }
        ((first :: rest).take (n + 1))).service? = some ⟨g, limits, allowance⟩) ∧
      (Text.readInteger prescription.toList = .ok 1 ∨
          Text.readInteger prescription.toList = .ok 2 →
        statementsOf (Dispatcher.run { limits, allowance, prescription } (first :: rest)) =
          statementsOf (Service.run ⟨g, limits, allowance⟩ (first :: rest))) ∧
      (¬ (Text.readInteger prescription.toList = .ok 1 ∨
          Text.readInteger prescription.toList = .ok 2) →
        statementsOf (Dispatcher.run { limits, allowance, prescription } (first :: rest)) =
          Executor.askedRelease { allowance with session := first.session } ::
            statementsOf (Service.run ⟨g, limits, allowance⟩ (first :: rest)))) ∧
    (∀ g steps, Dispatcher.run { limits, allowance, prescription, generation? := some g } steps =
      Service.run ⟨g, limits, allowance⟩ steps) ∧
    (∀ g steps, ∀ st ∈ statementsOf (Service.run ⟨g, limits, allowance⟩ steps),
      st.cql = MetadataQuery.release.cql →
        ∃ step ∈ steps, step.op.own? = some MetadataQuery.release.cql) := by
  refine ⟨fun first rest => ?_, fun g steps => ?_, fun g steps st => own_of_release⟩
  · obtain ⟨⟨g, hg⟩, hnumber, hother⟩ :=
      detectGeneration_spec { allowance with session := first.session } prescription
    obtain ⟨hreplies, hstatements, hkept⟩ :=
      run_of_chosen (d := { limits, allowance, prescription }) rfl hg rest
    refine ⟨g, hg, hreplies, hkept, fun h => ?_, fun h => ?_⟩
    · exact hstatements.trans (congrArg (· ++ _) (hnumber h))
    · exact hstatements.trans (congrArg (· ++ _) (hother h))
  · cases steps with
    | nil => rfl
    | cons first rest =>
      have hkept : (Dispatcher.settled { limits, allowance, prescription, generation? := some g }
          first.session).service? = some ⟨g, limits, allowance⟩ := rfl
      rw [Dispatcher.run, run_of_kept hkept]
      exact congrArg (· :: _) (pure_bind (⟨g, limits, allowance⟩ : Service) _)

end CqlGateway
