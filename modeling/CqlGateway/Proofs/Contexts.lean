import CqlGateway.Proofs.Lookups
import CqlGateway.Service.Client

/-!
# The context of a client

A client that executes queries carries its active keyspace from one query to the next.  Here a run
is a list of turns: a query, and the session that is reached while it is executed, so that the store
may answer, refuse or break off differently every time.

What a query returns does not depend on the context with which it is executed, but for the context
that it hands back (`execute_of_context`).  A turn changes the context only if its query is a `use`
statement that returns (`contextAfter_perform`).  Hence, at every point of a run, the active
keyspace is that of the last such statement, or the one that the client had at first
(`keyspace_of_turns`).
-/

namespace CqlGateway

/-- A query, and the session that is reached while it is executed. -/
structure Turn where
  session : Session
  query : Query

/-- The question of a turn, put with the context that the client then has. -/
def Turn.question (t : Turn) : Session × Question :=
  (t.session, fun context => .execute t.query context)

/-- Executes queries one after the other. -/
def Client.execute (c : Client) (turns : List Turn) : List (Outcome Reply) × Client :=
  c.run (turns.map Turn.question)

/-- An operation returned. -/
def Outcome.returned {α : Type} (o : Outcome α) : Bool :=
  o.result.isOk

/-- The keyspace that a turn selects, if its query is a `use` statement that returned. -/
def Turn.selected? (t : Turn) (o : Outcome Reply) : Option (Option Keyspace) :=
  if t.query.kind = .use ∧ o.returned = true then some t.query.keyspace? else none

/-- The keyspaces that turns select, in order. -/
def selectedKeyspaces (turns : List Turn) (outcomes : List (Outcome Reply)) :
    List (Option Keyspace) :=
  (turns.zip outcomes).filterMap fun p => p.1.selected? p.2

/-- The reply without the context for the next call. -/
def Reply.bare : Reply → Reply
  | .selection s _ => .selection s {}
  | reply => reply

/-- The outcome without the context for the next call. -/
def Outcome.bare (o : Outcome Reply) : Outcome Reply :=
  { o with result := o.result.map Reply.bare }

variable {s : Service} {d : Dispatcher} {session : Session} {q : Query} {context : Context}

/-! ### Single queries -/

/-- **A query returns the same in every context**, but for the context that it hands back. -/
theorem execute_of_context (s : Service) (session : Session) (q : Query)
    (context context' : Context) :
    s.execute session q context' =
      { s.execute session q context with
        result := (s.execute session q context).result.map fun p => (p.1, context'.after q) } := by
  cases hanswer : session q.cql with
  | refused f =>
    rw [execute_of_refused hanswer, execute_of_refused hanswer]
    rfl
  | delivered r =>
    cases hrows : r.stream.rows with
    | nil =>
      rw [execute_of_no_rows hanswer hrows, execute_of_no_rows hanswer hrows]
      cases r.stream.interruption? <;> rfl
    | cons first rest =>
      cases htypes : (TypeMap.lookup s.generation (s.executor session) q).result with
      | error e =>
        rw [execute_of_lookup_error hanswer hrows htypes,
          execute_of_lookup_error hanswer hrows htypes]
        rfl
      | ok map =>
        rw [execute_of_rows hanswer hrows htypes, execute_of_rows hanswer hrows htypes]
        cases (readPeeked q.cql map s.limits first rest r.stream.interruption?).result <;> rfl

theorem context_of_execute {selection : Selection} {context' : Context}
    (h : (s.execute session q context).result = .ok (selection, context')) :
    context' = context.after q := by
  have hresult := congrArg Outcome.result (execute_of_context s session q context context)
  rw [h] at hresult
  exact (Prod.mk.inj (Except.ok.inj hresult)).2

/-- A query that returns gives a selection and the context behind it. -/
theorem reply_of_perform {reply : Reply}
    (h : (d.perform session (.execute q context)).result = .ok reply) :
    ∃ selection, reply = .selection selection (context.after q) := by
  obtain ⟨s, -, hs⟩ := Outcome.result_bind_eq_ok_iff.1 h
  obtain ⟨⟨selection, context'⟩, hexecute, hreply⟩ := Outcome.result_bind_eq_ok_iff.1 hs
  cases hreply
  exact ⟨selection, by rw [context_of_execute hexecute]⟩

theorem bare_service_perform (s : Service) (session : Session) (q : Query)
    (context context' : Context) :
    (s.perform session (.execute q context)).bare =
      (s.perform session (.execute q context')).bare := by
  have hcontext := execute_of_context s session q context context'
  have hresult' := congrArg Outcome.result hcontext
  simp only [Service.perform]
  cases hresult : (s.execute session q context).result with
  | error e =>
    rw [hresult] at hresult'
    rw [Outcome.bind_of_error hresult, Outcome.bind_of_error hresult', hcontext]
  | ok p =>
    rw [hresult] at hresult'
    rw [Outcome.bind_of_ok hresult, Outcome.bind_of_ok hresult', hcontext]
    rfl

theorem bare_perform (d : Dispatcher) (session : Session) (q : Query)
    (context context' : Context) :
    (d.perform session (.execute q context)).bare =
      (d.perform session (.execute q context')).bare := by
  simp only [Dispatcher.perform]
  cases hresult : (d.get session).1.result with
  | error e => rw [Outcome.bind_of_error hresult, Outcome.bind_of_error hresult]
  | ok s =>
    have hs := bare_service_perform s session q context context'
    simp only [Outcome.bare, Outcome.mk.injEq] at hs
    rw [Outcome.bind_of_ok hresult, Outcome.bind_of_ok hresult]
    simp only [Outcome.bare, hs]

/-- **Only a `use` statement that returns changes the context.** -/
theorem contextAfter_perform (d : Dispatcher) (session : Session) (q : Query)
    (context : Context) :
    Client.contextAfter ⟨d, context⟩ (d.perform session (.execute q context)) =
      if (d.perform session (.execute q context)).returned then context.after q else context := by
  unfold Client.contextAfter Outcome.returned
  cases hresult : (d.perform session (.execute q context)).result with
  | error e => rfl
  | ok reply =>
    obtain ⟨selection, rfl⟩ := reply_of_perform hresult
    rfl

theorem context_ask (c : Client) (t : Turn) :
    (c.ask t.session t.question.2).2.context =
      if (c.ask t.session t.question.2).1.returned then c.context.after t.query else c.context :=
  contextAfter_perform c.dispatcher t.session t.query c.context

/-! ### Runs -/

theorem execute_cons (c : Client) (t : Turn) (turns : List Turn) :
    c.execute (t :: turns) =
      ((c.ask t.session t.question.2).1 ::
          ((c.ask t.session t.question.2).2.execute turns).1,
        ((c.ask t.session t.question.2).2.execute turns).2) := rfl

/-- The outcomes of the first turns do not depend on the later ones. -/
theorem execute_take (c : Client) (turns : List Turn) (n : Nat) :
    (c.execute (turns.take n)).1 = (c.execute turns).1.take n := by
  induction turns generalizing c n with
  | nil => rw [List.take_nil]; exact List.take_nil.symm
  | cons t turns ih =>
    cases n with
    | zero => rfl
    | succ n =>
      rw [List.take_succ_cons, execute_cons, execute_cons, List.take_succ_cons, ih]

theorem keyspace_after (q : Query) (context : Context) :
    (context.after q).keyspace? =
      if q.kind = .use then q.keyspace? else context.keyspace? := by
  unfold Context.after
  split
  · next h => rw [if_pos h]; rfl
  · next h => rw [if_neg h]

theorem selectedKeyspaces_cons (t : Turn) (turns : List Turn) (o : Outcome Reply)
    (outcomes : List (Outcome Reply)) :
    selectedKeyspaces (t :: turns) (o :: outcomes) =
      (t.selected? o).toList ++ selectedKeyspaces turns outcomes := by
  cases h : t.selected? o with
  | none => exact List.filterMap_cons_none h
  | some keyspace? => exact List.filterMap_cons_some h

/-- A turn leaves the keyspace that it selects, or the one that it found. -/
theorem keyspace_ask (c : Client) (t : Turn) :
    (c.ask t.session t.question.2).2.context.keyspace? =
      (t.selected? (c.ask t.session t.question.2).1).getD c.context.keyspace? := by
  rw [context_ask, Turn.selected?]
  by_cases hreturned : (c.ask t.session t.question.2).1.returned = true
  · rw [if_pos hreturned, keyspace_after]
    by_cases huse : t.query.kind = .use
    · rw [if_pos huse, if_pos ⟨huse, hreturned⟩]
      rfl
    · rw [if_neg huse, if_neg fun h => huse h.1]
      rfl
  · rw [if_neg hreturned, if_neg fun h => hreturned h.2]
    rfl

/-- Behind a run the active keyspace is the last one that was selected. -/
theorem keyspace_execute (c : Client) (turns : List Turn) :
    (c.execute turns).2.context.keyspace? =
      (selectedKeyspaces turns (c.execute turns).1).getLast?.getD c.context.keyspace? := by
  induction turns generalizing c with
  | nil => rfl
  | cons t turns ih =>
    rw [execute_cons]
    dsimp only
    rw [ih, keyspace_ask, selectedKeyspaces_cons]
    cases t.selected? (c.ask t.session t.question.2).1 with
    | none => rfl
    | some keyspace? =>
      rw [Option.toList_some, List.singleton_append, List.getLast?_cons]
      rfl

/-- Runs in two contexts have the same outcomes, but for the contexts that are handed back. -/
theorem bare_execute (d : Dispatcher) (context context' : Context) (turns : List Turn) :
    (Client.execute ⟨d, context⟩ turns).1.map Outcome.bare =
      (Client.execute ⟨d, context'⟩ turns).1.map Outcome.bare := by
  induction turns generalizing d context context' with
  | nil => rfl
  | cons t turns ih =>
    rw [execute_cons, execute_cons, List.map_cons, List.map_cons]
    have hhead : (Client.ask ⟨d, context⟩ t.session t.question.2).1.bare =
        (Client.ask ⟨d, context'⟩ t.session t.question.2).1.bare :=
      bare_perform d t.session t.query context context'
    rw [hhead]
    exact congrArg _ (ih (d.settled t.session) _ _)

/-- **The active keyspace is that of the last `use` statement that returned**, after every turn of
a run, or the one that the client had at first if there was no such statement: neither another
query nor a `use` statement that fails changes it.  The context, for its part, changes nothing in
what the queries return. -/
theorem keyspace_of_turns (c : Client) (turns : List Turn) :
    (∀ n, (c.execute (turns.take n)).1 = (c.execute turns).1.take n ∧
      (c.execute (turns.take n)).2.context.keyspace? =
        (selectedKeyspaces (turns.take n) ((c.execute turns).1.take n)).getLast?.getD
          c.context.keyspace?) ∧
    ∀ context, (Client.execute { c with context } turns).1.map Outcome.bare =
      (c.execute turns).1.map Outcome.bare := by
  refine ⟨fun n => ⟨execute_take c turns n, ?_⟩, fun context => bare_execute _ _ _ turns⟩
  rw [← execute_take]
  exact keyspace_execute c (turns.take n)

end CqlGateway
