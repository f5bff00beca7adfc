import CqlGateway.Proofs.Contexts
import CqlGateway.Proofs.Refusals

/-!
# Clients over HTTP

A client over HTTP carries its active keyspace as a text: it sends the text along with every query,
and takes the one that a successful response returns for the next query (`Visitor`).  A client of
the service carries a context instead, and asks the dispatcher directly (`Caller`).

The two stay in step (`Stands`), whatever the store does.  A keyspace that a `use` statement
selects has no blanks around its name (`Context.Trimmed`), so that it comes back as it went out
when it is read from a request; hence what the one holds is at every point the name of what the
other one holds, and they get the same answers (`visits_refine_calls`).  It is only assumed that
every result can be shown (`Caller.Renders`): behind one that cannot, the client over HTTP would
keep the keyspace that it held.
-/

namespace CqlGateway

variable {q : Query} {context : Context}

/-! ### Names that requests keep -/

/-- There are no blanks around the name of the active keyspace. -/
def Context.Trimmed (context : Context) : Prop :=
  ∀ k, context.keyspace? = some k → Text.strip k.text = k.text

theorem trim_of_unquoteName {written name : List Char} (h : unquoteName? written = some name) :
    Text.trim name = name := by
  unfold unquoteName? at h
  extract_lets cs inner at h
  split at h
  · cases h
  · cases h
    exact Text.trim_trim inner

theorem trim_of_useTarget {cs name : List Char} (h : Query.useTarget? cs = some name) :
    Text.trim name = name := by
  unfold Query.useTarget? at h
  obtain ⟨named, -, htaken⟩ := Option.bind_eq_some_iff.1 h
  obtain ⟨⟨written, rest⟩, -, hname⟩ := Option.bind_eq_some_iff.1 htaken
  exact trim_of_unquoteName (Option.ite_none_right_eq_some.1 hname).2

/-- The keyspace that a `use` statement selects is trimmed. -/
theorem strip_of_use {k : Keyspace} (huse : q.kind = .use) (h : q.keyspace? = some k) :
    Text.strip k.text = k.text := by
  rw [Query.keyspace?, huse] at h
  obtain ⟨name, hname, hk⟩ := Option.bind_eq_some_iff.1 h
  unfold Identifier.ofText? at hk
  split at hk
  · cases hk
    rw [Text.strip, String.toList_ofList, trim_of_useTarget hname]
  · cases hk

theorem trimmed_after (h : context.Trimmed) (q : Query) : (context.after q).Trimmed := by
  intro k hk
  rw [keyspace_after] at hk
  split at hk
  · next huse => exact strip_of_use huse hk
  · exact h k hk

/-- The query is to blame for a failure: it is empty, or it failed. -/
def Failure.blamesQuery : Failure → Prop
  | .emptyQuery | .queryFailed _ _ => True
  | _ => False

namespace Http

open Gateway

/-! ### Clients of both kinds -/

/-- A query that is put to the gateway: the text of the query, the request that puts it, and the
store that is then reached. -/
structure Visit where
  store : Store
  cql : String
  request : Request

/-- A request puts a query, with a keyspace or without one, and is read where there is so much room.
-/
structure Request.Puts (r : Request) (room : Nat) (cql : String) (held? : Option String) :
    Prop where
  target : r.target = .route .query
  not_blank : Text.isBlankText cql = false
  body : ∃ members, Json.readBytes room (Text.utf8Bytes r.body) = .ok (.obj members) ∧
    (Json.obj members).member? "cql" = some (.str cql) ∧
    ((Json.obj members).member? "active_keyspace").getD .null = Column.optionJson held?

/-- A client over HTTP with the gateway that it visits.  It holds the active keyspace as a text. -/
structure Visitor where
  gateway : Gateway
  held? : Option String := none

/-- The keyspace that a response returns. -/
def Response.keyspace? (r : Response) : Option String :=
  match r.body?.bind (Json.member? "active_keyspace") with
  | some (.str name) => some name
  | _ => none

/-- The keyspace that a client holds behind a response: the one that a successful response returns,
or else the one that it held before. -/
def heldBehind (held? : Option String) (o : Outcome Response) : Option String :=
  match o.result with
  | .ok r => if r.status = 200 then r.keyspace? else held?
  | .error _ => held?

/-- Sends the request of a visit. -/
def Visitor.send (v : Visitor) (visit : Visit) : Outcome Response × Visitor :=
  let handled := v.gateway.handle visit.store visit.request
  (handled.1, ⟨handled.2, heldBehind v.held? handled.1⟩)

/-- The client behind some visits. -/
def Visitor.after (v : Visitor) (visits : List Visit) : Visitor :=
  visits.foldl (fun v visit => (v.send visit).2) v

/-- Every request puts the query of its visit with the keyspace that the client then holds. -/
def Visitor.Carries (v : Visitor) : List Visit → Prop
  | [] => True
  | visit :: rest =>
    visit.request.Puts v.gateway.stack.body visit.cql v.held? ∧ (v.send visit).2.Carries rest

/-- A client of the service that the gateway connects to.  It carries a context. -/
structure Caller where
  gateway : Gateway
  context : Context := {}

/-- Executes the query of a visit: takes the dispatcher of the gateway, reads the query and puts it
with the context, which stays as it is if anything fails. -/
def Caller.execute (c : Caller) (visit : Visit) : Outcome Reply × Caller :=
  let connected := c.gateway.connect visit.store.refusal?
  match connected.1.result, Query.ofText visit.cql with
  | .error e, _ => (.fail e, { c with gateway := connected.2 })
  | .ok _, .error e => (.fail e, { c with gateway := connected.2 })
  | .ok d, .ok q =>
    let asked := Client.ask ⟨d, c.context⟩ visit.store.session fun context => .execute q context
    (asked.1, ⟨{ connected.2 with dispatcher? := some asked.2.dispatcher }, asked.2.context⟩)

/-- The client behind some visits. -/
def Caller.after (c : Caller) (visits : List Visit) : Caller :=
  visits.foldl (fun c visit => (c.execute visit).2) c

/-- Every reply to the client can be shown: its values can be converted and written. -/
def Caller.Renders (c : Caller) : List Visit → Prop
  | [] => True
  | visit :: rest =>
    (∀ reply, (c.execute visit).1.result = .ok reply →
      ∃ response, render c.gateway.stack.reply "" [] reply = .ok response) ∧
    (c.execute visit).2.Renders rest

/-- The two clients visit the same gateway, and one holds the name of what the other carries. -/
structure Stands (v : Visitor) (c : Caller) : Prop where
  gateway : v.gateway = c.gateway
  held : v.held? = c.context.name?
  trimmed : c.context.Trimmed

variable {v : Visitor} {c : Caller} {visit : Visit} {g : Gateway} {store : Store}

/-! ### Requests -/

/-- The keyspace in a request comes back as it was sent. -/
theorem bodyKeyspace_of_held {body : Json} (htrimmed : context.Trimmed)
    (h : (body.member? "active_keyspace").getD .null = Column.optionJson context.name?) :
    bodyKeyspace body = .ok context.keyspace? := by
  obtain ⟨keyspace?⟩ := context
  cases keyspace? with
  | none =>
    -- no keyspace is sent as null, or not at all
    cases hmember : body.member? "active_keyspace" with
    | none => rw [bodyKeyspace, hmember]
    | some value =>
      rw [hmember, Option.getD_some] at h
      rw [bodyKeyspace, hmember, h]
      rfl
  | some k =>
    cases hmember : body.member? "active_keyspace" with
    | none =>
      rw [hmember] at h
      cases h
    | some value =>
      rw [hmember, Option.getD_some] at h
      rw [bodyKeyspace, hmember, h]
      show Except.ok (Identifier.ofText? .keyspace (Text.strip k.text)) = .ok (some k)
      rw [htrimmed k rfl, Identifier.ofText?, dif_pos k.not_blank]

theorem handle_of_puts {r : Request} {cql : String} (htrimmed : context.Trimmed)
    (h : r.Puts g.stack.body cql context.name?) :
    g.handle store r =
      respond (g.ask store ((Query.ofText cql).map fun q => .execute q context)) "" [] := by
  obtain ⟨members, hread, hcql, hkeyspace⟩ := h.body
  have hq : readQueryBody (.obj members) = .ok ⟨cql, context.keyspace?⟩ := by
    rw [readQueryBody, hcql]
    dsimp only
    rw [h.not_blank, bodyKeyspace_of_held htrimmed hkeyspace]
    rfl
  rw [handle_of_query h.target, handleQuery_of_body hread hq]

/-! ### Calls -/

theorem execute_of_unconnected {e : Failure}
    (h : (c.gateway.connect visit.store.refusal?).1.result = .error e) :
    c.execute visit =
      (.fail e, { c with gateway := (c.gateway.connect visit.store.refusal?).2 }) := by
  unfold Caller.execute
  dsimp only
  rw [h]

theorem execute_of_no_query {d : Dispatcher} {e : Failure}
    (h : (c.gateway.connect visit.store.refusal?).1.result = .ok d)
    (hq : Query.ofText visit.cql = .error e) :
    c.execute visit =
      (.fail e, { c with gateway := (c.gateway.connect visit.store.refusal?).2 }) := by
  unfold Caller.execute
  dsimp only
  rw [h, hq]

theorem execute_of_query {d : Dispatcher}
    (h : (c.gateway.connect visit.store.refusal?).1.result = .ok d)
    (hq : Query.ofText visit.cql = .ok q) :
    c.execute visit =
      (d.perform visit.store.session (.execute q c.context),
        { gateway := { (c.gateway.connect visit.store.refusal?).2 with
            dispatcher? := some (d.settled visit.store.session) }
          context := Client.contextAfter ⟨d, c.context⟩
            (d.perform visit.store.session (.execute q c.context)) }) := by
  unfold Caller.execute
  dsimp only
  rw [h, hq]
  rfl

/-- What is asked for a request is what a caller with the same context asks. -/
theorem ask_eq_execute (c : Caller) (visit : Visit) {asked : Outcome Reply × Gateway}
    (h : asked = c.gateway.ask visit.store
      ((Query.ofText visit.cql).map fun q => .execute q c.context)) :
    asked.1.result = (c.execute visit).1.result ∧
      asked.1.statements = (c.execute visit).1.statements ∧
      asked.2 = (c.execute visit).2.gateway := by
  subst h
  cases hconnect : (c.gateway.connect visit.store.refusal?).1.result with
  | error e =>
    obtain ⟨hresult, hstatements, hgateway⟩ := ask_of_unconnected hconnect
      ((Query.ofText visit.cql).map fun q => .execute q c.context)
    rw [execute_of_unconnected hconnect]
    exact ⟨hresult, hstatements, hgateway⟩
  | ok d =>
    cases hq : Query.ofText visit.cql with
    | error e =>
      obtain ⟨hstatements, hgateway⟩ := ask_of_error c.gateway visit.store e
      rw [execute_of_no_query hconnect hq]
      exact ⟨result_ask_of_error hconnect e, hstatements, hgateway⟩
    | ok q =>
      rw [execute_of_query hconnect hq]
      exact ask_of_connected hconnect (.execute q c.context)

/-- A call that returns gives a selection and the context behind its query. -/
theorem reply_of_execute {reply : Reply} (h : (c.execute visit).1.result = .ok reply) :
    ∃ q selection, reply = .selection selection (c.execute visit).2.context ∧
      (c.execute visit).2.context = c.context.after q := by
  cases hconnect : (c.gateway.connect visit.store.refusal?).1.result with
  | error e =>
    rw [execute_of_unconnected hconnect] at h
    cases h
  | ok d =>
    cases hq : Query.ofText visit.cql with
    | error e =>
      rw [execute_of_no_query hconnect hq] at h
      cases h
    | ok q =>
      rw [execute_of_query hconnect hq] at h ⊢
      dsimp only at h ⊢
      obtain ⟨selection, rfl⟩ := reply_of_perform h
      rw [contextAfter_perform, Outcome.returned, h]
      exact ⟨q, selection, rfl, rfl⟩

/-- A call that fails leaves the context as it is. -/
theorem context_of_failed_execute {e : Failure} (h : (c.execute visit).1.result = .error e) :
    (c.execute visit).2.context = c.context := by
  cases hconnect : (c.gateway.connect visit.store.refusal?).1.result with
  | error e' => rw [execute_of_unconnected hconnect]
  | ok d =>
    cases hq : Query.ofText visit.cql with
    | error e' => rw [execute_of_no_query hconnect hq]
    | ok q =>
      rw [execute_of_query hconnect hq] at h ⊢
      dsimp only at h ⊢
      rw [contextAfter_perform, Outcome.returned, h]
      rfl

/-! ### Responses -/

theorem member?_concat (members : Members Json) (name : String) (value : Json) :
    (Json.obj (members ++ [(name, value)])).member? name = some value := by
  have hfirst : (name == name) = true := BEq.rfl
  rw [Json.member?, List.reverse_append, List.reverse_singleton, List.singleton_append,
    List.find?_cons, hfirst, Option.map_some]

/-- The keyspace in a successful response is read as it was written. -/
theorem keyspace?_ok (members : Members Json) (name? : Option String) :
    (Response.ok (members ++ [("active_keyspace", Column.optionJson name?)])).keyspace? =
      name? := by
  unfold Response.keyspace? Response.ok
  rw [Option.bind_some, member?_concat]
  cases name? <;> rfl

theorem heldBehind_of_success {held? : Option String} {o : Outcome Response} {r : Response}
    (h : o.result = .ok r) (hstatus : r.status = 200) : heldBehind held? o = r.keyspace? := by
  unfold heldBehind
  rw [h]
  exact if_pos hstatus

theorem heldBehind_of_failure {held? : Option String} {o : Outcome Response} {r : Response}
    (h : o.result = .ok r) (hstatus : r.status ≠ 200) : heldBehind held? o = held? := by
  unfold heldBehind
  rw [h]
  exact if_neg hstatus

/-- A failure is the fault of the client or of the gateway. -/
theorem status_ofFailure (e : Failure) :
    (Response.ofFailure e).status = 400 ∨ (Response.ofFailure e).status = 500 := by
  unfold Response.ofFailure
  split
  · exact .inl rfl
  · split
    · exact .inl rfl
    · exact .inr rfl

theorem status_of_blamesQuery {e : Failure} (h : Failure.blamesQuery e) :
    (Response.ofFailure e).status = 400 := by
  cases e <;> first | rfl | cases h

/-! ### Visits -/

/-- What a visit gives the two clients: the same statements, and the same result, the one as a
response and the other as a reply. -/
structure Agrees (v : Visitor) (c : Caller) (visit : Visit) : Prop where
  statements : (v.send visit).1.statements = (c.execute visit).1.statements
  returned : ∀ reply, (c.execute visit).1.result = .ok reply →
    ∃ selection members, reply = .selection selection (c.execute visit).2.context ∧
      selection.members c.gateway.stack.reply = .ok members ∧
      (v.send visit).1.result = .ok (.ok (members ++
        [("active_keyspace", Column.optionJson (c.execute visit).2.context.name?)]))
  failed : ∀ e, (c.execute visit).1.result = .error e →
    (∃ response, (v.send visit).1.result = .ok response ∧
      (response.status = 400 ∨ response.status = 500) ∧
      (e.blamesQuery → response.status = 400)) ∧
    (v.send visit).2.held? = v.held?

/-- A visit answers with the result of the call. -/
theorem send_of_stands (h : Stands v c)
    (hput : visit.request.Puts v.gateway.stack.body visit.cql v.held?) :
    (v.send visit).1.result = .ok (Response.ofResult
      ((c.execute visit).1.result.bind (render c.gateway.stack.reply "" []))) ∧
    (v.send visit).1.statements = (c.execute visit).1.statements ∧
    (v.send visit).2.gateway = (c.execute visit).2.gateway := by
  obtain ⟨asked, hasked⟩ : ∃ asked, asked = c.gateway.ask visit.store
    ((Query.ofText visit.cql).map fun q => .execute q c.context) := ⟨_, rfl⟩
  obtain ⟨hresult, hstatements, hgateway⟩ := ask_eq_execute c visit hasked
  have hstack : asked.2.stack = c.gateway.stack := by
    rw [hasked]
    exact stack_ask _ _ _
  have hhandle : v.gateway.handle visit.store visit.request = respond asked "" [] := by
    rw [h.held] at hput
    rw [hasked, ← h.gateway]
    exact handle_of_puts h.trimmed hput
  rw [Visitor.send, hhandle, ← hresult, ← hstatements, ← hgateway, ← hstack]
  exact ⟨rfl, rfl, rfl⟩

theorem held_send (v : Visitor) (visit : Visit) :
    (v.send visit).2.held? = heldBehind v.held? (v.send visit).1 := by
  rw [Visitor.send]

/-- A call that fails leaves both clients with what they hold. -/
theorem agrees_of_failed (h : Stands v c)
    (hput : visit.request.Puts v.gateway.stack.body visit.cql v.held?) {e : Failure}
    (hfails : (c.execute visit).1.result = .error e) :
    Agrees v c visit ∧ Stands (v.send visit).2 (c.execute visit).2 := by
  obtain ⟨hresult, hstatements, hgateway⟩ := send_of_stands h hput
  rw [hfails] at hresult
  have hcontext := context_of_failed_execute hfails
  have hstatus := status_ofFailure e
  have hkept : (v.send visit).2.held? = v.held? := by
    rw [held_send]
    refine heldBehind_of_failure hresult ?_
    change (Response.ofFailure e).status ≠ 200
    rcases hstatus with hs | hs <;> simp [hs]
  constructor
  · refine ⟨hstatements, fun reply hreply => ?_, fun e' he' => ?_⟩
    · cases hfails.symm.trans hreply
    · cases hfails.symm.trans he'
      exact ⟨⟨_, hresult, hstatus, status_of_blamesQuery⟩, hkept⟩
  · refine ⟨hgateway, ?_, ?_⟩
    · rw [hkept, hcontext, h.held]
    · rw [hcontext]
      exact h.trimmed

/-- A call that returns gives both clients the keyspace behind its query, if its reply can be
shown. -/
theorem agrees_of_returned (h : Stands v c)
    (hput : visit.request.Puts v.gateway.stack.body visit.cql v.held?) {reply : Reply}
    (hreturns : (c.execute visit).1.result = .ok reply) {response : Response}
    (hrender : render c.gateway.stack.reply "" [] reply = .ok response) :
    Agrees v c visit ∧ Stands (v.send visit).2 (c.execute visit).2 := by
  obtain ⟨hresult, hstatements, hgateway⟩ := send_of_stands h hput
  obtain ⟨q, selection, rfl, hcontext⟩ := reply_of_execute hreturns
  obtain ⟨members, hmembers, -, rfl⟩ := render_selection_eq_ok_iff.1 hrender
  rw [hreturns, Except.bind, hrender, Response.ofResult] at hresult
  constructor
  · refine ⟨hstatements, fun reply hreply => ?_, fun e he => ?_⟩
    · cases hreturns.symm.trans hreply
      exact ⟨selection, members, rfl, hmembers, hresult⟩
    · cases hreturns.symm.trans he
  · refine ⟨hgateway, ?_, ?_⟩
    · rw [held_send, heldBehind_of_success hresult rfl]
      exact keyspace?_ok members _
    · rw [hcontext]
      exact trimmed_after h.trimmed q

/-- **What a visit does** to two clients that stand together. -/
theorem agrees_of_stands (h : Stands v c)
    (hput : visit.request.Puts v.gateway.stack.body visit.cql v.held?)
    (hrenders : ∀ reply, (c.execute visit).1.result = .ok reply →
      ∃ response, render c.gateway.stack.reply "" [] reply = .ok response) :
    Agrees v c visit ∧ Stands (v.send visit).2 (c.execute visit).2 := by
  cases hexecute : (c.execute visit).1.result with
  | error e => exact agrees_of_failed h hput hexecute
  | ok reply =>
    obtain ⟨response, hrender⟩ := hrenders reply hexecute
    exact agrees_of_returned h hput hexecute hrender

/-! ### Runs -/

theorem visitor_after_cons (v : Visitor) (visit : Visit) (visits : List Visit) :
    v.after (visit :: visits) = (v.send visit).2.after visits := rfl

theorem caller_after_cons (c : Caller) (visit : Visit) (visits : List Visit) :
    c.after (visit :: visits) = (c.execute visit).2.after visits := rfl

theorem stands_after {visits : List Visit} (h : Stands v c) (hcarries : v.Carries visits)
    (hrenders : c.Renders visits) : Stands (v.after visits) (c.after visits) := by
  induction visits generalizing v c with
  | nil => exact h
  | cons visit rest ih =>
    rw [visitor_after_cons, caller_after_cons]
    exact ih (agrees_of_stands h hcarries.1 hrenders.1).2 hcarries.2 hrenders.2

theorem carries_take {visits : List Visit} (hcarries : v.Carries visits) (n : Nat) :
    v.Carries (visits.take n) := by
  induction visits generalizing v n with
  | nil => rw [List.take_nil]; trivial
  | cons visit rest ih =>
    cases n with
    | zero => trivial
    | succ n => exact ⟨hcarries.1, ih hcarries.2 n⟩

theorem puts_of_carries {visits : List Visit} (hcarries : v.Carries visits) {n : Nat}
    (hvisit : visits[n]? = some visit) :
    visit.request.Puts (v.after (visits.take n)).gateway.stack.body visit.cql
      (v.after (visits.take n)).held? := by
  induction visits generalizing v n with
  | nil => cases hvisit
  | cons first rest ih =>
    cases n with
    | zero =>
      cases hvisit
      exact hcarries.1
    | succ n =>
      rw [List.take_succ_cons, visitor_after_cons]
      exact ih hcarries.2 hvisit

theorem renders_take {visits : List Visit} (hrenders : c.Renders visits) (n : Nat) :
    c.Renders (visits.take n) := by
  induction visits generalizing c n with
  | nil => rw [List.take_nil]; trivial
  | cons visit rest ih =>
    cases n with
    | zero => trivial
    | succ n => exact ⟨hrenders.1, ih hrenders.2 n⟩

theorem render_of_renders {visits : List Visit} (hrenders : c.Renders visits) {n : Nat}
    (hvisit : visits[n]? = some visit) {reply : Reply}
    (hreply : ((c.after (visits.take n)).execute visit).1.result = .ok reply) :
    ∃ response,
      render (c.after (visits.take n)).gateway.stack.reply "" [] reply = .ok response := by
  induction visits generalizing c n with
  | nil => cases hvisit
  | cons first rest ih =>
    cases n with
    | zero =>
      cases hvisit
      exact hrenders.1 reply hreply
    | succ n =>
      rw [List.take_succ_cons, caller_after_cons] at hreply ⊢
      exact ih hrenders.2 hvisit hreply

/-- **A client over HTTP is a client of the service.**  Both begin with the same keyspace, or with
none, and every result that the service returns can be shown.  Then, however the store answers,
refuses or cannot be reached, what the client over HTTP holds is at every point of a run the very
name of the keyspace that the other client carries; the requests send the same statements; a
successful response is the selection of the reply with this name, and a failure gives another
status, 400 if the query is to blame, and leaves what is held as it is. -/
theorem visits_refine_calls (g : Gateway) (context : Context) (htrimmed : context.Trimmed)
    {visits : List Visit} (hcarries : Visitor.Carries ⟨g, context.name?⟩ visits)
    (hrenders : Caller.Renders ⟨g, context⟩ visits) :
    (∀ n, (Visitor.after ⟨g, context.name?⟩ (visits.take n)).held? =
      (Caller.after ⟨g, context⟩ (visits.take n)).context.name?) ∧
    ∀ n visit, visits[n]? = some visit →
      Agrees (Visitor.after ⟨g, context.name?⟩ (visits.take n))
        (Caller.after ⟨g, context⟩ (visits.take n)) visit := by
  have hstart : Stands ⟨g, context.name?⟩ ⟨g, context⟩ := ⟨rfl, rfl, htrimmed⟩
  have hstands : ∀ n, Stands (Visitor.after ⟨g, context.name?⟩ (visits.take n))
      (Caller.after ⟨g, context⟩ (visits.take n)) :=
    fun n => stands_after hstart (carries_take hcarries n) (renders_take hrenders n)
  refine ⟨fun n => (hstands n).held, fun n visit hvisit => ?_⟩
  exact (agrees_of_stands (hstands n) (puts_of_carries hcarries hvisit)
    fun _ => render_of_renders hrenders hvisit).1

/-! ### A run of two visits -/

/-- A visit that selects a keyspace. -/
def useVisit : Visit where
  store := emptyStore
  cql := "use Ks"
  request := queryRequest "\x7b\"cql\": \"use Ks\"\x7d"

/-- A visit in this keyspace. -/
def selectVisit : Visit where
  store := emptyStore
  cql := "select 1"
  request := queryRequest "\x7b\"cql\": \"select 1\", \"active_keyspace\": \"Ks\"\x7d"

theorem read_useVisit :
    Json.readBytes 990 (Text.utf8Bytes useVisit.request.body) =
      .ok (.obj [("cql", .str "use Ks")]) :=
  read_of_decoded
    ['\x7b', '"', 'c', 'q', 'l', '"', ':', ' ', '"', 'u', 's', 'e', ' ', 'K', 's', '"', '\x7d']
    (by decide +kernel) rfl

theorem read_selectVisit :
    Json.readBytes 990 (Text.utf8Bytes selectVisit.request.body) =
      .ok (.obj [("cql", .str "select 1"), ("active_keyspace", .str "Ks")]) :=
  read_of_decoded
    ['\x7b', '"', 'c', 'q', 'l', '"', ':', ' ', '"', 's', 'e', 'l', 'e', 'c', 't', ' ', '1', '"',
     ',', ' ', '"', 'a', 'c', 't', 'i', 'v', 'e', '_', 'k', 'e', 'y', 's', 'p', 'a', 'c', 'e',
     '"', ':', ' ', '"', 'K', 's', '"', '\x7d']
    (by decide +kernel) rfl

theorem useVisit_puts : useVisit.request.Puts 990 useVisit.cql none where
  target := target_queryRequest _
  not_blank := by decide +kernel
  body := ⟨_, read_useVisit, rfl, rfl⟩

theorem selectVisit_puts : selectVisit.request.Puts 990 selectVisit.cql (some "Ks") where
  target := target_queryRequest _
  not_blank := by decide +kernel
  body := ⟨_, read_selectVisit, rfl, rfl⟩

/-- The result of a query without rows can be shown. -/
theorem exists_render_empty (room : Nat) (context : Context) :
    ∃ response, render room "" [] (.selection .empty context) = .ok response :=
  ⟨_, render_selection_eq_ok_iff.2 ⟨_, rfl, by cases context.name? <;> rfl, rfl⟩⟩

theorem renders_of_useVisit : Caller.Renders ⟨smallGateway, {}⟩ [useVisit, selectVisit] := by
  have huse : Query.ofText useVisit.cql = .ok ⟨"use Ks", .use⟩ := rfl
  have hselect : Query.ofText selectVisit.cql = .ok ⟨"select 1", .select⟩ := rfl
  refine ⟨fun reply hreply => ?_, fun reply hreply => ?_, trivial⟩
  · rw [execute_of_query rfl huse] at hreply
    cases hreply
    exact exists_render_empty _ _
  · rw [execute_of_query rfl huse, execute_of_query rfl hselect] at hreply
    cases hreply
    exact exists_render_empty _ _

/-- The second visit puts its query with the keyspace as the first one wrote it. -/
theorem puts_behind_useVisit :
    selectVisit.request.Puts
      (Visitor.send ⟨smallGateway, none⟩ useVisit).2.gateway.stack.body selectVisit.cql
      (Visitor.send ⟨smallGateway, none⟩ useVisit).2.held? := by
  have hstart : Stands ⟨smallGateway, none⟩ ⟨smallGateway, {}⟩ := ⟨rfl, rfl, nofun⟩
  have hq : Query.ofText useVisit.cql = .ok ⟨"use Ks", .use⟩ := rfl
  have hkeyspace : (Query.mk "use Ks" .use).keyspace?.map Identifier.text = some "Ks" := by
    decide +kernel
  obtain ⟨-, hstands⟩ := agrees_of_stands hstart useVisit_puts renders_of_useVisit.1
  have hheld : (Visitor.send ⟨smallGateway, none⟩ useVisit).2.held? = some "Ks" := by
    rw [hstands.held, execute_of_query rfl hq]
    exact hkeyspace
  have hroom : (Visitor.send ⟨smallGateway, none⟩ useVisit).2.gateway.stack.body = 990 := by
    rw [hstands.gateway, execute_of_query rfl hq]
    rfl
  rw [hheld, hroom]
  exact selectVisit_puts

/-- The keyspace that the first visit selects is what the second one sends along and returns. -/
theorem visits_refine_calls_of_use :
    Visitor.Carries ⟨smallGateway, none⟩ [useVisit, selectVisit] ∧
      Caller.Renders ⟨smallGateway, {}⟩ [useVisit, selectVisit] ∧
      (Visitor.after ⟨smallGateway, none⟩ [useVisit, selectVisit]).held? =
        (Caller.after ⟨smallGateway, {}⟩ [useVisit, selectVisit]).context.name? := by
  have htrimmed : Context.Trimmed {} := nofun
  have hcarries : Visitor.Carries ⟨smallGateway, none⟩ [useVisit, selectVisit] :=
    ⟨useVisit_puts, puts_behind_useVisit, trivial⟩
  exact ⟨hcarries, renders_of_useVisit,
    (visits_refine_calls smallGateway {} htrimmed hcarries renders_of_useVisit).1 2⟩

end Http

end CqlGateway
