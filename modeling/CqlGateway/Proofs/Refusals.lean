import CqlGateway.Http.Gateway
import CqlGateway.Proofs.Conversions
import CqlGateway.Proofs.Dispatching
import CqlGateway.Proofs.Trimming

/-!
# Query requests that are refused

The body of a query request should be a JSON object with a statement and, if it names a keyspace at
all, a text that does.  A body that is not like this is `Malformed`, and the gateway should answer
it with the status 400 and leave the store alone.

What it does refuse in this way are the bodies that are `Refused` (`refusals_of_queries`).  These
are all malformed, but some malformed bodies are `Overlooked`: a body that is nested too deep for
the reader is a failure of the gateway, semicolons between which blanks stand are sent as a
statement, and a keyspace such as false, zero or an empty list counts as none
(`false_keyspace_is_overlooked`).
-/

namespace CqlGateway.Http

open Gateway

/-! ### Bodies -/

/-- How the body of a query request is judged. -/
structure Standard where
  /-- The errors of the reader that count against a body. -/
  counts : Json.ReadError → Prop
  /-- The texts that hold no statement. -/
  empty : List Char → Prop
  /-- The values that name a keyspace, or should. -/
  given : Json → Prop

/-- A body does not meet a standard. -/
inductive Standard.Rejects (standard : Standard) (room : Nat) (text : String) : Prop
  | unreadable {e : Json.ReadError} (hread : Json.readBytes room (Text.utf8Bytes text) = .error e)
      (hcounts : standard.counts e)
  | noObject {body : Json} (hread : Json.readBytes room (Text.utf8Bytes text) = .ok body)
      (hbody : ∀ members, body ≠ .obj members)
  | noText {body : Json} (hread : Json.readBytes room (Text.utf8Bytes text) = .ok body)
      (hcql : ∀ s, body.member? "cql" ≠ some (.str s))
  | noStatement {body : Json} {s : String}
      (hread : Json.readBytes room (Text.utf8Bytes text) = .ok body)
      (hcql : body.member? "cql" = some (.str s)) (hempty : standard.empty s.toList)
  | noKeyspace {body v : Json} (hread : Json.readBytes room (Text.utf8Bytes text) = .ok body)
      (hkeyspace : body.member? "active_keyspace" = some v) (hgiven : standard.given v)
      (htext : ∀ s, v ≠ .str s)

/-- The standard that a body should meet: it is read as an object with a statement, that is a text
of more than blanks and semicolons, and the keyspace in it, if there is one that is not null, is a
text. A body that is nested too deep to be read does not meet it. -/
def Standard.stated : Standard where
  counts _ := True
  empty cs := ∀ c ∈ cs, Text.isBlank c = true ∨ c = ';'
  given v := v ≠ .null

/-- The standard that is applied. -/
def Standard.applied : Standard where
  counts e := ∀ container, e ≠ .tooDeep container
  empty cs := Query.statement cs = []
  given v := v.isTruthy = true

/-- The body is one that should be refused. -/
def Malformed (room : Nat) (text : String) : Prop :=
  Standard.stated.Rejects room text

/-- The body is one that is refused. -/
def Refused (room : Nat) (text : String) : Prop :=
  Standard.applied.Rejects room text

/-- A fault of a body that is not noticed. -/
inductive Overlooked (room : Nat) (text : String) : Prop
  | tooDeep {container : Json.Container}
      (hread : Json.readBytes room (Text.utf8Bytes text) = .error (.tooDeep container))
  /-- Blanks between semicolons stop the semicolons from being dropped. -/
  | semicolons {body : Json} {s : String}
      (hread : Json.readBytes room (Text.utf8Bytes text) = .ok body)
      (hcql : body.member? "cql" = some (.str s))
      (hempty : ∀ c ∈ s.toList, Text.isBlank c = true ∨ c = ';')
      (hstatement : Query.statement s.toList ≠ [])
  /-- False, zero and what is empty count as no keyspace. -/
  | falsy {body v : Json} (hread : Json.readBytes room (Text.utf8Bytes text) = .ok body)
      (hkeyspace : body.member? "active_keyspace" = some v) (hnull : v ≠ .null)
      (htext : ∀ s, v ≠ .str s) (hfalsy : v.isTruthy = false)

variable {room : Nat} {text : String} {body : Json} {reason : String} {q : QueryBody}

/-! ### Reading bodies -/

theorem exists_of_bodyKeyspace_error (h : bodyKeyspace body = .error reason) :
    ∃ v, body.member? "active_keyspace" = some v ∧ v.isTruthy = true ∧ ∀ s, v ≠ .str s := by
  unfold bodyKeyspace at h
  split at h
  · cases h
  · cases h
  · next v htext hv =>
    split at h
    · next htruthy => exact ⟨v, hv, htruthy, htext⟩
    · cases h

theorem bodyKeyspace_error_of_given {v : Json} (hv : body.member? "active_keyspace" = some v)
    (htruthy : v.isTruthy = true) (htext : ∀ s, v ≠ .str s) :
    bodyKeyspace body = .error "active_keyspace must be a string" := by
  rw [bodyKeyspace, hv]
  split
  · next heq => cases heq
  · next s heq => exact absurd (Option.some.inj heq) (htext s)
  · next w _ heq =>
    obtain rfl := Option.some.inj heq
    rw [if_pos htruthy]

/-- What is known of a body that is read. -/
theorem readQueryBody_eq_ok (h : readQueryBody body = .ok q) :
    (∃ members, body = .obj members) ∧ body.member? "cql" = some (.str q.cql) ∧
      Text.isBlankText q.cql = false ∧ bodyKeyspace body = .ok q.keyspace? := by
  cases body with
  | obj members =>
    rw [readQueryBody] at h
    split at h
    · next cql hcql =>
      split at h
      · cases h
      · next hblank =>
        cases hkeyspace : bodyKeyspace (.obj members) with
        | error e => rw [hkeyspace] at h; cases h
        | ok keyspace? =>
          rw [hkeyspace] at h
          cases h
          exact ⟨⟨members, rfl⟩, hcql, Bool.of_not_eq_true hblank, rfl⟩
    · cases h
  | _ => cases h

/-- A body that is not read does not meet the standard that is applied. -/
theorem refused_of_readQueryBody_error
    (hread : Json.readBytes room (Text.utf8Bytes text) = .ok body)
    (h : readQueryBody body = .error reason) : Refused room text := by
  cases body with
  | obj members =>
    rw [readQueryBody] at h
    split at h
    · next cql hcql =>
      split at h
      · next hblank => exact .noStatement hread hcql (statement_of_blank hblank)
      · cases hkeyspace : bodyKeyspace (.obj members) with
        | ok keyspace? => rw [hkeyspace] at h; cases h
        | error e =>
          obtain ⟨v, hv, htruthy, htext⟩ := exists_of_bodyKeyspace_error hkeyspace
          exact .noKeyspace hread hv htruthy htext
    · next hcql => exact .noText hread hcql
  | _ => exact .noObject hread nofun

theorem not_refused_of_tooDeep {container : Json.Container}
    (hread : Json.readBytes room (Text.utf8Bytes text) = .error (.tooDeep container)) :
    ¬ Refused room text := by
  intro h
  cases h with
  | unreadable hread' hcounts => cases hread.symm.trans hread'; exact hcounts container rfl
  | noObject hread' _ | noText hread' _ | noStatement hread' _ _ | noKeyspace hread' _ _ _ =>
    cases hread.symm.trans hread'

/-- A body that is refused although it is read has no statement. -/
theorem statement_of_refused (hread : Json.readBytes room (Text.utf8Bytes text) = .ok body)
    (hq : readQueryBody body = .ok q) (h : Refused room text) :
    Query.statement q.cql.toList = [] := by
  obtain ⟨⟨members, hmembers⟩, hcql, -, hkeyspace⟩ := readQueryBody_eq_ok hq
  cases h with
  | unreadable hread' _ => cases hread.symm.trans hread'
  | noObject hread' hbody =>
    cases hread.symm.trans hread'
    exact absurd hmembers (hbody members)
  | noText hread' htext =>
    cases hread.symm.trans hread'
    exact absurd hcql (htext q.cql)
  | noStatement hread' hcql' hempty =>
    cases hread.symm.trans hread'
    cases hcql.symm.trans hcql'
    exact hempty
  | noKeyspace hread' hv hgiven htext =>
    cases hread.symm.trans hread'
    cases hkeyspace.symm.trans (bodyKeyspace_error_of_given hv hgiven htext)

/-! ### Standards -/

theorem malformed_of_refused (h : Refused room text) : Malformed room text := by
  cases h with
  | unreadable hread _ => exact .unreadable hread trivial
  | noObject hread hbody => exact .noObject hread hbody
  | noText hread hcql => exact .noText hread hcql
  | noStatement hread hcql hempty =>
    exact .noStatement hread hcql fun c hc => blank_or_semicolon_of_statement hempty hc
  | noKeyspace hread hv hgiven htext =>
    exact .noKeyspace hread hv (fun hnull => by rw [hnull] at hgiven; cases hgiven) htext

theorem malformed_of_overlooked (h : Overlooked room text) : Malformed room text := by
  cases h with
  | tooDeep hread => exact .unreadable hread trivial
  | semicolons hread hcql hempty _ => exact .noStatement hread hcql hempty
  | falsy hread hv hnull htext _ => exact .noKeyspace hread hv hnull htext

/-- What should be refused is refused or overlooked. -/
theorem refused_or_overlooked (h : Malformed room text) :
    Refused room text ∨ Overlooked room text := by
  cases h with
  | @unreadable e hread _ =>
    cases e with
    | tooDeep container => exact .inr (.tooDeep hread)
    | malformed => exact .inl (.unreadable hread nofun)
    | numberTooLong digits => exact .inl (.unreadable hread nofun)
  | noObject hread hbody => exact .inl (.noObject hread hbody)
  | noText hread hcql => exact .inl (.noText hread hcql)
  | @noStatement _ s hread hcql hempty =>
    by_cases hstatement : Query.statement s.toList = []
    · exact .inl (.noStatement hread hcql hstatement)
    · exact .inr (.semicolons hread hcql hempty hstatement)
  | @noKeyspace _ v hread hv hnull htext =>
    cases htruthy : v.isTruthy with
    | true => exact .inl (.noKeyspace hread hv htruthy htext)
    | false => exact .inr (.falsy hread hv hnull htext htruthy)

theorem malformed_iff : Malformed room text ↔ Refused room text ∨ Overlooked room text :=
  ⟨refused_or_overlooked, fun h => h.elim malformed_of_refused malformed_of_overlooked⟩

/-! ### Dispatchers -/

variable {d : Dispatcher} {g : Gateway} {store : Store} {session : Session}

/-- A dispatcher always has a service to ask. -/
theorem exists_service (d : Dispatcher) (session : Session) :
    ∃ s, (d.get session).1.result = .ok s := by
  cases hs : d.service? with
  | some s => exact ⟨s, by rw [Dispatcher.get, hs]; rfl⟩
  | none =>
    have hchoose : ∃ generation, (d.choose session).result = .ok generation := by
      rw [Dispatcher.choose]
      cases d.generation? with
      | some generation => exact ⟨generation, rfl⟩
      | none => exact (detectGeneration_spec { d.allowance with session } d.prescription).1
    obtain ⟨generation, hgeneration⟩ := hchoose
    exact ⟨_, (get_of_chosen hs hgeneration).1⟩

theorem perform_of_service {s : Service} (h : (d.get session).1.result = .ok s) (op : Operation) :
    (d.perform session op).texts =
      (d.get session).1.texts ++ (s.perform session op).texts := by
  rw [Dispatcher.perform, Outcome.bind_of_ok h, Outcome.texts, List.map_append]
  rfl

/-- The text of a query is sent, whatever becomes of it. -/
theorem mem_texts_perform (d : Dispatcher) (session : Session) (query : Query)
    (context : Context) : query.cql ∈ (d.perform session (.execute query context)).texts := by
  obtain ⟨s, hs⟩ := exists_service d session
  rw [perform_of_service hs, texts_perform]
  exact List.mem_append_right _ List.mem_cons_self

/-! ### Gateways -/

theorem texts_connect (g : Gateway) (refusal? : Option Fault) :
    (g.connect refusal?).1.texts = [] := by
  rw [connect]
  cases g.dispatcher? with
  | some d => rfl
  | none =>
    refine (texts_bind_of_silent fun _ => ?_).trans rfl
    exact (texts_bind_of_silent fun _ => rfl).trans rfl

/-- To connect sends nothing. -/
theorem statements_connect (g : Gateway) (refusal? : Option Fault) :
    (g.connect refusal?).1.statements = [] :=
  List.map_eq_nil_iff.1 (texts_connect g refusal?)

theorem stack_connect (g : Gateway) (refusal? : Option Fault) :
    (g.connect refusal?).2.stack = g.stack := by
  rw [connect]
  cases g.dispatcher? <;> rfl

/-- The stack stays as it is while a question is put. -/
theorem stack_ask (g : Gateway) (store : Store) (question : Except Failure Operation) :
    (g.ask store question).2.stack = g.stack := by
  rw [← stack_connect g store.refusal?]
  unfold ask
  generalize g.connect store.refusal? = connected
  dsimp only
  split <;> rfl

/-- A question is put to the dispatcher of the gateway. -/
theorem ask_of_connected (h : (g.connect store.refusal?).1.result = .ok d) (op : Operation) :
    (g.ask store (.ok op)).1.result = (d.perform store.session op).result ∧
      (g.ask store (.ok op)).1.statements = (d.perform store.session op).statements ∧
      (g.ask store (.ok op)).2 = { (g.connect store.refusal?).2 with
        dispatcher? := some (d.settled store.session) } := by
  have hsilent := statements_connect g store.refusal?
  unfold ask
  generalize g.connect store.refusal? = connected at h hsilent ⊢
  obtain ⟨connected, g'⟩ := connected
  dsimp only at h hsilent ⊢
  rw [h, Outcome.bind_of_ok h, hsilent]
  exact ⟨rfl, rfl, rfl⟩

/-- A question that turns out to be none is not put. -/
theorem ask_of_error (g : Gateway) (store : Store) (e : Failure) :
    (g.ask store (.error e)).1.statements = [] ∧
      (g.ask store (.error e)).2 = (g.connect store.refusal?).2 := by
  have hsilent := texts_connect g store.refusal?
  unfold ask
  generalize g.connect store.refusal? = connected at hsilent ⊢
  obtain ⟨connected, g'⟩ := connected
  dsimp only at hsilent ⊢
  have hreply : (connected >>= fun d => Outcome.ofExcept (.error e) >>= fun op =>
      d.perform store.session op).texts = [] :=
    (texts_bind_of_silent fun _ => rfl).trans hsilent
  cases connected.result <;> exact ⟨List.map_eq_nil_iff.1 hreply, rfl⟩

theorem result_ask_of_error (h : (g.connect store.refusal?).1.result = .ok d) (e : Failure) :
    (g.ask store (.error e)).1.result = .error e := by
  unfold ask
  generalize g.connect store.refusal? = connected at h ⊢
  obtain ⟨connected, g'⟩ := connected
  dsimp only at h ⊢
  rw [h, Outcome.bind_of_ok h]
  rfl

/-- Without a dispatcher no question is put. -/
theorem ask_of_unconnected {e : Failure} (h : (g.connect store.refusal?).1.result = .error e)
    (question : Except Failure Operation) :
    (g.ask store question).1.result = .error e ∧ (g.ask store question).1.statements = [] ∧
      (g.ask store question).2 = (g.connect store.refusal?).2 := by
  have hsilent := statements_connect g store.refusal?
  unfold ask
  generalize g.connect store.refusal? = connected at h hsilent ⊢
  obtain ⟨connected, g'⟩ := connected
  dsimp only at h hsilent ⊢
  rw [h, Outcome.bind_of_error h, hsilent]
  exact ⟨rfl, rfl, rfl⟩

/-- A selection is shown with the name of the active keyspace, if its values can be converted and
written. -/
theorem render_selection_eq_ok_iff {room : Nat} {listing : String} {subject : Members Json}
    {selection : Selection} {context : Context} {response : Response} :
    render room listing subject (.selection selection context) = .ok response ↔
      ∃ members, selection.members room = .ok members ∧
        (Json.obj (members ++ [("active_keyspace", Column.optionJson context.name?)])
          ).holdsOverlong = false ∧
        response = .ok (members ++ [("active_keyspace", Column.optionJson context.name?)]) := by
  simp only [render, replyMembers, bind_eq_ok_iff]
  constructor
  · rintro ⟨_, ⟨members, hmembers, hshown⟩, hresponse⟩
    cases hshown
    split at hresponse
    · cases hresponse
    · next hwritten =>
      cases hresponse
      exact ⟨members, hmembers, Bool.of_not_eq_true hwritten, rfl⟩
  · rintro ⟨members, hmembers, hwritten, rfl⟩
    exact ⟨_, ⟨members, hmembers, rfl⟩, by rw [hwritten]; rfl⟩

/-! ### Requests -/

theorem target_eq_route {route route' : Route} {method : Method}
    (h : route.target method = .route route') : route = route' ∧ method ∈ route.methods := by
  unfold Route.target at h
  split at h
  · cases h
  · split at h
    · next hmethod =>
      cases h
      exact ⟨rfl, List.contains_iff_mem.1 hmethod⟩
    · cases h

theorem method_of_target {r : Request} {route : Route} (h : r.target = .route route) :
    r.method ∈ route.methods := by
  unfold Request.target at h
  split at h
  · obtain ⟨rfl, hmethod⟩ := target_eq_route h
    exact hmethod
  · split at h
    · cases h
    · split at h <;> cases h

/-- A request for a query is answered by its body. -/
theorem handle_of_query {r : Request} (h : r.target = .route .query) :
    g.handle store r = g.handleQuery store r.body := by
  have hmethod : r.method = .post := List.mem_singleton.1 (method_of_target h)
  rw [handle, h, hmethod]
  rfl

/-- The status of a response. -/
def status? (o : Outcome Response) : Option Nat :=
  o.result.toOption.map Response.status

/-- The query of a body that is read is put to the dispatcher. -/
theorem handleQuery_of_body (hread : Json.readBytes g.stack.body (Text.utf8Bytes text) = .ok body)
    (hq : readQueryBody body = .ok q) :
    g.handleQuery store text = respond (g.ask store
      ((Query.ofText q.cql).map fun query => .execute query ⟨q.keyspace?⟩)) "" [] := by
  rw [handleQuery, hread]
  dsimp only
  rw [hq]

/-- A refused body is answered at once, unless all that is wrong is that it has no statement. -/
theorem handleQuery_of_refused (g : Gateway) (store : Store) (h : Refused g.stack.body text) :
    (∃ message, g.handleQuery store text = (pure (.refusal message), g)) ∨
      g.handleQuery store text = respond (g.ask store (.error .emptyQuery)) "" [] := by
  cases hread : Json.readBytes g.stack.body (Text.utf8Bytes text) with
  | error e =>
    refine .inl ⟨"JSON object required", ?_⟩
    rw [handleQuery, hread]
    cases e with
    | tooDeep container => exact absurd h (not_refused_of_tooDeep hread)
    | malformed => rfl
    | numberTooLong digits => rfl
  | ok body =>
    cases hq : readQueryBody body with
    | error reason =>
      refine .inl ⟨reason, ?_⟩
      rw [handleQuery, hread]
      dsimp only
      rw [hq]
    | ok q =>
      have hempty := ofText_of_nil (statement_of_refused hread hq h)
      refine .inr ?_
      rw [handleQuery_of_body hread hq, hempty]
      rfl

/-- The statement of a body that is not refused is sent, if it is read at all. -/
theorem accepted_of_not_refused (hread : Json.readBytes room (Text.utf8Bytes text) = .ok body)
    (h : ¬ Refused room text) :
    ∃ q query, readQueryBody body = .ok q ∧ Query.ofText q.cql = .ok query := by
  cases hq : readQueryBody body with
  | error reason => exact absurd (refused_of_readQueryBody_error hread hq) h
  | ok q =>
    have hstatement : Query.statement q.cql.toList ≠ [] := fun hnil =>
      h (.noStatement hread (readQueryBody_eq_ok hq).2.1 hnil)
    obtain ⟨query, hquery⟩ := exists_ofText hstatement
    exact ⟨q, query, rfl, hquery⟩

theorem statements_of_refused (g : Gateway) (store : Store) (h : Refused g.stack.body text) :
    (g.handleQuery store text).1.statements = [] := by
  rcases handleQuery_of_refused g store h with ⟨message, hhandle⟩ | hhandle
  · rw [hhandle]
    rfl
  · rw [hhandle]
    exact (ask_of_error g store .emptyQuery).1

theorem status_of_refused (hconnect : (g.connect store.refusal?).1.result = .ok d)
    (h : Refused g.stack.body text) : status? (g.handleQuery store text).1 = some 400 := by
  rcases handleQuery_of_refused g store h with ⟨message, hhandle⟩ | hhandle
  · rw [hhandle]
    rfl
  · rw [hhandle, respond, result_ask_of_error hconnect]
    rfl

theorem handleQuery_of_tooDeep {container : Json.Container} (g : Gateway) (store : Store)
    (hread : Json.readBytes g.stack.body (Text.utf8Bytes text) = .error (.tooDeep container)) :
    g.handleQuery store text = (pure { status := 500 }, g) := by
  rw [handleQuery, hread]
  rfl

theorem mem_texts_of_accepted {query : Query}
    (hconnect : (g.connect store.refusal?).1.result = .ok d)
    (hread : Json.readBytes g.stack.body (Text.utf8Bytes text) = .ok body)
    (hq : readQueryBody body = .ok q)
    (hquery : Query.ofText q.cql = .ok query) : query.cql ∈ (g.handleQuery store text).1.texts := by
  obtain ⟨-, hstatements, -⟩ := ask_of_connected hconnect (.execute query ⟨q.keyspace?⟩)
  have hsent := mem_texts_perform d store.session query ⟨q.keyspace?⟩
  rw [Outcome.texts, ← hstatements] at hsent
  rw [handleQuery_of_body hread hq, hquery]
  exact hsent

/-- A body that is not refused is nested too deep, or its statement is sent. -/
theorem overrun_or_sent (g : Gateway) (store : Store) (h : ¬ Refused g.stack.body text) :
    (∃ container, Json.readBytes g.stack.body (Text.utf8Bytes text) = .error (.tooDeep container)) ∨
      ∃ body cql query, Json.readBytes g.stack.body (Text.utf8Bytes text) = .ok body ∧
        body.member? "cql" = some (.str cql) ∧ Query.ofText cql = .ok query ∧
        ∀ d, (g.connect store.refusal?).1.result = .ok d →
          query.cql ∈ (g.handleQuery store text).1.texts := by
  cases hread : Json.readBytes g.stack.body (Text.utf8Bytes text) with
  | error e =>
    cases e with
    | tooDeep container => exact .inl ⟨container, rfl⟩
    | malformed | numberTooLong digits => exact absurd (.unreadable hread nofun) h
  | ok body =>
    obtain ⟨q, query, hq, hquery⟩ := accepted_of_not_refused hread h
    exact .inr ⟨body, q.cql, query, rfl, (readQueryBody_eq_ok hq).2.1, hquery,
      fun d hconnect => mem_texts_of_accepted hconnect hread hq hquery⟩

/-- **Which query requests are refused.**  Behind a refused body nothing is sent.  If the gateway
has a dispatcher, or gets one, a body is answered with the status 400 and without a statement iff
it does not meet the standard that is applied.  Of the other bodies those that are nested too deep
are a failure of the gateway, and the statements of all others are sent.  What is malformed is
refused or overlooked. -/
theorem refusals_of_queries (g : Gateway) (store : Store) {r : Request}
    (htarget : r.target = .route .query) :
    (Refused g.stack.body r.body → (g.handle store r).1.statements = []) ∧
    (∀ d, (g.connect store.refusal?).1.result = .ok d →
      (status? (g.handle store r).1 = some 400 ∧ (g.handle store r).1.statements = [] ↔
        Refused g.stack.body r.body)) ∧
    (¬ Refused g.stack.body r.body →
      (∃ container,
        Json.readBytes g.stack.body (Text.utf8Bytes r.body) = .error (.tooDeep container) ∧
        status? (g.handle store r).1 = some 500) ∨
      ∃ body cql query, Json.readBytes g.stack.body (Text.utf8Bytes r.body) = .ok body ∧
        body.member? "cql" = some (.str cql) ∧ Query.ofText cql = .ok query ∧
        ∀ d, (g.connect store.refusal?).1.result = .ok d →
          query.cql ∈ (g.handle store r).1.texts) ∧
    (Malformed g.stack.body r.body ↔
      Refused g.stack.body r.body ∨ Overlooked g.stack.body r.body) := by
  rw [handle_of_query htarget]
  refine ⟨statements_of_refused g store, fun d hconnect => ⟨fun ⟨hstatus, hsilent⟩ => ?_,
    fun h => ⟨status_of_refused hconnect h, statements_of_refused g store h⟩⟩, fun h => ?_,
    malformed_iff⟩
  · by_contra h
    rcases overrun_or_sent g store h with ⟨container, hdeep⟩ | ⟨_, _, query, -, -, -, hsent⟩
    · rw [handleQuery_of_tooDeep g store hdeep] at hstatus
      cases hstatus
    · have hmem := hsent d hconnect
      rw [Outcome.texts, hsilent] at hmem
      exact List.not_mem_nil hmem
  · rcases overrun_or_sent g store h with ⟨container, hdeep⟩ | hsent
    · refine .inl ⟨container, hdeep, ?_⟩
      rw [handleQuery_of_tooDeep g store hdeep]
      rfl
    · exact .inr hsent

/-! ### Requests to a small gateway -/

/-- A gateway that asks the older generation of the store. -/
def smallGateway : Gateway where
  settings :=
    { contactPoints := ["localhost"], port := 9042, username := "", password := ""
      protocolVersion := 2, connectTimeout := 10, queryTimeout := 120, engineGeneration := "1"
      rowsLimit := 2, columnsLimit := 3, resultLimit := 10, logLevel := "INFO" }
  stack := ⟨990, 990, 990⟩
  dispatcher? := some
    { limits := twoRowService.limits, allowance := ⟨120, 990⟩, generation? := some .v1 }

/-- A store that answers every text with an empty result. -/
def emptyStore : Store where
  session _ := .delivered { names := [] }

/-- A body is read as the characters that it is decoded to. -/
theorem read_of_decoded (cs : List Char)
    (hdecoded : Text.decodeDetected? (Text.utf8Bytes text) = some cs)
    (hread : Json.readChars room cs = .ok body) :
    Json.readBytes room (Text.utf8Bytes text) = .ok body := by
  rw [Json.readBytes, hdecoded]
  exact hread

/-- A request for a query. -/
def queryRequest (body : String) : Request :=
  { method := .post, path := "/query", body }

theorem target_queryRequest (body : String) : (queryRequest body).target = .route .query := by
  have hpath : Route.ofPath? (queryRequest body).decodedPath = some .query := by
    unfold queryRequest Request.decodedPath
    dsimp only
    decide +kernel
  rw [Request.target, hpath]
  rfl

/-- A body that is no object is refused. -/
theorem refusal_of_list :
    (queryRequest "[]").target = .route .query ∧ Refused 990 "[]" ∧
      status? (smallGateway.handle emptyStore (queryRequest "[]")).1 = some 400 ∧
      (smallGateway.handle emptyStore (queryRequest "[]")).1.statements = [] := by
  have hread : Json.readBytes 990 (Text.utf8Bytes "[]") = .ok (.arr []) :=
    read_of_decoded ['[', ']'] (by decide +kernel) rfl
  have hrefused : Refused 990 "[]" := .noObject hread nofun
  obtain ⟨-, hiff, -⟩ := refusals_of_queries smallGateway emptyStore (target_queryRequest "[]")
  exact ⟨target_queryRequest "[]", hrefused, (hiff _ rfl).2 hrefused⟩

/-- A body with a keyspace that is no text. -/
def falseKeyspaceBody : String := "\x7b\"cql\": \"select 1\", \"active_keyspace\": false\x7d"

theorem read_falseKeyspaceBody :
    Json.readBytes 990 (Text.utf8Bytes falseKeyspaceBody) =
      .ok (.obj [("cql", .str "select 1"), ("active_keyspace", .bool false)]) :=
  read_of_decoded
    ['\x7b', '"', 'c', 'q', 'l', '"', ':', ' ', '"', 's', 'e', 'l', 'e', 'c', 't', ' ', '1', '"',
     ',', ' ', '"', 'a', 'c', 't', 'i', 'v', 'e', '_', 'k', 'e', 'y', 's', 'p', 'a', 'c', 'e',
     '"', ':', ' ', 'f', 'a', 'l', 's', 'e', '\x7d']
    (by decide +kernel) rfl

/-- A keyspace that is no text is overlooked if it is false: the statement is sent. -/
theorem false_keyspace_is_overlooked :
    (queryRequest falseKeyspaceBody).target = .route .query ∧ Malformed 990 falseKeyspaceBody ∧
      status? (smallGateway.handle emptyStore (queryRequest falseKeyspaceBody)).1 = some 200 ∧
      (smallGateway.handle emptyStore (queryRequest falseKeyspaceBody)).1.texts = ["select 1"] := by
  have hquery : Query.ofText "select 1" = .ok ⟨"select 1", .select⟩ := rfl
  have hhandle : smallGateway.handle emptyStore (queryRequest falseKeyspaceBody) =
      respond (smallGateway.ask emptyStore (.ok (.execute ⟨"select 1", .select⟩ {}))) "" [] := by
    rw [handle_of_query (target_queryRequest _), queryRequest,
      handleQuery_of_body read_falseKeyspaceBody rfl, hquery]
    rfl
  refine ⟨target_queryRequest _, .noKeyspace read_falseKeyspaceBody rfl nofun nofun, ?_, ?_⟩
  · rw [hhandle]
    rfl
  · rw [hhandle]
    rfl

end CqlGateway.Http
