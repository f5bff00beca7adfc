import CqlGateway.Proofs.ColumnTypes
import CqlGateway.Proofs.Refusals
import CqlGateway.Proofs.Rendering

/-!
# How queries fail

A query should fail only if its own statement does: with the text of the statement and the fault
that refused it or ended its rows too early.  The lookup of column types does not fail as long as
the metadata rows hold nothing but nulls and texts that are not nested too deep
(`exists_types_of_readable`).

There is one more failure.  A statement may give a column a blank name, which no column of a
selection can have.  If a cell of such a column is kept, then the query fails with a bad name,
although the session has answered, and the gateway blames the request for it
(`failures_of_queries`, `blank_name_is_refused`).

A query that returns is answered, unless a value in the result cannot be converted or be written.
-/

namespace CqlGateway

/-- The lookup of column types is answered with readable values. -/
def Service.ReadsTypes (s : Service) (session : Session) (q : Query) : Prop :=
  ∀ m, TypeMap.question? s.generation q = some m →
    ∀ row ∈ (session m.cql).stream.rows, ∀ cell ∈ row, cell.value.Readable s.allowance.room

variable {s : Service} {session : Session} {q : Query} {context : Context} {room : Nat}
  {row : List Cell}

/-! ### Readable metadata -/

theorem readable_valueOf (h : ∀ cell ∈ row, cell.value.Readable room) (name : String) :
    (valueOf row name).Readable room := by
  rw [valueOf]
  cases hfind : row.find? fun c => c.key == Text.lower name with
  | none => exact .inl rfl
  | some cell => exact h cell (List.mem_of_find?_eq_some hfind)

theorem canRead_of_readable (g : Generation) (h : ∀ cell ∈ row, cell.value.Readable room) :
    g.CanRead room row := by
  cases g with
  | v1 => exact ⟨readable_valueOf h "key_aliases", readable_valueOf h "column_aliases"⟩
  | v2 =>
    exact ⟨(readable_valueOf h "column_name").textual, (readable_valueOf h "type").textual⟩

/-- **A lookup of readable values finds column types.** -/
theorem exists_types_of_readable (h : s.ReadsTypes session q) :
    ∃ types, (TypeMap.lookup s.generation (s.executor session) q).result = .ok types := by
  rw [result_lookup_eq]
  cases hquestion : TypeMap.question? s.generation q with
  | none => exact ⟨.empty, rfl⟩
  | some m =>
    dsimp only
    cases hrows : (s.executor session).rows? m.cql with
    | none => exact ⟨.empty, rfl⟩
    | some rows =>
      obtain ⟨-, rfl⟩ := rows?_eq_some_iff.1 hrows
      obtain ⟨types, htypes, -⟩ := exists_addRows
        (fun row hrow => canRead_of_readable s.generation (h m hquestion row hrow)) .empty
      exact ⟨types, htypes⟩

/-! ### Failures of a query -/

/-- A query fails with a blank name, or else with an early fault of its answer. -/
theorem result_execute_eq_error_iff (context : Context) (h : s.ReadsTypes session q)
    (e : Failure) :
    (s.execute session q context).result = .error e ↔
      ((session q.cql).showsBlankName s.limits = true ∧ e = .blankName .typedColumn) ∨
        ((session q.cql).showsBlankName s.limits = false ∧
          ∃ f, (session q.cql).earlyFault? s.limits.rows = some f ∧
            e = .queryFailed q.cql (some f)) := by
  obtain ⟨types, htypes⟩ := exists_types_of_readable h
  rw [result_execute_of_types context fun _ => htypes, resultOn_eq]
  cases (session q.cql).showsBlankName s.limits with
  | true => simp [eq_comm]
  | false => cases (session q.cql).earlyFault? s.limits.rows <;> simp [eq_comm]

/-! ### Failed requests -/

namespace Http

open Gateway

/-- A request puts a query to the service that answers for a gateway. -/
structure Asks (g : Gateway) (store : Store) (r : Request) (s : Service) (q : Query)
    (context : Context) : Prop where
  target : r.target = .route .query
  body : ∃ json body, Json.readBytes g.stack.body (Text.utf8Bytes r.body) = .ok json ∧
    readQueryBody json = .ok body ∧ Query.ofText body.cql = .ok q ∧ context = ⟨body.keyspace?⟩
  service : ∃ d, (g.connect store.refusal?).1.result = .ok d ∧
    (d.get store.session).1.result = .ok s

variable {g : Gateway} {store : Store} {r : Request}

theorem result_perform_execute (s : Service) (session : Session) (q : Query) (context : Context) :
    (s.perform session (.execute q context)).result =
      (s.execute session q context).result.map fun reply => .selection reply.1 reply.2 := by
  cases h : (s.execute session q context).result with
  | error e => rw [Service.perform, Outcome.bind_of_error h]; rfl
  | ok reply => rw [Service.perform, Outcome.result_bind_of_ok h]; rfl

/-- **The status tells how the query ended**, and whether the reply could be shown. -/
theorem status_of_asks (h : Asks g store r s q context) :
    status? (g.handle store r).1 = some (Response.ofResult
      ((s.perform store.session (.execute q context)).result.bind
        (render g.stack.reply "" []))).status := by
  obtain ⟨json, body, hread, hbody, hquery, rfl⟩ := h.body
  obtain ⟨d, hconnect, hservice⟩ := h.service
  obtain ⟨hasked, -, -⟩ := ask_of_connected hconnect (.execute q ⟨body.keyspace?⟩)
  have hperform : (d.perform store.session (.execute q ⟨body.keyspace?⟩)).result =
      (s.perform store.session (.execute q ⟨body.keyspace?⟩)).result :=
    Outcome.result_bind_of_ok hservice _
  have hstack := stack_ask g store (.ok (.execute q ⟨body.keyspace?⟩))
  rw [hperform] at hasked
  rw [handle_of_query h.target, handleQuery_of_body hread hbody, hquery, status?, respond]
  dsimp only [Except.map]
  rw [hasked, hstack]
  rfl

theorem status_of_failed {e : Failure} (h : Asks g store r s q context)
    (hfails : (s.execute store.session q context).result = .error e) :
    status? (g.handle store r).1 = some (Response.ofFailure e).status := by
  rw [status_of_asks h, result_perform_execute, hfails]
  rfl

theorem status_of_returned {selection : Selection} {context' : Context}
    (h : Asks g store r s q context)
    (hreturns : (s.execute store.session q context).result = .ok (selection, context')) :
    status? (g.handle store r).1 = some (Response.ofResult
      (render g.stack.reply "" [] (.selection selection context'))).status := by
  rw [status_of_asks h, result_perform_execute, hreturns]
  rfl

/-- A failed query is the fault of the request. -/
theorem status_of_failed_execute {e : Failure} (hreads : s.ReadsTypes store.session q)
    (h : Asks g store r s q context)
    (hfails : (s.execute store.session q context).result = .error e) :
    status? (g.handle store r).1 = some 400 := by
  rw [status_of_failed h hfails]
  rcases (result_execute_eq_error_iff context hreads e).1 hfails with ⟨-, rfl⟩ | ⟨-, f, -, rfl⟩
  · rfl
  · rfl

/-- A selection of writable values is shown. -/
theorem exists_render_of_writable {selection : Selection} (h : selection.Writable room)
    (context : Context) :
    ∃ members, render room "" [] (.selection selection context) = .ok (.ok members) := by
  obtain ⟨ms, hms, hwritten⟩ := exists_members_of_writable h
  have hname : (Column.optionJson context.name?).holdsOverlong = false := by
    cases context.name? <;> rfl
  refine ⟨_, render_selection_eq_ok_iff.2 ⟨ms, hms, ?_, rfl⟩⟩
  rw [holdsOverlong_obj_eq_false, List.forall_mem_append, List.forall_mem_singleton]
  exact ⟨hwritten, hname⟩

/-- **How queries fail.**  If the metadata rows are readable, then a query fails with a blank name
iff a cell with one is kept of its answer; otherwise it fails iff its own statement has an early
fault, with the text of the statement and this fault.  A request that puts the query is refused if
it fails.  If it returns, the request is answered as long as every value in the result can be
converted and written, and otherwise fails with what keeps the result from being shown. -/
theorem failures_of_queries (s : Service) (session : Session) (q : Query) (context : Context)
    (h : s.ReadsTypes session q) :
    (∀ e, (s.execute session q context).result = .error e ↔
      ((session q.cql).showsBlankName s.limits = true ∧ e = .blankName .typedColumn) ∨
        ((session q.cql).showsBlankName s.limits = false ∧
          ∃ f, (session q.cql).earlyFault? s.limits.rows = some f ∧
            e = .queryFailed q.cql (some f))) ∧
    ∀ (g : Gateway) (refusal? : Option Fault) (r : Request),
      Asks g ⟨session, refusal?⟩ r s q context →
        (∀ e, (s.execute session q context).result = .error e →
          status? (g.handle ⟨session, refusal?⟩ r).1 = some 400) ∧
        ∀ selection context', (s.execute session q context).result = .ok (selection, context') →
          (selection.Writable g.stack.reply →
            status? (g.handle ⟨session, refusal?⟩ r).1 = some 200) ∧
          ∀ e, render g.stack.reply "" [] (.selection selection context') = .error e →
            status? (g.handle ⟨session, refusal?⟩ r).1 = some (Response.ofFailure e).status := by
  refine ⟨result_execute_eq_error_iff context h, fun g refusal? r hasks =>
    ⟨fun e hfails => status_of_failed_execute h hasks hfails,
      fun selection context' hreturns => ⟨fun hwritable => ?_, fun e hrender => ?_⟩⟩⟩
  · obtain ⟨members, hrender⟩ := exists_render_of_writable hwritable context'
    rw [status_of_returned hasks hreturns, hrender]
    rfl
  · rw [status_of_returned hasks hreturns, hrender]
    rfl

/-! ### A blank name -/

/-- A session with one user, whose second column has a blank name and this value, and with a list of
key columns for everything else. -/
def aliasedSession (v : Value) : Session := fun cql =>
  if cql = allUsers.cql then .delivered { names := ["id", " "], rows := [[.int 1, v]] }
  else .delivered { names := ["key_aliases"], rows := [[.text "[\"id\"]"]] }

/-- A request for all users. -/
def allUsersRequest : Request :=
  queryRequest "\x7b\"cql\": \"select * from users\"\x7d"

theorem readsTypes_aliasedSession (v : Value) :
    twoRowService.ReadsTypes (aliasedSession v) allUsers := by
  intro m hm
  have hquestion : TypeMap.question? twoRowService.generation allUsers =
    some (.keyAliases (some "users")) := by decide
  cases hquestion.symm.trans hm
  have hother : (MetadataQuery.keyAliases (some "users")).cql ≠ allUsers.cql := by decide
  rw [aliasedSession, if_neg hother]
  intro row hrow cell hcell
  rw [List.mem_singleton.1 hrow] at hcell
  rw [List.mem_singleton.1 hcell]
  have hread : Json.readText 990 "[\"id\"]" = .ok (.arr [.str "id"]) := by rfl
  exact Value.readable_of_readText hread

theorem asks_allUsersRequest (v : Value) :
    Asks smallGateway ⟨aliasedSession v, none⟩ allUsersRequest twoRowService allUsers {} := by
  refine ⟨target_queryRequest _, ⟨.obj [("cql", .str "select * from users")],
    ⟨"select * from users", none⟩, ?_, rfl, rfl, rfl⟩, _, rfl, rfl⟩
  exact read_of_decoded
    ['\x7b', '"', 'c', 'q', 'l', '"', ':', ' ', '"', 's', 'e', 'l', 'e', 'c', 't', ' ', '*', ' ',
     'f', 'r', 'o', 'm', ' ', 'u', 's', 'e', 'r', 's', '"', '\x7d']
    (by decide +kernel) rfl

/-- A blank name is no failure if no cell under it is kept. -/
theorem query_of_null_alias :
    twoRowService.ReadsTypes (aliasedSession .null) allUsers ∧
      Asks smallGateway ⟨aliasedSession .null, none⟩ allUsersRequest twoRowService allUsers {} ∧
      ∃ selection context',
        (twoRowService.execute (aliasedSession .null) allUsers {}).result =
          .ok (selection, context') ∧
        selection.Writable 990 ∧
        status? (smallGateway.handle ⟨aliasedSession .null, none⟩ allUsersRequest).1 =
          some 200 := by
  have hreads := readsTypes_aliasedSession .null
  have hasks := asks_allUsersRequest .null
  obtain ⟨hfails, hstatus⟩ := failures_of_queries twoRowService _ allUsers {} hreads
  cases hresult : (twoRowService.execute (aliasedSession .null) allUsers {}).result with
  | error e =>
    rcases (hfails e).1 hresult with ⟨hblank, -⟩ | ⟨-, f, hf, -⟩
    · cases hblank
    · cases hf
  | ok reply =>
    have hvalues : (twoRowService.execute (aliasedSession .null) allUsers {}).result.map
        (fun reply => reply.1.rows.flatMap fun row => row.cells.map (·.2)) = .ok [.int 1] := by
      rfl
    rw [hresult] at hvalues
    have hshown : (reply.1.rows.flatMap fun row => row.cells.map (·.2)) = [.int 1] :=
      Except.ok.inj hvalues
    have hwritable : reply.1.Writable 990 := by
      intro row hrow cell hcell
      have hmem : cell.2 ∈ reply.1.rows.flatMap fun row => row.cells.map (·.2) :=
        List.mem_flatMap.2 ⟨row, hrow, List.mem_map_of_mem hcell⟩
      rw [hshown, List.mem_singleton] at hmem
      exact ⟨.int 1, by rw [hmem]; rfl, by decide⟩
    exact ⟨hreads, hasks, reply.1, reply.2, rfl, hwritable,
      ((hstatus smallGateway none allUsersRequest hasks).2 _ _ hresult).1 hwritable⟩

/-- The session answers the statement without a fault, and the query fails all the same because a
column of the answer has a blank name: the gateway refuses the request. -/
theorem blank_name_is_refused :
    twoRowService.ReadsTypes (aliasedSession (.int 2)) allUsers ∧
      (aliasedSession (.int 2) allUsers.cql).earlyFault? twoRowService.limits.rows = none ∧
      (twoRowService.execute (aliasedSession (.int 2)) allUsers {}).result =
        .error (.blankName .typedColumn) ∧
      Asks smallGateway ⟨aliasedSession (.int 2), none⟩ allUsersRequest twoRowService allUsers {} ∧
      status? (smallGateway.handle ⟨aliasedSession (.int 2), none⟩ allUsersRequest).1 =
        some 400 := by
  have hexecute : (twoRowService.execute (aliasedSession (.int 2)) allUsers {}).result =
      .error (.blankName .typedColumn) := by
    rfl
  have hasks := asks_allUsersRequest (.int 2)
  refine ⟨readsTypes_aliasedSession (.int 2), rfl, hexecute, hasks, ?_⟩
  rw [status_of_failed hasks hexecute]
  rfl

end Http

end CqlGateway
