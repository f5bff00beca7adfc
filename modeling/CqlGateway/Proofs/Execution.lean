import CqlGateway.Proofs.Reading
import CqlGateway.Service.Service

/-!
# Executing the query of a client

The rows of a query are read through three readers, one around the other: the open result, the
guard that turns a fault into a failure of the query, and the first row put back in front of those
behind it.  Together they give the rows of the answer, each once and in order (`gives_peeked`).

Hence a query fails iff the session refuses its text or a fault ends fewer rows than the limit, and
otherwise the result is what `materialize` makes of all rows (`execute_of_answer`).
-/

namespace CqlGateway

/-- The columns of a result have names. -/
def ResultSet.Named (r : ResultSet) : Prop :=
  ∀ name ∈ r.names, Text.isBlankText name = false

theorem ResultSet.Named.stream {r : ResultSet} (h : r.Named) : CqlGateway.Named r.stream.rows := by
  intro cells hcells cell hcell
  rw [ResultSet.stream] at hcells
  split at hcells
  · cases hcells
  · obtain ⟨values, -, rfl⟩ := List.mem_map.1 hcells
    obtain ⟨⟨⟨name, dataType?⟩, value⟩, hzip, rfl⟩ := List.mem_map.1 hcell
    exact h name (List.of_mem_zip (List.of_mem_zip hzip).1).1

/-- The columns of an answer have names. -/
def Answer.Named : Answer → Prop
  | .refused _ => True
  | .delivered r => r.Named

/-- The fault that ends an answer before as many rows as the limit. -/
def Answer.earlyFault? (limit : Nat) : Answer → Option Fault
  | .refused f => some f
  | .delivered r => if r.stream.rows.length < limit then r.stream.interruption? else none

/-- If a query has rows, then the column types for them can be looked up. -/
def Service.FindsTypes (s : Service) (session : Session) (q : Query) : Prop :=
  (session q.cql).stream.rows ≠ [] →
    ∃ map, (TypeMap.lookup s.generation (s.executor session) q).result = .ok map

/-- A query returns: the selection is that of all rows of its answer, under the column types that
are looked up if there is a row, and no more rows are taken than the limit allows. -/
structure Service.Returns (s : Service) (session : Session) (q : Query) (context : Context)
    (r : ResultSet) (selection : Selection) : Prop where
  delivered : session q.cql = .delivered r
  result : (s.execute session q context).result = .ok (selection, context.after q)
  statements : (s.execute session q context).statements =
    ⟨q.cql, s.allowance.timeout, min r.stream.rows.length s.limits.rows⟩ ::
      (if r.stream.rows = [] then []
        else (TypeMap.lookup s.generation (s.executor session) q).statements)
  of_no_rows : r.stream.rows = [] → selection = .empty
  of_rows : r.stream.rows ≠ [] →
    ∃ map, (TypeMap.lookup s.generation (s.executor session) q).result = .ok map ∧
      (materialize map s.limits r.stream.rows none).result = .ok selection

variable {s : Service} {session : Session} {q : Query} {context : Context} {r : ResultSet}
  {f : Fault} {f? : Option Fault} {cql : String} {map : TypeMap} {limits : Limits}
  {first : List Cell} {rest : List (List Cell)}

/-! ### The rows of a query -/

theorem gives_nextRow (cql : String) (rows more : List (List Cell)) (f? : Option Fault)
    (pulled : Nat) :
    Gives (Executor.nextRow cql) ⟨rows ++ more, f?, pulled⟩ rows
      ⟨more, f?, pulled + rows.length⟩ :=
  (gives_cursor rows more f? pulled).guarded _

/-- **Peeking neither loses nor repeats a row.**  Behind the first row, which was read before, come
as many of the others as are asked for. -/
theorem gives_peeked (cql : String) (first : List Cell) (rest : List (List Cell))
    (f? : Option Fault) (n : Nat) :
    Gives (Reader.chained (Executor.nextRow cql)) (some first, ⟨rest, f?, 1⟩)
      (first :: rest.take n) (none, ⟨rest.drop n, f?, 1 + (rest.take n).length⟩) := by
  have hgives := gives_nextRow cql (rest.take n) (rest.drop n) f? 1
  rw [List.take_append_drop] at hgives
  exact hgives.chained_some first

/-- What is read of a query whose first row was awaited. -/
def readPeeked (cql : String) (map : TypeMap) (limits : Limits) (first : List Cell)
    (rest : List (List Cell)) (f? : Option Fault) :
    Reading (Option (List Cell) × Cursor Fault) Selection :=
  materializeFrom (Reader.chained (Executor.nextRow cql)) map limits
    (some first, ⟨rest, f?, 1⟩)

/-- With enough rows a fault behind the last one that the limits allow is not met. -/
theorem readPeeked_of_full (hn : Named (first :: rest))
    (hrows : limits.rows ≤ (first :: rest).length) :
    (readPeeked cql map limits first rest f?).result =
        .ok (selectionOf map limits ((first :: rest).take limits.rows)) ∧
      (readPeeked cql map limits first rest f?).rest.2.pulled = limits.rows := by
  -- the limit is positive, so it allows the first row and `n` of those behind it
  obtain ⟨n, hlimit⟩ := Nat.exists_eq_add_of_lt limits.rows_pos
  rw [Nat.zero_add] at hlimit
  have hlen : (rest.take n).length = n := by
    rw [List.length_cons] at hrows
    exact List.length_take_of_le (by omega)
  have htake : (first :: rest).take limits.rows = first :: rest.take n := by
    rw [hlimit, List.take_succ_cons]
  have hfull : (first :: rest.take n).length = limits.rows := by
    rw [List.length_cons, hlen, hlimit]
  rw [readPeeked, materializeFrom_of_full (gives_peeked cql first rest f? n)
    (htake ▸ hn.take limits.rows) hfull, htake]
  exact ⟨rfl, by simp only [hlen]; omega⟩

/-- Too few rows are read to their end. -/
theorem readPeeked_of_end (hn : Named (first :: rest))
    (hrows : (first :: rest).length < limits.rows) :
    (readPeeked cql map limits first rest none).result =
        .ok (selectionOf map limits ((first :: rest).take limits.rows)) ∧
      (readPeeked cql map limits first rest none).rest.2.pulled = (first :: rest).length := by
  have hgives := gives_peeked cql first rest none rest.length
  rw [List.take_length, List.drop_length] at hgives
  rw [readPeeked, materializeFrom_of_end hgives hn hrows rfl, List.take_of_length_le (by omega)]
  exact ⟨rfl, by simp only [List.length_cons]; omega⟩

/-- A fault behind too few rows is met. -/
theorem readPeeked_of_fault (hn : Named (first :: rest))
    (hrows : (first :: rest).length < limits.rows) :
    (readPeeked cql map limits first rest (some f)).result = .error (Executor.failed cql f) := by
  have hgives := gives_peeked cql first rest (some f) rest.length
  rw [List.take_length, List.drop_length] at hgives
  rw [readPeeked, materializeFrom_of_failure hgives hn hrows rfl]

/-- Rows that no fault cuts short are read, but no more of them than the limit allows. -/
theorem readPeeked_of_no_fault (cql : String) (map : TypeMap) (hn : Named (first :: rest))
    (hf : (if (first :: rest).length < limits.rows then f? else none) = none) :
    (readPeeked cql map limits first rest f?).result =
        .ok (selectionOf map limits ((first :: rest).take limits.rows)) ∧
      (readPeeked cql map limits first rest f?).rest.2.pulled =
        min (first :: rest).length limits.rows := by
  by_cases hrows : (first :: rest).length < limits.rows
  · rw [if_pos hrows] at hf
    rw [hf, Nat.min_eq_left (Nat.le_of_lt hrows)]
    exact readPeeked_of_end hn hrows
  · rw [Nat.min_eq_right (Nat.le_of_not_lt hrows)]
    exact readPeeked_of_full hn (Nat.le_of_not_lt hrows)

/-! ### The result of a query -/

theorem execute_of_refused (h : session q.cql = .refused f) :
    s.execute session q context =
      { result := .error (Executor.failed q.cql f)
        statements := [⟨q.cql, s.allowance.timeout, 0⟩]
        events := [.queryReceived q.cql, .executing q.cql] } := by
  simp only [Service.execute, Executor.submit, Service.executor_session, h, Executor.sent,
    Service.executor_timeout]

/-- A result without rows needs no column types. -/
theorem execute_of_no_rows (h : session q.cql = .delivered r) (hrows : r.stream.rows = []) :
    s.execute session q context =
      { result := match r.stream.interruption? with
          | none => .ok (.empty, context.after q)
          | some f => .error (Executor.failed q.cql f)
        statements := [⟨q.cql, s.allowance.timeout, 0⟩]
        events := [.queryReceived q.cql, .executing q.cql] } := by
  simp only [Service.execute, Executor.submit, Service.executor_session, h, Executor.sent,
    Service.executor_timeout, Cursor.ofStream, hrows]
  cases r.stream.interruption? <;> rfl

theorem nextRow_of_rows (cql : String) (hrows : r.stream.rows = first :: rest) :
    Executor.nextRow cql (Cursor.ofStream r.stream) =
      (.ok (some first), ⟨rest, r.stream.interruption?, 1⟩) := by
  simp only [Cursor.ofStream, hrows]
  rfl

/-- A result with rows is read under the column types that are looked up behind its first row. -/
theorem execute_of_rows (h : session q.cql = .delivered r) (hrows : r.stream.rows = first :: rest)
    (hmap : (TypeMap.lookup s.generation (s.executor session) q).result = .ok map) :
    s.execute session q context =
      { result := (readPeeked q.cql map s.limits first rest r.stream.interruption?).result.map
          fun selection => (selection, context.after q)
        statements := ⟨q.cql, s.allowance.timeout,
            (readPeeked q.cql map s.limits first rest r.stream.interruption?).rest.2.pulled⟩ ::
          (TypeMap.lookup s.generation (s.executor session) q).statements
        events := [.queryReceived q.cql, .executing q.cql] ++
          (TypeMap.lookup s.generation (s.executor session) q).events ++
          (readPeeked q.cql map s.limits first rest r.stream.interruption?).events } := by
  simp only [Service.execute, Executor.submit, Service.executor_session, h,
    nextRow_of_rows q.cql hrows, hmap]
  rfl

/-- If the column types cannot be looked up, then no row is read behind the first one. -/
theorem execute_of_lookup_error {e : Failure} (h : session q.cql = .delivered r)
    (hrows : r.stream.rows = first :: rest)
    (htypes : (TypeMap.lookup s.generation (s.executor session) q).result = .error e) :
    s.execute session q context =
      { result := .error e
        statements := ⟨q.cql, s.allowance.timeout, 1⟩ ::
          (TypeMap.lookup s.generation (s.executor session) q).statements
        events := [.queryReceived q.cql, .executing q.cql] ++
          (TypeMap.lookup s.generation (s.executor session) q).events } := by
  simp only [Service.execute, Executor.submit, Service.executor_session, h,
    nextRow_of_rows q.cql hrows, htypes]
  rfl

/-- A query fails with an early fault of its answer. -/
theorem result_execute_of_earlyFault (hn : (session q.cql).Named) (hm : s.FindsTypes session q)
    (hf : (session q.cql).earlyFault? s.limits.rows = some f) :
    (s.execute session q context).result = .error (.queryFailed q.cql (some f)) := by
  cases hanswer : session q.cql with
  | refused g =>
    rw [hanswer] at hf
    cases hf
    rw [execute_of_refused hanswer, Executor.failed]
  | delivered r =>
    rw [hanswer] at hn hf
    obtain ⟨hrows, hf⟩ := Option.ite_none_right_eq_some.1 hf
    -- the fault is met by the peek if there is no row, and by the pass if there is one
    cases hlist : r.stream.rows with
    | nil => simp only [execute_of_no_rows hanswer hlist, hf, Executor.failed]
    | cons first rest =>
      obtain ⟨map, hmap⟩ := hm (by simp [hanswer, Answer.stream, hlist])
      have hnamed := ResultSet.Named.stream hn
      rw [hlist] at hnamed hrows
      rw [execute_of_rows hanswer hlist hmap, hf]
      simp only [readPeeked_of_fault hnamed hrows, Except.map, Executor.failed]

/-- A query returns if it meets no fault. -/
theorem returns_of_no_earlyFault (context : Context) (hn : (session q.cql).Named)
    (hm : s.FindsTypes session q) (hf : (session q.cql).earlyFault? s.limits.rows = none) :
    ∃ r selection, s.Returns session q context r selection := by
  cases hanswer : session q.cql with
  | refused g =>
    rw [hanswer] at hf
    cases hf
  | delivered r =>
    rw [hanswer] at hn hf
    rw [Answer.earlyFault?] at hf
    cases hlist : r.stream.rows with
    | nil =>
      -- no rows are fewer than the limit, so there is no fault at all
      rw [hlist, List.length_nil, if_pos s.limits.rows_pos] at hf
      refine ⟨r, .empty, hanswer, ?_, ?_, fun _ => rfl, absurd hlist⟩ <;>
        simp [execute_of_no_rows hanswer hlist, hf, hlist]
    | cons first rest =>
      obtain ⟨map, hmap⟩ := hm (by simp [hanswer, Answer.stream, hlist])
      have hnamed := ResultSet.Named.stream hn
      rw [hlist] at hnamed hf
      have hread := readPeeked_of_no_fault q.cql map hnamed hf
      have hne : r.stream.rows ≠ [] := by simp [hlist]
      refine ⟨r, selectionOf map s.limits ((first :: rest).take s.limits.rows), hanswer, ?_, ?_,
        fun h => absurd h hne, fun _ => ⟨map, hmap, ?_⟩⟩
      · rw [execute_of_rows hanswer hlist hmap, hread.1]
        rfl
      · rw [execute_of_rows hanswer hlist hmap, hread.2, if_neg hne, hlist]
      · rw [hlist]
        exact result_materialize hnamed

/-- **A query fails iff its answer has an early fault**, with this fault as the cause; otherwise it
returns. -/
theorem execute_of_answer (s : Service) (session : Session) (q : Query) (context : Context)
    (hn : (session q.cql).Named) (hm : s.FindsTypes session q) :
    (∀ e, (s.execute session q context).result = .error e ↔
      ∃ f, (session q.cql).earlyFault? s.limits.rows = some f ∧
        e = .queryFailed q.cql (some f)) ∧
    ((session q.cql).earlyFault? s.limits.rows = none →
      ∃ r selection, s.Returns session q context r selection) := by
  refine ⟨fun e => ?_, returns_of_no_earlyFault context hn hm⟩
  cases hf : (session q.cql).earlyFault? s.limits.rows with
  | none =>
    obtain ⟨r, selection, hreturns⟩ := returns_of_no_earlyFault context hn hm hf
    simp [hreturns.result]
  | some f =>
    rw [result_execute_of_earlyFault hn hm hf]
    simp [eq_comm]

/-- A query of all users. -/
def allUsers : Query :=
  ⟨"select * from users", .select⟩

/-- A session with two users, which fails behind the second one and refuses everything else. -/
def brokenSession : Session := fun cql =>
  if cql = allUsers.cql then
    .delivered
      { names := ["id"], rows := [[.int 1], [.int 2]], interruption? := some ⟨.timeout, "page"⟩ }
  else
    .refused ⟨.runtime, "no such table"⟩

/-- A service that reads two rows. -/
def twoRowService : Service :=
  ⟨.v1, ⟨2, 3, 10, Nat.succ_pos 1, Nat.succ_pos 2, Nat.succ_pos 9⟩, ⟨120, 990⟩⟩

/-- The fault behind the last row that the limits allow is not met. -/
theorem brokenSession_returns :
    (brokenSession allUsers.cql).Named ∧ twoRowService.FindsTypes brokenSession allUsers ∧
      ∃ r selection, twoRowService.Returns brokenSession allUsers {} r selection := by
  have hn : (brokenSession allUsers.cql).Named := by
    show ∀ name ∈ ["id"], Text.isBlankText name = false
    decide
  have hm : twoRowService.FindsTypes brokenSession allUsers := fun _ => ⟨.empty, by rfl⟩
  exact ⟨hn, hm, (execute_of_answer twoRowService brokenSession allUsers {} hn hm).2 (by rfl)⟩

end CqlGateway
