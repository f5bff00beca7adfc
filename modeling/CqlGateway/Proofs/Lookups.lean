import CqlGateway.Proofs.Statements

/-!
# Queries and the lookup of their column types

A query sends its own text, and behind its first row the lookup of its column types, if it names a
table.  `Query.resultOn` is what a query returns for an answer under given column types: the peek at
the first row, behind which the types are looked up, leaves no trace in it
(`result_execute_of_types`).  It is a selection unless the answer shows a blank name or has an early
fault (`resultOn_eq`).

The lookup enters the rows of one metadata query into the empty map (`result_lookup_eq`).  If a
fault cuts it short, then it gives the empty map, whatever rows came before the fault, and so does a
query that names no table.  In both cases the query returns what it returns without any column types
(`execute_looks_up_once`).
-/

namespace CqlGateway

/-- What a query returns for an answer, if its columns have the types of a map. -/
def Query.resultOn (q : Query) (answer : Answer) (types : TypeMap) (limits : Limits)
    (context : Context) : Except Failure (Selection × Context) :=
  (materialize types limits answer.stream.rows
      (answer.stream.interruption?.map (Executor.failed q.cql))).result.map
    fun selection => (selection, context.after q)

/-- A cell with a blank name is kept of the rows of an answer. -/
def Answer.showsBlankName (limits : Limits) (a : Answer) : Bool :=
  (a.stream.rows.take limits.rows).any fun cells => hasBlankName (keptCells limits.columns cells)

variable {s : Service} {session : Session} {q : Query} {context : Context} {r : ResultSet}
  {types : TypeMap} {g : Generation}

/-! ### The peek at the first row -/

/-- A first row that was read before and an open result are what a cursor has ahead. -/
def Ahead (cql : String) (s : Option (List Cell) × Cursor Fault) (c : Cursor Failure) : Prop :=
  c.ahead = s.1.toList ++ s.2.ahead ∧ c.failure? = s.2.failure?.map (Executor.failed cql)

theorem simulates_peeked (cql : String) :
    Reader.Simulates (Ahead cql) (Reader.chained (Executor.nextRow cql)) Cursor.next := by
  rintro ⟨first?, ⟨ahead, failure?, pulled⟩⟩ ⟨rows, e?, pulled'⟩ ⟨hrows, hfailure⟩
  dsimp only at hrows hfailure
  subst hrows hfailure
  cases first? with
  | some first => exact ⟨rfl, rfl, rfl⟩
  | none =>
    cases ahead with
    | cons row rest => exact ⟨rfl, rfl, rfl⟩
    | nil => cases failure? <;> exact ⟨rfl, rfl, rfl⟩

theorem result_readPeeked (cql : String) (types : TypeMap) (limits : Limits) (first : List Cell)
    (rest : List (List Cell)) (f? : Option Fault) :
    (readPeeked cql types limits first rest f?).result =
      (materialize types limits (first :: rest) (f?.map (Executor.failed cql))).result :=
  result_materializeFrom_of_simulates types limits (simulates_peeked cql) ⟨rfl, rfl⟩

theorem result_materialize_nil (types : TypeMap) (limits : Limits) (e? : Option Failure) :
    (materialize types limits [] e?).result =
      match e? with
      | none => .ok .empty
      | some e => .error e := by
  obtain ⟨n, hn⟩ := Nat.exists_eq_add_of_lt limits.rows_pos
  cases e? <;> simp only [materialize, materializeFrom, hn, gather] <;> rfl

/-- **The result of a query is that of its whole answer** under the types that are looked up, if it
has a row. -/
theorem result_execute_of_types (context : Context)
    (h : (session q.cql).stream.rows ≠ [] →
      (TypeMap.lookup s.generation (s.executor session) q).result = .ok types) :
    (s.execute session q context).result =
      q.resultOn (session q.cql) types s.limits context := by
  cases hanswer : session q.cql with
  | refused f =>
    rw [execute_of_refused hanswer, Query.resultOn, Answer.stream, result_materialize_nil]
    rfl
  | delivered r =>
    rw [hanswer] at h
    rw [Query.resultOn, Answer.stream]
    cases hrows : r.stream.rows with
    | nil =>
      rw [execute_of_no_rows hanswer hrows, result_materialize_nil]
      cases r.stream.interruption? <;> rfl
    | cons first rest =>
      have hmap := h (by rw [Answer.stream, hrows]; exact List.cons_ne_nil _ _)
      rw [execute_of_rows hanswer hrows hmap, result_readPeeked]

/-- A query that returns does so under some column types. -/
theorem exists_types_of_result {selection : Selection} {context' : Context}
    (h : (s.execute session q context).result = .ok (selection, context')) :
    ∃ types, q.resultOn (session q.cql) types s.limits context = .ok (selection, context') := by
  cases htypes : (TypeMap.lookup s.generation (s.executor session) q).result with
  | ok types => exact ⟨types, (result_execute_of_types context fun _ => htypes).symm.trans h⟩
  | error e =>
    refine ⟨.empty, (result_execute_of_types context fun hrows => ?_).symm.trans h⟩
    -- a query with a row does not return if the lookup fails
    cases hanswer : session q.cql with
    | refused f => exact absurd (by rw [hanswer, Answer.stream]) hrows
    | delivered r =>
      rw [hanswer, Answer.stream] at hrows
      obtain ⟨first, rest, hlist⟩ := List.exists_cons_of_ne_nil hrows
      rw [execute_of_lookup_error hanswer hlist htypes] at h
      cases h

/-! ### Results of a query -/

theorem earlyFault?_eq (a : Answer) {limit : Nat} (h : 0 < limit) :
    a.earlyFault? limit =
      if a.stream.rows.length < limit then a.stream.interruption? else none := by
  cases a with
  | refused f => exact (if_pos h).symm
  | delivered r => rfl

/-- **What a query returns for an answer**, or how it fails. -/
theorem resultOn_eq (q : Query) (a : Answer) (types : TypeMap) (limits : Limits)
    (context : Context) :
    q.resultOn a types limits context =
      if a.showsBlankName limits then .error (.blankName .typedColumn)
      else match a.earlyFault? limits.rows with
        | some f => .error (.queryFailed q.cql (some f))
        | none =>
          .ok (selectionOf types limits (a.stream.rows.take limits.rows), context.after q) := by
  rw [Query.resultOn, result_materialize_eq, passFailure?, earlyFault?_eq a limits.rows_pos,
    Answer.showsBlankName]
  cases (a.stream.rows.take limits.rows).any
      fun cells => hasBlankName (keptCells limits.columns cells) with
  | true => rfl
  | false =>
    by_cases hlen : a.stream.rows.length < limits.rows
    · simp only [Bool.false_eq_true, if_false, if_pos hlen]
      cases a.stream.interruption? <;> rfl
    · simp only [Bool.false_eq_true, if_false, if_neg hlen]
      rfl

/-! ### Rows of a lookup -/

/-- How a metadata row is entered into a type map. -/
def TypeMap.enter (room : Nat) : Generation → TypeMap → List Cell → Outcome TypeMap
  | .v1 => addAliases room
  | .v2 => addColumn

/-- **A lookup enters the rows of its question**, if it has one that is answered to the end. -/
theorem result_lookup_eq (g : Generation) (ex : Executor) (q : Query) :
    (TypeMap.lookup g ex q).result =
      match TypeMap.question? g q with
      | none => .ok .empty
      | some m =>
        match ex.rows? m.cql with
        | none => .ok .empty
        | some rows => (TypeMap.empty.addRows (TypeMap.enter ex.room g) rows).result := by
  rw [TypeMap.lookup, TypeMap.question?]
  cases q.sourceTable? with
  | none => rfl
  | some table =>
    cases g with
    | v1 =>
      dsimp only [Option.map_some]
      rw [result_executeSilent_bind]
      cases ex.rows? (MetadataQuery.keyAliases (some table.text)).cql <;> rfl
    | v2 =>
      dsimp only [Option.map_some]
      rw [result_executeSilent_bind]
      cases ex.rows? (MetadataQuery.columnTypes table.text).cql <;> rfl

/-- A lookup that is cut short, or that asks for nothing, finds no types. -/
theorem result_lookup_of_fault {ex : Executor}
    (h : ∀ m, TypeMap.question? g q = some m → (ex.session m.cql).stream.interruption? ≠ none) :
    (TypeMap.lookup g ex q).result = .ok .empty := by
  rw [result_lookup_eq]
  cases hquestion : TypeMap.question? g q with
  | none => rfl
  | some m =>
    -- the rows in front of the fault are not handed over
    dsimp only
    rw [rows?_eq_none ex m.cql (h m hquestion)]

/-- **A query looks up column types at most once, and does not fail with the lookup.**  Its own text
is sent first and once; one more text is sent iff a first row was delivered and a table is named,
and that is the lookup.  The result is that of the whole answer under the types that are found, and
none are found if a fault cuts the lookup short or no table is named. -/
theorem execute_looks_up_once (s : Service) (session : Session) (q : Query) (context : Context) :
    (∃ further, (s.execute session q context).texts = q.cql :: further ∧ further.length ≤ 1 ∧
      ∀ text, text ∈ further ↔ (session q.cql).stream.rows ≠ [] ∧
        ∃ m, TypeMap.question? s.generation q = some m ∧ text = m.cql) ∧
    (∀ types, (TypeMap.lookup s.generation (s.executor session) q).result = .ok types →
      (s.execute session q context).result =
        q.resultOn (session q.cql) types s.limits context) ∧
    ((∀ m, TypeMap.question? s.generation q = some m →
        (session m.cql).stream.interruption? ≠ none) →
      (s.execute session q context).result =
        q.resultOn (session q.cql) .empty s.limits context) := by
  refine ⟨⟨_, texts_execute s session q context, ?_, fun text => ?_⟩,
    fun types htypes => result_execute_of_types context fun _ => htypes,
    fun hfault => result_execute_of_types context fun _ => result_lookup_of_fault hfault⟩
  · rw [Service.questions, List.length_map]
    split
    · exact Nat.zero_le 1
    · exact Option.length_toList_le
  · rw [Service.questions]
    cases hrows : (session q.cql).stream.rows with
    | nil => simp
    | cons first rest => simp [Option.mem_toList, eq_comm]

theorem brokenSession_looks_up_once :
    (∀ m, TypeMap.question? twoRowService.generation allUsers = some m →
      (brokenSession m.cql).stream.interruption? ≠ none) ∧
    (twoRowService.execute brokenSession allUsers {}).result =
      allUsers.resultOn (brokenSession allUsers.cql) .empty twoRowService.limits {} := by
  have hfault : ∀ m, TypeMap.question? twoRowService.generation allUsers = some m →
      (brokenSession m.cql).stream.interruption? ≠ none := by
    intro m hm
    have hquestion : TypeMap.question? twoRowService.generation allUsers =
      some (.keyAliases (some "users")) := by decide
    cases hquestion.symm.trans hm
    decide
  exact ⟨hfault, (execute_looks_up_once twoRowService brokenSession allUsers {}).2.2 hfault⟩

end CqlGateway
