import CqlGateway.Proofs.Statements
import Mathlib.Data.List.Forall2

/-!
# Lookups and deliveries

A statement is read in two ways.  A lookup reads all rows at once and hands over nothing if it meets
a fault.  A client sends a statement, which may be refused, and then reads row by row until there
is no more row or a fault makes the query fail: `Executor.Delivers` says which rows it gets, and
with which failure, if any.

Both read the same.  `Answer.Yields` says what the rows in an answer are, and which fault ends them:
as many rows as were described, each with the name, the type and the value of a place in one cell.
A client gets the rows in the answer and then the failure that the fault makes of the query
(`delivers_iff`), and a lookup hands over the rows iff a client gets them without a failure
(`paths_agree`).
-/

namespace CqlGateway

/-! ### The rows in an answer -/

/-- The text of the type at a place, where there is one; without types there is none to show. -/
def ResultSet.typeAt? (r : ResultSet) (i : Nat) : Option (Option String) :=
  if r.types = [] then some none else r.types[i]?.map TypeTag.text?

/-- A row of values as cells: at each place the name, the type and the value of the place, as far as
there are all three. -/
def ResultSet.Aligns (r : ResultSet) (values : List Value) (cells : List Cell) : Prop :=
  ∀ i, cells[i]? = r.names[i]?.bind fun name => (r.typeAt? i).bind fun dataType? =>
    values[i]?.map fun value => ⟨name, dataType?, value⟩

/-- The rows in an answer, and the fault that ends them. -/
inductive Answer.Yields : Answer → List (List Cell) → Option Fault → Prop
  /-- A refusal is a fault without rows. -/
  | refused (f : Fault) : Yields (.refused f) [] (some f)
  /-- A result without named columns has no rows and ends well. -/
  | undescribed {r : ResultSet} (names : r.names = []) : Yields (.delivered r) [] none
  | described {r : ResultSet} {rows : List (List Cell)} (names : r.names ≠ [])
    (aligned : List.Forall₂ r.Aligns r.rows rows) : Yields (.delivered r) rows r.interruption?

section Answers

variable {r : ResultSet} {values : List Value} {cells : List Cell} {rows : List (List Cell)}
  {f? : Option Fault} {a : Answer}

/-- Beside each name stands the type of its place. -/
theorem getElem?_zip_typeTexts (r : ResultSet) (i : Nat) :
    (r.names.zip r.typeTexts)[i]? =
      r.names[i]?.bind fun name => (r.typeAt? i).map fun dataType? => (name, dataType?) := by
  rw [List.zip, List.getElem?_zipWith', Option.bind_map, ResultSet.typeTexts, ResultSet.typeAt?]
  by_cases htypes : r.types = []
  · rw [if_pos htypes, if_pos (List.isEmpty_iff.2 htypes), List.getElem?_map]
    cases r.names[i]? <;> rfl
  · rw [if_neg htypes, if_neg (fun h => htypes (List.isEmpty_iff.1 h)), List.getElem?_map]
    rfl

theorem aligns_cells (r : ResultSet) (values : List Value) : r.Aligns values (r.cells values) := by
  intro i
  rw [ResultSet.cells, List.getElem?_map, List.zip, List.getElem?_zipWith', getElem?_zip_typeTexts]
  cases r.names[i]? with
  | none => rfl
  | some name =>
    cases r.typeAt? i with
    | none => rfl
    | some dataType? => cases values[i]? <;> rfl

/-- The values of a row make one row of cells. -/
theorem aligns_iff : r.Aligns values cells ↔ cells = r.cells values := by
  constructor
  · intro h
    exact List.ext_getElem? fun i => (h i).trans (aligns_cells r values i).symm
  · rintro rfl
    exact aligns_cells r values

theorem forall₂_aligns_iff {table : List (List Value)} :
    List.Forall₂ r.Aligns table rows ↔ rows = table.map r.cells := by
  induction table generalizing rows with
  | nil => rw [List.forall₂_nil_left_iff, List.map_nil]
  | cons values table ih =>
    rw [List.forall₂_cons_left_iff, List.map_cons]
    simp only [aligns_iff, ih]
    constructor
    · rintro ⟨_, _, rfl, rfl, rfl⟩
      rfl
    · rintro rfl
      exact ⟨_, _, rfl, rfl, rfl⟩

/-- **The stream of an answer is what it yields**, and nothing else. -/
theorem yields_iff : a.Yields rows f? ↔ rows = a.stream.rows ∧ f? = a.stream.interruption? := by
  constructor
  · intro h
    cases h with
    | refused f => exact ⟨rfl, rfl⟩
    | undescribed names =>
      rw [Answer.stream, ResultSet.stream, if_pos (List.isEmpty_iff.2 names)]
      exact ⟨rfl, rfl⟩
    | described names aligned =>
      rw [Answer.stream, ResultSet.stream, if_neg fun h => names (List.isEmpty_iff.1 h)]
      exact ⟨forall₂_aligns_iff.1 aligned, rfl⟩
  · rintro ⟨rfl, rfl⟩
    cases a with
    | refused f => exact .refused f
    | delivered r =>
      by_cases names : r.names = []
      · rw [Answer.stream, ResultSet.stream, if_pos (List.isEmpty_iff.2 names)]
        exact .undescribed names
      · rw [Answer.stream, ResultSet.stream, if_neg fun h => names (List.isEmpty_iff.1 h)]
        exact .described names (forall₂_aligns_iff.2 rfl)

end Answers

/-! ### Reading to the end -/

/-- The statement of a client delivers rows, one after the other, and then ends, with a failure of
the query or without one. -/
inductive Executor.Delivers (ex : Executor) (cql : String) :
    List (List Cell) → Option Failure → Prop
  /-- The statement fails when it is sent. -/
  | refused {e : Failure} (sent : ex.submit cql = .error e) : Delivers ex cql [] (some e)
  /-- The rows are read to their end. -/
  | ended {c c' : Cursor Fault} {rows : List (List Cell)} (sent : ex.submit cql = .ok c)
    (read : Gives (nextRow cql) c rows c') (last : (nextRow cql c').1 = .ok none) :
    Delivers ex cql rows none
  /-- The statement fails when a row is read. -/
  | failed {c c' : Cursor Fault} {rows : List (List Cell)} {e : Failure}
    (sent : ex.submit cql = .ok c) (read : Gives (nextRow cql) c rows c')
    (last : (nextRow cql c').1 = .error e) : Delivers ex cql rows (some e)

section Deliveries

variable {ε σ α : Type} {next : Reader ε σ α} {s t u : σ} {as bs : List α} {ex : Executor}
  {cql : String} {rows : List (List Cell)} {failure? : Option Failure}

/-- What a reader gives until it gives no more is determined. -/
theorem Gives.unique (h : Gives next s as t) (ht : ∀ a, (next t).1 ≠ .ok (some a))
    (h' : Gives next s bs u) (hu : ∀ a, (next u).1 ≠ .ok (some a)) : as = bs ∧ t = u := by
  induction h generalizing bs with
  | nil s =>
    cases h' with
    | nil => exact ⟨rfl, rfl⟩
    | cons hnext _ => exact absurd (by rw [hnext]) (ht _)
  | cons hnext _ ih =>
    cases h' with
    | nil => exact absurd (by rw [hnext]) (hu _)
    | cons hnext' hrest =>
      obtain ⟨hread, rfl⟩ := Prod.mk.inj (hnext.symm.trans hnext')
      obtain rfl := Option.some.inj (Except.ok.inj hread)
      obtain ⟨rfl, rfl⟩ := ih ht hrest
      exact ⟨rfl, rfl⟩

/-- All rows of a stream are read, and then there is no more row. -/
theorem gives_stream (cql : String) (stream : RowStream) :
    Gives (Executor.nextRow cql) (Cursor.ofStream stream) stream.rows
        ⟨[], stream.interruption?, 0 + stream.rows.length⟩ ∧
      (Executor.nextRow cql ⟨[], stream.interruption?, 0 + stream.rows.length⟩).1 =
        match stream.interruption? with
        | none => .ok none
        | some f => .error (Executor.failed cql f) := by
  constructor
  · have hgives := gives_nextRow cql stream.rows [] stream.interruption? 0
    rwa [List.append_nil] at hgives
  · cases stream.interruption? <;> rfl

/-- **A client gets the rows of the stream**, and then the failure that its fault makes. -/
theorem delivers_stream (ex : Executor) (cql : String) :
    ex.Delivers cql (ex.stream cql).rows
      ((ex.stream cql).interruption?.map (Executor.failed cql)) := by
  rw [Executor.stream]
  cases hanswer : ex.session cql with
  | refused f => exact .refused (by rw [Executor.submit, hanswer])
  | delivered r =>
    have hsent : ex.submit cql = .ok (.ofStream r.stream) := by rw [Executor.submit, hanswer]
    obtain ⟨hread, hlast⟩ := gives_stream cql r.stream
    rw [Answer.stream]
    cases hf : r.stream.interruption? with
    | none => exact .ended hsent hread (by rw [hlast, hf])
    | some f => exact .failed hsent hread (by rw [hlast, hf])

/-- What a reader gives at the end of what is delivered. -/
def lastRead : Option Failure → Except Failure (Option (List Cell))
  | none => .ok none
  | some e => .error e

theorem lastRead_inj {e? e?' : Option Failure} (h : lastRead e? = lastRead e?') : e? = e?' := by
  cases e? <;> cases e?' <;> cases h <;> rfl

theorem lastRead_ne_some (e? : Option Failure) (row : List Cell) :
    lastRead e? ≠ .ok (some row) := by
  cases e? <;> rintro ⟨⟩

/-- A delivery is a refusal, or rows that are read up to the last reading. -/
theorem Executor.Delivers.cases_submit (h : ex.Delivers cql rows failure?) :
    (∃ e, ex.submit cql = .error e ∧ rows = [] ∧ failure? = some e) ∨
      ∃ c c', ex.submit cql = .ok c ∧ Gives (nextRow cql) c rows c' ∧
        (nextRow cql c').1 = lastRead failure? := by
  cases h with
  | refused sent => exact .inl ⟨_, sent, rfl, rfl⟩
  | ended sent read last | failed sent read last => exact .inr ⟨_, _, sent, read, last⟩

/-- What a client gets is determined. -/
theorem Executor.Delivers.unique {rows' : List (List Cell)} {failure?' : Option Failure}
    (h : ex.Delivers cql rows failure?) (h' : ex.Delivers cql rows' failure?') :
    rows = rows' ∧ failure? = failure?' := by
  rcases h.cases_submit with ⟨e, hsent, rfl, rfl⟩ | ⟨c, d, hsent, hread, hlast⟩ <;>
    rcases h'.cases_submit with ⟨e', hsent', rfl, rfl⟩ | ⟨c', d', hsent', hread', hlast'⟩
  · cases hsent.symm.trans hsent'
    exact ⟨rfl, rfl⟩
  · cases hsent.symm.trans hsent'
  · cases hsent.symm.trans hsent'
  · cases hsent.symm.trans hsent'
    obtain ⟨rfl, rfl⟩ := hread.unique (fun row => hlast ▸ lastRead_ne_some failure? row) hread'
      fun row => hlast' ▸ lastRead_ne_some failure?' row
    exact ⟨rfl, lastRead_inj (hlast.symm.trans hlast')⟩

theorem delivers_iff_stream : ex.Delivers cql rows failure? ↔
    rows = (ex.stream cql).rows ∧
      failure? = (ex.stream cql).interruption?.map (Executor.failed cql) := by
  constructor
  · exact fun h => h.unique (delivers_stream ex cql)
  · rintro ⟨rfl, rfl⟩
    exact delivers_stream ex cql

/-- **What a client gets are the rows in the answer**, and then the failure with the text of the
statement that is caused by the fault. -/
theorem delivers_iff : ex.Delivers cql rows failure? ↔
    ∃ f?, (ex.session cql).Yields rows f? ∧
      failure? = f?.map fun f => .queryFailed cql (some f) := by
  simp only [delivers_iff_stream, yields_iff]
  constructor
  · rintro ⟨rfl, rfl⟩
    exact ⟨_, ⟨rfl, rfl⟩, rfl⟩
  · rintro ⟨_, ⟨rfl, rfl⟩, rfl⟩
    exact ⟨rfl, rfl⟩

/-- A lookup hands over what a client gets without a failure. -/
theorem result_executeSilent_eq_some_iff :
    (ex.executeSilent cql).result = .ok (some rows) ↔ ex.Delivers cql rows none := by
  rw [result_executeSilent, Except.ok.injEq, rows?_eq_some_iff, delivers_iff_stream]
  cases (ex.stream cql).interruption? <;> simp [eq_comm]

/-- A lookup hands over nothing where a client gets a failure. -/
theorem result_executeSilent_eq_none_iff :
    (ex.executeSilent cql).result = .ok none ↔ ∃ rows e, ex.Delivers cql rows (some e) := by
  rw [result_executeSilent, Except.ok.injEq, Executor.rows?]
  simp only [delivers_iff_stream]
  cases (ex.stream cql).interruption? <;> simp

theorem statements_executeSilent (ex : Executor) (cql : String) :
    (ex.executeSilent cql).statements = [⟨cql, ex.timeout, (ex.stream cql).rows.length⟩] := by
  rw [Executor.executeSilent]
  cases (ex.stream cql).interruption? <;> rfl

theorem executeToEnd_eq (ex : Executor) (cql : String) :
    ex.executeToEnd cql =
      { result := .ok ⟨(ex.stream cql).rows,
          (ex.stream cql).interruption?.map (Executor.failed cql)⟩
        statements := [⟨cql, ex.timeout, (ex.stream cql).rows.length⟩]
        events := [.executing cql] } := by
  rw [Executor.executeToEnd, Executor.submit, Executor.stream]
  cases ex.session cql <;> rfl

end Deliveries

/-- **Lookups and clients read the same.**  A lookup hands over rows iff a client gets just them and
no failure, and hands over nothing iff a client gets a failure, when the statement is sent or later.
What a client gets are the rows in the answer and, behind them, a failure with the text of the
statement and the fault of the session.  Either way the statement is sent once, with the timeout of
the executor. -/
theorem paths_agree (ex : Executor) (cql : String) :
    (∀ rows, (ex.executeSilent cql).result = .ok (some rows) ↔ ex.Delivers cql rows none) ∧
      ((ex.executeSilent cql).result = .ok none ↔ ∃ rows e, ex.Delivers cql rows (some e)) ∧
      (∀ rows failure?, ex.Delivers cql rows failure? ↔
        ∃ f?, (ex.session cql).Yields rows f? ∧
          failure? = f?.map fun f => .queryFailed cql (some f)) ∧
      ∃ rows failure?, ex.Delivers cql rows failure? ∧
        (ex.executeToEnd cql).result = .ok ⟨rows, failure?⟩ ∧
        (ex.executeToEnd cql).statements = [⟨cql, ex.timeout, rows.length⟩] ∧
        (ex.executeSilent cql).statements = [⟨cql, ex.timeout, rows.length⟩] := by
  refine ⟨fun rows => result_executeSilent_eq_some_iff, result_executeSilent_eq_none_iff,
    fun rows failure? => delivers_iff, _, _, delivers_stream ex cql, ?_, ?_,
    statements_executeSilent ex cql⟩ <;> rw [executeToEnd_eq]

end CqlGateway
