import CqlGateway.Proofs.Columns
import CqlGateway.Proofs.Lookups

/-!
# Results without column types

`Selection.untyped` is a selection without what is known of the types of its columns: its rows and
its two lists of columns stay, every column counting as regular, and no column is one of the
partition key.

Erasing types commutes with every step of a pass, since columns are told apart by their names
alone.  So a pass under any type map, without its types, is the pass under the empty map
(`untyped_materializeFrom`), and two type maps lead to the same data (`data_of_types`).
-/

namespace CqlGateway

/-! ### Erasing types -/

/-- The column as a regular one. -/
def Column.untyped (c : Column) : Column :=
  { c with type := .regular }

/-- The row with regular columns. -/
def Row.untyped (r : Row) : Row :=
  ⟨r.cells.map fun cell => (cell.1.untyped, cell.2)⟩

/-- The gathering with regular columns, none of them one of the partition key. -/
def Gathering.untyped (g : Gathering) : Gathering where
  rows := g.rows.map Row.untyped
  counts := g.counts.map fun e => (e.1.untyped, e.2)
  partitionColumns := []

/-- The selection with regular columns, none of them one of the partition key. -/
def Selection.untyped (s : Selection) : Selection where
  common := s.common.map Column.untyped
  dynamic := s.dynamic.map Column.untyped
  rows := s.rows.map Row.untyped
  partitionColumns := []

/-- The two selections have the same data: the same rows and lists of columns, but for the types of
the columns. -/
structure Selection.SameData (a b : Selection) : Prop where
  rows : a.rows.map Row.untyped = b.rows.map Row.untyped
  common : a.common.map Column.untyped = b.common.map Column.untyped
  dynamic : a.dynamic.map Column.untyped = b.dynamic.map Column.untyped
  isEmpty : a.isEmpty = b.isEmpty

variable {σ : Type} {types types' : TypeMap} {limits : Limits}

theorem Selection.sameData_of_untyped {a b : Selection} (h : a.untyped = b.untyped) :
    a.SameData b := by
  obtain ⟨hcommon, hdynamic, hrows, -⟩ := Selection.mk.inj h
  refine ⟨hrows, hcommon, hdynamic, ?_⟩
  have hempty := congrArg List.isEmpty hrows
  rwa [List.isEmpty_map, List.isEmpty_map] at hempty

/-! ### Gathering -/

theorem Column.same_untyped (a b : Column) : a.untyped.same b.untyped = a.same b := rfl

theorem find?_untyped (c : Column) (counts : List (Column × Nat)) :
    Entries.find? Column.same c.untyped (counts.map fun e => (e.1.untyped, e.2)) =
      Entries.find? Column.same c counts := by
  simp only [Entries.find?, List.find?_map, Option.map_map]
  rfl

theorem put_untyped (c : Column) (n : Nat) (counts : List (Column × Nat)) :
    Entries.put Column.same c.untyped n (counts.map fun e => (e.1.untyped, e.2)) =
      (Entries.put Column.same c n counts).map fun e => (e.1.untyped, e.2) := by
  induction counts with
  | nil => rfl
  | cons e rest ih =>
    simp only [List.map_cons, Entries.put, Column.same_untyped, ih]
    split <;> rfl

theorem untyped_addColumn (g : Gathering) (c : Column) :
    (g.addColumn c).untyped = g.untyped.addColumn c.untyped := by
  simp only [Gathering.addColumn, Gathering.untyped, find?_untyped, put_untyped]
  rfl

theorem untyped_addColumns (g : Gathering) (cs : List Column) :
    (cs.foldl Gathering.addColumn g).untyped =
      (cs.map Column.untyped).foldl Gathering.addColumn g.untyped := by
  induction cs generalizing g with
  | nil => rfl
  | cons c cs ih => rw [List.foldl_cons, ih, untyped_addColumn]; rfl

theorem columns_untyped (r : Row) : r.untyped.columns = r.columns.map Column.untyped := by
  simp only [Row.columns, Row.untyped, List.map_map]
  rfl

theorem untyped_addRow (g : Gathering) (r : Row) :
    (g.addRow r).untyped = g.untyped.addRow r.untyped := by
  have hempty : r.untyped.cells.isEmpty = r.cells.isEmpty := List.isEmpty_map
  rw [Gathering.addRow, Gathering.addRow, hempty]
  split
  · rfl
  · rw [untyped_addColumns, columns_untyped]
    simp [Gathering.untyped]

theorem columnsWith_untyped (g : Gathering) (test : Nat → Bool) :
    g.untyped.columnsWith test = (g.columnsWith test).map Column.untyped := by
  simp only [Gathering.columnsWith, Gathering.untyped, List.filter_map, List.map_map]
  rfl

theorem untyped_selection (g : Gathering) : g.selection.untyped = g.untyped.selection := by
  have hempty : g.untyped.rows.isEmpty = g.rows.isEmpty := List.isEmpty_map
  rw [Gathering.selection, Gathering.selection, hempty]
  split
  · rfl
  · rw [columnsWith_untyped, columnsWith_untyped]
    rfl

/-! ### Rows -/

/-- Operations with the same results, up to maps of these, can be composed. -/
theorem map_result_bind {α α' β β' : Type} {x : Outcome α} {x' : Outcome α'} {f : α → Outcome β}
    {f' : α' → Outcome β'} (e : α → α') (e' : β → β') (hx : x.result.map e = x'.result)
    (hf : ∀ a, (f a).result.map e' = (f' (e a)).result) :
    (x >>= f).result.map e' = (x' >>= f').result := by
  cases hresult : x.result with
  | error failure =>
    rw [hresult] at hx
    rw [Outcome.bind_of_error hresult, Outcome.bind_of_error hx.symm]
    rfl
  | ok a =>
    rw [hresult] at hx
    rw [Outcome.result_bind_of_ok hresult, Outcome.result_bind_of_ok hx.symm, hf]

theorem untyped_typedColumn (types : TypeMap) (cell : Cell) :
    (typedColumn types cell).result.map Column.untyped = (typedColumn .empty cell).result := by
  rw [result_typedColumn_eq, result_typedColumn_eq]
  cases Identifier.ofValue .typedColumn (.text cell.name) <;> rfl

theorem untyped_collectCells (types : TypeMap) (cells : List Cell) :
    (collectCells types cells).result.map (List.map fun cell => (cell.1.untyped, cell.2)) =
      (collectCells .empty cells).result := by
  induction cells with
  | nil => rfl
  | cons cell rest ih =>
    rw [collectCells, collectCells]
    split
    · exact ih
    · refine map_result_bind _ _ (untyped_typedColumn types cell) fun column => ?_
      exact map_result_bind _ _ ih fun more => rfl

theorem untyped_collectRow (types : TypeMap) (limit : Nat) (cells : List Cell) :
    (collectRow types limit cells).result.map Row.untyped =
      (collectRow .empty limit cells).result := by
  refine map_result_bind _ _ (untyped_collectCells types (cells.take limit)) fun collected => ?_
  split <;> rfl

/-! ### Passes -/

/-- A pass under a type map goes through the same states as the pass under the empty one. -/
theorem untyped_gather (next : Reader Failure σ (List Cell)) (types : TypeMap) (limits : Limits)
    (budget : Nat) (s : σ) (g : Gathering) :
    (gather next types limits budget s g).result.map Gathering.untyped =
      (gather next .empty limits budget s g.untyped).result := by
  induction budget generalizing s g with
  | zero => rfl
  | succ budget ih =>
    rw [gather, gather]
    rcases next s with ⟨_ | _ | cells, s'⟩
    · rfl
    · rfl
    · have hrow := untyped_collectRow types limits.columns cells
      dsimp only
      cases hresult : (collectRow types limits.columns cells).result with
      | error e =>
        rw [hresult] at hrow
        rw [← hrow]
        rfl
      | ok r =>
        rw [hresult] at hrow
        rw [← hrow]
        have hrest := ih s' (g.addRow r)
        rw [untyped_addRow] at hrest
        exact hrest

/-- **A result without its column types is the result under the empty type map.** -/
theorem untyped_materializeFrom (next : Reader Failure σ (List Cell)) (types : TypeMap)
    (limits : Limits) (s : σ) :
    (materializeFrom next types limits s).result.map Selection.untyped =
      (materializeFrom next .empty limits s).result := by
  have hgather := untyped_gather next types limits limits.rows s {}
  simp only [materializeFrom]
  cases hresult : (gather next types limits limits.rows s {}).result with
  | error e =>
    rw [hresult] at hgather
    have hempty : (gather next .empty limits limits.rows s {}).result = .error e := hgather.symm
    rw [hempty]
    rfl
  | ok g =>
    rw [hresult] at hgather
    have hempty : (gather next .empty limits limits.rows s {}).result = .ok g.untyped :=
      hgather.symm
    rw [hempty]
    exact congrArg Except.ok (untyped_selection g)

theorem untyped_resultOn (q : Query) (answer : Answer) (types : TypeMap) (limits : Limits)
    (context : Context) :
    (q.resultOn answer types limits context).map (fun p => (p.1.untyped, p.2)) =
      q.resultOn answer .empty limits context := by
  have hread := untyped_materializeFrom Cursor.next types limits
    { ahead := answer.stream.rows
      failure? := answer.stream.interruption?.map (Executor.failed q.cql) }
  rw [Query.resultOn, Query.resultOn, materialize, materialize, ← hread]
  rcases (materializeFrom Cursor.next types limits _).result with e | selection <;> rfl

/-- **Column types never alter data.**  Under any two type maps rows lead to the same result but for
the types in it, and to the same failure if they fail.  The same holds of the results of a query in
two sessions that answer it alike, whatever the generations and the lookups of its column types are;
the contexts behind it are equal. -/
theorem data_of_types (limits : Limits) :
    (∀ (types types' : TypeMap) (rows : List (List Cell)) (failure? : Option Failure),
      (materialize types limits rows failure?).result.map Selection.untyped =
        (materialize types' limits rows failure?).result.map Selection.untyped) ∧
    (∀ (types types' : TypeMap) (rows : List (List Cell)), Named rows → ∃ a b,
      (materialize types limits rows none).result = .ok a ∧
        (materialize types' limits rows none).result = .ok b ∧ a.SameData b) ∧
    (∀ (g g' : Generation) (allowance allowance' : Allowance) (session session' : Session)
      (q : Query) (context context' context'' : Context) (a b : Selection),
      session q.cql = session' q.cql →
        (Service.execute ⟨g, limits, allowance⟩ session q context).result = .ok (a, context') →
          (Service.execute ⟨g', limits, allowance'⟩ session' q context).result =
              .ok (b, context'') →
            a.SameData b ∧ context' = context'') := by
  have hdata : ∀ types types' rows failure?,
      (materialize types limits rows failure?).result.map Selection.untyped =
        (materialize types' limits rows failure?).result.map Selection.untyped :=
    fun types types' rows failure? =>
      (untyped_materializeFrom Cursor.next types limits _).trans
        (untyped_materializeFrom Cursor.next types' limits _).symm
  refine ⟨hdata, fun types types' rows hn => ?_, ?_⟩
  · refine ⟨_, _, result_materialize hn, result_materialize hn, Selection.sameData_of_untyped ?_⟩
    have h := hdata types types' rows none
    rw [result_materialize hn, result_materialize hn] at h
    exact Except.ok.inj h
  · intro g g' allowance allowance' session session' q context context' context'' a b hanswer ha hb
    obtain ⟨types, htypes⟩ := exists_types_of_result ha
    obtain ⟨types', htypes'⟩ := exists_types_of_result hb
    -- without their types both results are that under the empty map
    have hempty := untyped_resultOn q (session q.cql) types limits context
    have hempty' := untyped_resultOn q (session' q.cql) types' limits context
    rw [htypes] at hempty
    rw [htypes', ← hanswer, ← hempty] at hempty'
    obtain ⟨huntyped, hcontext⟩ := Prod.mk.inj (Except.ok.inj hempty')
    exact ⟨Selection.sameData_of_untyped huntyped.symm, hcontext.symm⟩

/-- The names of `mixedRows` with a partition key among them. -/
def keyedTypes : TypeMap :=
  TypeMap.empty.insert (.text "id") .partitionKey

theorem data_of_mixedRows :
    Named mixedRows ∧ ∃ a b,
      (materialize .empty smallLimits mixedRows none).result = .ok a ∧
        (materialize keyedTypes smallLimits mixedRows none).result = .ok b ∧ a.SameData b :=
  ⟨by decide, (data_of_types smallLimits).2.1 .empty keyedTypes mixedRows (by decide)⟩

end CqlGateway
