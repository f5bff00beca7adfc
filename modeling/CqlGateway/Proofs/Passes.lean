import CqlGateway.Proofs.Columns

/-!
# What a pass takes of a stream

A pass takes as many rows as the limits allow, or all of them if there are fewer, and never asks for
more.  Of each row it keeps the cells among the first ones that are not null, typed by their names;
a row of which nothing is kept is left out, although it was taken (`rows_of_materialize`).

What lies behind the last row that the limits allow is not looked at.  So two streams that begin
with the same rows have the same result, and any other reader that begins with these rows, with
whatever it would give or fail with afterwards, has this result too.
-/

namespace CqlGateway

/-- A cell as a selection shows it. -/
structure ShownCell where
  name : String
  dataType? : Option String
  type : ColumnType
  value : Value

/-- The cells of a row as they are shown. -/
def Row.shown (r : Row) : List ShownCell :=
  r.cells.map fun cell => ⟨cell.1.text, cell.1.dataType?, cell.1.type, cell.2⟩

/-- What should be shown of a cell: its type is that of its name in lower case, and it is regular if
the map does not have the name. -/
def Cell.shown (types : TypeMap) (cell : Cell) : ShownCell :=
  ⟨cell.name, cell.dataType?, (types.find? (Text.lower cell.name)).getD .regular, cell.value⟩

/-- What should be shown of a stream: of the first rows the first cells, without those that are null
and without the rows that then have no cell. -/
def shownRows (types : TypeMap) (limits : Limits) (rows : List (List Cell)) :
    List (List ShownCell) :=
  ((rows.take limits.rows).map fun cells =>
    (keptCells limits.columns cells).map (Cell.shown types)).filter fun row => !row.isEmpty

/-- No failure is met before the last row that the limits allow. -/
def Unbroken (limits : Limits) (rows : List (List Cell)) (failure? : Option Failure) : Prop :=
  limits.rows ≤ rows.length ∨ failure? = none

variable {types : TypeMap} {limits : Limits} {rows rows' : List (List Cell)} {cells : List Cell}
  {failure? failure?' : Option Failure}

/-! ### Cells that are shown -/

theorem shown_columnOf? {cell : Cell} {column : Column} (h : columnOf? types cell = some column) :
    (⟨column.text, column.dataType?, column.type, cell.value⟩ : ShownCell) = cell.shown types := by
  obtain ⟨htext, hdata, htype⟩ := columnOf?_eq_some h
  rw [htext, hdata, htype]
  rfl

theorem shown_cells (h : ∀ cell ∈ cells, Text.isBlankText cell.name = false) :
    Row.shown ⟨cells.filterMap fun cell =>
      (columnOf? types cell).map fun column => (column, cell.value)⟩ =
        cells.map (Cell.shown types) := by
  rw [Row.shown, List.map_filterMap, ← List.filterMap_eq_map]
  refine List.filterMap_congr fun cell hcell => ?_
  obtain ⟨column, hcolumn⟩ := exists_columnOf? types (h cell hcell)
  rw [hcolumn]
  exact congrArg some (shown_columnOf? hcolumn)

/-- A row shows the cells that are kept of it. -/
theorem shown_rowOf (types : TypeMap) (limit : Nat)
    (h : ∀ cell ∈ cells, Text.isBlankText cell.name = false) :
    (rowOf types limit cells).shown = (keptCells limit cells).map (Cell.shown types) := by
  refine shown_cells fun cell hcell => ?_
  exact h cell (List.mem_of_mem_take (mem_keptCells.1 hcell).1)

/-- A selection shows what should be shown. -/
theorem shown_selectionOf (hn : Named (rows.take limits.rows)) :
    (selectionOf types limits (rows.take limits.rows)).rows.map Row.shown =
      shownRows types limits rows := by
  have hempty : (fun r : Row => !r.cells.isEmpty) = (fun row => !row.isEmpty) ∘ Row.shown := by
    funext r
    rw [Function.comp_apply, Row.shown, List.isEmpty_map]
  rw [selectionOf_eq, shownRows, hempty, ← List.filter_map, List.map_map]
  congr 1
  refine List.map_congr_left fun cells hcells => ?_
  exact shown_rowOf types limits.columns (hn cells hcells)

/-! ### Rows that are taken -/

theorem unbroken_iff :
    Unbroken limits rows failure? ↔
      (if rows.length < limits.rows then failure? else none) = none := by
  rw [Unbroken]
  by_cases hlen : rows.length < limits.rows
  · rw [if_pos hlen, or_iff_right (by omega)]
  · rw [if_neg hlen]
    exact iff_of_true (.inl (by omega)) rfl

theorem result_of_unbroken (hn : Named (rows.take limits.rows))
    (h : Unbroken limits rows failure?) :
    (materialize types limits rows failure?).result =
      .ok (selectionOf types limits (rows.take limits.rows)) := by
  rw [result_materialize_eq, passFailure?_of_named hn, unbroken_iff.1 h]

theorem result_eq_error_iff (hn : Named (rows.take limits.rows)) (e : Failure) :
    (materialize types limits rows failure?).result = .error e ↔
      rows.length < limits.rows ∧ failure? = some e := by
  rw [result_materialize_eq, passFailure?_of_named hn]
  by_cases hlen : rows.length < limits.rows
  · rw [if_pos hlen]
    cases failure? with
    | none => simp
    | some e' => simp [hlen]
  · rw [if_neg hlen]
    simp [hlen]

/-- As many rows are taken as the limits allow. -/
theorem pulled_materialize (types : TypeMap) (failure? : Option Failure)
    (hn : Named (rows.take limits.rows)) :
    (materialize types limits rows failure?).pulled = min rows.length limits.rows := by
  rw [Reading.pulled, materialize]
  by_cases hlen : limits.rows ≤ rows.length
  · have hgives := gives_cursor (rows.take limits.rows) (rows.drop limits.rows) failure? 0
    have hfull := List.length_take_of_le hlen
    rw [List.take_append_drop] at hgives
    rw [materializeFrom_of_full hgives hn hfull]
    simp only [hfull]
    omega
  · have hgives := gives_cursor rows [] failure? 0
    have hall : rows.take limits.rows = rows := List.take_of_length_le (by omega)
    rw [List.append_nil] at hgives
    rw [hall] at hn
    cases failure? with
    | none =>
      rw [materializeFrom_of_end hgives hn (by omega) rfl]
      simp only
      omega
    | some e =>
      rw [materializeFrom_of_failure hgives hn (by omega) rfl]
      simp only
      omega

/-- A stream that ends before the limit is known by the rows that it begins with. -/
theorem eq_of_take_eq (hrows : rows'.take limits.rows = rows.take limits.rows)
    (hlen : rows.length < limits.rows) : rows' = rows := by
  have hlength := congrArg List.length hrows
  rw [List.length_take, List.length_take] at hlength
  rw [List.take_of_length_le (by omega), List.take_of_length_le (by omega)] at hrows
  exact hrows

/-- What lies behind the rows that the limits allow does not matter. -/
theorem agree_of_take_eq (types : TypeMap) (hn : Named (rows.take limits.rows))
    (hrows : rows'.take limits.rows = rows.take limits.rows)
    (hend : rows.length < limits.rows → failure?' = failure?) :
    (materialize types limits rows' failure?').result =
        (materialize types limits rows failure?).result ∧
      (materialize types limits rows' failure?').pulled =
        (materialize types limits rows failure?).pulled := by
  by_cases hlen : rows.length < limits.rows
  · rw [eq_of_take_eq hrows hlen, hend hlen]
    exact ⟨rfl, rfl⟩
  · have hlength := congrArg List.length hrows
    rw [List.length_take, List.length_take] at hlength
    have hn' : Named (rows'.take limits.rows) := hrows ▸ hn
    have hfull : limits.rows ≤ rows.length := by omega
    have hfull' : limits.rows ≤ rows'.length := by omega
    rw [result_of_unbroken hn (.inl hfull), result_of_unbroken hn' (.inl hfull'), hrows,
      pulled_materialize types failure? hn, pulled_materialize types failure?' hn']
    exact ⟨rfl, by omega⟩

/-- **What a pass takes of a stream.**  If no failure comes before the last row that the limits
allow, then the rows of the selection show what should be shown of the stream; otherwise the pass
ends with this failure.  As many rows are taken as the limits allow.  A stream that begins with the
same rows leads to the same result, and so does every reader that begins by giving these rows, which
is left right behind them. -/
theorem rows_of_materialize (types : TypeMap) (limits : Limits) (rows : List (List Cell))
    (failure? : Option Failure) (hn : Named (rows.take limits.rows)) :
    (Unbroken limits rows failure? → ∃ s,
      (materialize types limits rows failure?).result = .ok s ∧
        s.rows.map Row.shown = shownRows types limits rows) ∧
    (∀ e, (materialize types limits rows failure?).result = .error e ↔
      rows.length < limits.rows ∧ failure? = some e) ∧
    (materialize types limits rows failure?).pulled = min rows.length limits.rows ∧
    (∀ rows' failure?', rows'.take limits.rows = rows.take limits.rows →
      (rows.length < limits.rows → failure?' = failure?) →
        (materialize types limits rows' failure?').result =
            (materialize types limits rows failure?).result ∧
          (materialize types limits rows' failure?').pulled =
            (materialize types limits rows failure?).pulled) ∧
    (∀ (σ : Type) (next : Reader Failure σ (List Cell)) (t t' : σ), limits.rows ≤ rows.length →
      Gives next t (rows.take limits.rows) t' →
        (materializeFrom next types limits t).result =
            (materialize types limits rows failure?).result ∧
          (materializeFrom next types limits t).rest = t') := by
  refine ⟨fun hunbroken => ?_, result_eq_error_iff hn, pulled_materialize types failure? hn,
    fun rows' failure?' => agree_of_take_eq types hn, fun σ next t t' hlen hgives => ?_⟩
  · exact ⟨_, result_of_unbroken hn hunbroken, shown_selectionOf hn⟩
  · rw [materializeFrom_of_full hgives hn (List.length_take_of_le hlen),
      result_of_unbroken hn (.inl hlen)]
    exact ⟨rfl, rfl⟩

/-- A failure behind the second row is not met if the limits allow two rows. -/
theorem rows_of_mixedRows :
    Named (mixedRows.take smallLimits.rows) ∧
      Unbroken smallLimits mixedRows (some .emptyQuery) ∧ ∃ s,
        (materialize .empty smallLimits mixedRows (some .emptyQuery)).result = .ok s ∧
          s.rows.map Row.shown =
            [[⟨"id", some "int", .regular, .int 1⟩, ⟨"Name", some "text", .regular, .text "a"⟩,
                ⟨"NAME", none, .regular, .text "b"⟩],
              [⟨"ID", some "int", .regular, .int 2⟩, ⟨"last", none, .regular, .bool true⟩]] := by
  have hn : Named (mixedRows.take smallLimits.rows) := by decide
  have hunbroken : Unbroken smallLimits mixedRows (some .emptyQuery) := .inl (by decide)
  exact ⟨hn, hunbroken,
    (rows_of_materialize .empty smallLimits mixedRows (some .emptyQuery) hn).1 hunbroken⟩

end CqlGateway
