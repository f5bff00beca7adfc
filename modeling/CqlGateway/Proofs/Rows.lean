import CqlGateway.Result.Materialize

/-!
# The row of a list of cells

`rowOf` is the row that `collectRow` makes of a list of cells: of the first cells those that are not
null, each under its column.  It fails if one of these has a blank name, which no column can have,
and for no other reason (`result_collectRow_eq`).  The columns of the row carry the names and the
reported types of the cells, in order (`columns_rowOf`).
-/

namespace CqlGateway

/-- No cell of the rows has a blank name. -/
def Named (rows : List (List Cell)) : Prop :=
  ∀ cells ∈ rows, ∀ cell ∈ cells, Text.isBlankText cell.name = false

instance (rows : List (List Cell)) : Decidable (Named rows) :=
  inferInstanceAs (Decidable (∀ cells ∈ rows, ∀ cell ∈ cells, _))

/-- The cells of a row that are kept: those among the first that are not null. -/
def keptCells (limit : Nat) (cells : List Cell) : List Cell :=
  (cells.take limit).filter fun cell => !cell.value.isNull

/-- One of the cells has a blank name. -/
def hasBlankName (cells : List Cell) : Bool :=
  cells.any fun cell => Text.isBlankText cell.name

/-- The column of a cell, if that has a name. -/
def columnOf? (types : TypeMap) (cell : Cell) : Option Column :=
  (Identifier.ofText? .typedColumn cell.name).map fun name =>
    { name, dataType? := cell.dataType?, type := (types.find? cell.key).getD .regular }

/-- The row of the cells that are kept. -/
def rowOf (types : TypeMap) (limit : Nat) (cells : List Cell) : Row :=
  ⟨(keptCells limit cells).filterMap fun cell =>
    (columnOf? types cell).map fun column => (column, cell.value)⟩

variable {types : TypeMap} {limit : Nat} {cells : List Cell} {cell : Cell} {column : Column}

theorem mem_keptCells :
    cell ∈ keptCells limit cells ↔ cell ∈ cells.take limit ∧ cell.value.isNull = false := by
  simp [keptCells]

theorem Named.tail {rows : List (List Cell)} (h : Named (cells :: rows)) : Named rows :=
  fun cs hcs => h cs (List.mem_cons_of_mem _ hcs)

/-! ### Columns of cells -/

/-- A cell with a name has a column, which shows what the cell shows. -/
theorem exists_columnOf? (types : TypeMap) (h : Text.isBlankText cell.name = false) :
    ∃ column, columnOf? types cell = some column := by
  simp [columnOf?, Identifier.ofText?, h]

theorem columnOf?_eq_some (h : columnOf? types cell = some column) :
    column.text = cell.name ∧ column.dataType? = cell.dataType? ∧
      column.type = (types.find? cell.key).getD .regular := by
  simp only [columnOf?, Identifier.ofText?, Option.map_eq_some_iff] at h
  obtain ⟨name, hname, rfl⟩ := h
  split at hname
  · cases hname
    exact ⟨rfl, rfl, rfl⟩
  · cases hname

theorem key_of_columnOf? (h : columnOf? types cell = some column) : column.key = cell.key := by
  have htext : column.name.text = cell.name := (columnOf?_eq_some h).1
  rw [Column.key, Identifier.key, Cell.key, htext]

/-! ### Collecting -/

theorem result_typedColumn_eq (types : TypeMap) (cell : Cell) :
    (typedColumn types cell).result =
      (Identifier.ofValue .typedColumn (.text cell.name)).map fun name =>
        { name, dataType? := cell.dataType?, type := (types.find? cell.key).getD .regular } := by
  unfold typedColumn
  cases types.find? cell.key <;>
    cases Identifier.ofValue .typedColumn (.text cell.name) <;> rfl

theorem result_typedColumn (h : columnOf? types cell = some column) :
    (typedColumn types cell).result = .ok column := by
  simp only [columnOf?, Option.map_eq_some_iff] at h
  obtain ⟨name, hname, rfl⟩ := h
  have hvalue : Identifier.ofValue .typedColumn (.text cell.name) = .ok name := by
    simp [Identifier.ofValue, Value.text?, hname]
  rw [result_typedColumn_eq, hvalue]
  rfl

theorem result_typedColumn_of_blank (types : TypeMap) (h : Text.isBlankText cell.name = true) :
    (typedColumn types cell).result = .error (.blankName .typedColumn) := by
  have hvalue : Identifier.ofValue .typedColumn (.text cell.name) =
      .error (.blankName .typedColumn) := by
    simp [Identifier.ofValue, Value.text?, Identifier.ofText?, h]
  rw [result_typedColumn_eq, hvalue]
  rfl

/-- Cells are collected unless one that is not null has a blank name. -/
theorem result_collectCells_eq (types : TypeMap) (cells : List Cell) :
    (collectCells types cells).result =
      if hasBlankName (cells.filter fun cell => !cell.value.isNull) then
        .error (.blankName .typedColumn)
      else
        .ok ((cells.filter fun cell => !cell.value.isNull).filterMap fun cell =>
          (columnOf? types cell).map fun column => (column, cell.value)) := by
  induction cells with
  | nil => rfl
  | cons cell rest ih =>
    rw [collectCells]
    cases hnull : cell.value.isNull with
    | true => simpa [hnull] using ih
    | false =>
      simp only [Bool.false_eq_true, if_false]
      cases hblank : Text.isBlankText cell.name with
      | true =>
        rw [Outcome.bind_of_error (result_typedColumn_of_blank types hblank)]
        simp [hnull, hasBlankName, hblank]
      | false =>
        obtain ⟨column, hcolumn⟩ := exists_columnOf? types hblank
        rw [Outcome.result_bind_of_ok (result_typedColumn hcolumn)]
        -- what becomes of the rest decides
        cases hrest : hasBlankName (rest.filter fun cell => !cell.value.isNull) with
        | true =>
          rw [hrest, if_pos rfl] at ih
          rw [Outcome.bind_of_error ih]
          rw [hasBlankName] at hrest
          simp [hnull, hasBlankName, hrest]
        | false =>
          rw [hrest, if_neg Bool.false_ne_true] at ih
          rw [Outcome.result_bind_of_ok ih]
          rw [hasBlankName] at hrest
          simp [hnull, hasBlankName, hblank, hrest, hcolumn]
          rfl

/-- **A row is made of the cells that are kept**, unless one of them has a blank name. -/
theorem result_collectRow_eq (types : TypeMap) (limit : Nat) (cells : List Cell) :
    (collectRow types limit cells).result =
      if hasBlankName (keptCells limit cells) then .error (.blankName .typedColumn)
      else .ok (rowOf types limit cells) := by
  have hcells := result_collectCells_eq types (cells.take limit)
  rw [collectRow, keptCells]
  split at hcells
  · next h => rw [Outcome.bind_of_error hcells, if_pos h]
  · next h =>
    rw [Outcome.result_bind_of_ok hcells, if_neg h]
    split <;> rfl

theorem hasBlankName_keptCells (limit : Nat)
    (h : ∀ cell ∈ cells, Text.isBlankText cell.name = false) :
    hasBlankName (keptCells limit cells) = false := by
  rw [hasBlankName, List.any_eq_false]
  intro cell hcell
  have hmem : cell ∈ cells := List.mem_of_mem_take (mem_keptCells.1 hcell).1
  rw [h cell hmem]
  exact Bool.false_ne_true

/-- The row of cells with names. -/
theorem result_collectRow (types : TypeMap) (limit : Nat)
    (h : ∀ cell ∈ cells, Text.isBlankText cell.name = false) :
    (collectRow types limit cells).result = .ok (rowOf types limit cells) := by
  rw [result_collectRow_eq, hasBlankName_keptCells limit h]
  rfl

/-! ### Columns of rows -/

theorem columns_rowOf (types : TypeMap) (limit : Nat) (cells : List Cell) :
    (rowOf types limit cells).columns = (keptCells limit cells).filterMap (columnOf? types) := by
  simp [Row.columns, rowOf, List.map_filterMap, Function.comp_def]

end CqlGateway
