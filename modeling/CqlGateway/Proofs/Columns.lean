import CqlGateway.Proofs.Census
import CqlGateway.Proofs.Reading
import Mathlib.Data.List.Find
import Mathlib.Data.List.Perm.Basic

/-!
# The columns of a selection

The columns that `materialize` shows are those of the cells that it keeps.  They are listed without
repetition, each as it came first and in the order in which the names came, and every name is in one
of the two lists (`columns_of_materialize`).

In which list a name stands is decided by the number of its *cells*.  That is not the number of rows
that hold it: a row may hold several cells of a name, and if no other row holds one, then the name
is common all the same.  The two numbers put a name into different lists in this case and in no
other (`lists_of_materialize`).
-/

namespace CqlGateway

/-- The cells that are kept of the rows, in the order in which they are met. -/
def keptCellsOf (limits : Limits) (rows : List (List Cell)) : List Cell :=
  (rows.take limits.rows).flatMap (keptCells limits.columns)

/-- The place of the first cell with a name. -/
def firstPlace (cells : List Cell) (key : String) : Nat :=
  (cells.map Cell.key).idxOf key

/-- The selection shows the cells: the names of its columns are those of the cells, none of them
twice, and each column is that of the first cell with its name, the common columns and the dynamic
ones being in the order of these cells. -/
structure Selection.Shows (s : Selection) (cells : List Cell) : Prop where
  distinct : s.columns.Pairwise fun a b => a.key ≠ b.key
  complete : ∀ key, key ∈ s.columns.map Column.key ↔ key ∈ cells.map Cell.key
  first : ∀ c ∈ s.columns, ∃ cell, cells.find? (·.key == c.key) = some cell ∧
    c.text = cell.name ∧ c.dataType? = cell.dataType?
  common_ordered : s.common.Pairwise fun a b => firstPlace cells a.key < firstPlace cells b.key
  dynamic_ordered : s.dynamic.Pairwise fun a b => firstPlace cells a.key < firstPlace cells b.key

/-- The number of cells of a name that are kept. -/
def cellsHolding (limits : Limits) (rows : List (List Cell)) (key : String) : Nat :=
  (keptCellsOf limits rows).countP (·.key == key)

/-- The number of rows with a cell of a name that is kept. -/
def rowsHolding (limits : Limits) (rows : List (List Cell)) (key : String) : Nat :=
  (rows.take limits.rows).countP fun cells =>
    (keptCells limits.columns cells).any (·.key == key)

variable {types : TypeMap} {limits : Limits} {rows : List (List Cell)} {cells : List Cell}

/-! ### Cells and their columns -/

theorem named_keptCellsOf (hn : Named (rows.take limits.rows)) :
    ∀ cell ∈ keptCellsOf limits rows, Text.isBlankText cell.name = false := by
  intro cell hcell
  obtain ⟨cells, hcells, hkept⟩ := List.mem_flatMap.1 hcell
  exact hn cells hcells cell (List.mem_of_mem_take (mem_keptCells.1 hkept).1)

/-- The columns of cells with names have the names of the cells. -/
theorem map_key_columns (types : TypeMap)
    (h : ∀ cell ∈ cells, Text.isBlankText cell.name = false) :
    (cells.filterMap (columnOf? types)).map Column.key = cells.map Cell.key := by
  induction cells with
  | nil => rfl
  | cons cell rest ih =>
    obtain ⟨column, hcolumn⟩ := exists_columnOf? types (h cell List.mem_cons_self)
    rw [List.filterMap_cons_some hcolumn, List.map_cons, List.map_cons,
      ih fun c hc => h c (List.mem_cons_of_mem _ hc), key_of_columnOf? hcolumn]

theorem countP_same_columns (types : TypeMap)
    (h : ∀ cell ∈ cells, Text.isBlankText cell.name = false) (c : Column) :
    (cells.filterMap (columnOf? types)).countP c.same = cells.countP (·.key == c.key) := by
  have hsame : c.same = (· == c.key) ∘ Column.key := by
    funext b
    rw [Bool.eq_iff_iff, Column.same_iff, Function.comp_apply, beq_iff_eq, eq_comm]
  rw [hsame, ← List.countP_map, map_key_columns types h, List.countP_map]
  rfl

/-- The first column with a name is that of the first cell with the name. -/
theorem find?_columns (h : ∀ cell ∈ cells, Text.isBlankText cell.name = false) {c : Column}
    (hc : (cells.filterMap (columnOf? types)).find? (·.key == c.key) = some c) :
    ∃ cell, cells.find? (·.key == c.key) = some cell ∧ columnOf? types cell = some c := by
  rw [List.find?_filterMap] at hc
  obtain ⟨cell, hcell, hcolumn⟩ := Option.bind_eq_some_iff.1 hc
  refine ⟨cell, ?_, hcolumn⟩
  rw [← hcell]
  refine List.find?_congr fun x hx => ?_
  obtain ⟨column, hx'⟩ := exists_columnOf? types (h x hx)
  rw [hx', Option.any_some, key_of_columnOf? hx']

theorem columns_rows (types : TypeMap) (limits : Limits) (rows : List (List Cell)) :
    ((rows.take limits.rows).map (rowOf types limits.columns)).flatMap Row.columns =
      (keptCellsOf limits rows).filterMap (columnOf? types) := by
  rw [List.flatMap_map, keptCellsOf, List.filterMap_flatMap]
  exact List.flatMap_congr fun cells _ => columns_rowOf types limits.columns cells

/-! ### Lists of columns -/

/-- The columns that are counted by a selection. -/
def countedColumns (types : TypeMap) (limits : Limits) (rows : List (List Cell)) : List Column :=
  (keptCellsOf limits rows).filterMap (columnOf? types)

theorem selectionOf_eq (types : TypeMap) (limits : Limits) (rows : List (List Cell)) :
    selectionOf types limits (rows.take limits.rows) =
      { common := (firstsBy Column.key (countedColumns types limits rows)).filter
          fun c => 1 < (countedColumns types limits rows).countP c.same
        dynamic := (firstsBy Column.key (countedColumns types limits rows)).filter
          fun c => (countedColumns types limits rows).countP c.same == 1
        rows := ((rows.take limits.rows).map (rowOf types limits.columns)).filter
          fun r => !r.cells.isEmpty
        partitionColumns := partitionFirsts (countedColumns types limits rows) } := by
  have hholds := Gathering.holds_nil.addRows
    ((rows.take limits.rows).map (rowOf types limits.columns))
  rw [List.nil_append] at hholds
  rw [selectionOf, gathered, hholds.selection, columns_rows]
  rfl

/-- Those counted more than once and those counted once are the first occurrences of all names. -/
theorem counted_perm (cs : List Column) :
    (((firstsBy Column.key cs).filter fun c => 1 < cs.countP c.same) ++
      (firstsBy Column.key cs).filter fun c => cs.countP c.same == 1).Perm
      (firstsBy Column.key cs) := by
  have hone : (firstsBy Column.key cs).filter (fun c => cs.countP c.same == 1) =
      (firstsBy Column.key cs).filter fun c => !decide (1 < cs.countP c.same) := by
    refine List.filter_congr fun c hc => ?_
    -- a first occurrence is counted at least once
    have hpos : 0 < cs.countP c.same :=
      List.countP_pos_iff.2 ⟨c, (mem_of_mem_firstsFrom hc).1, Column.same_iff.2 rfl⟩
    rw [Bool.eq_iff_iff, beq_iff_eq, Bool.not_eq_true', decide_eq_false_iff_not]
    omega
  rw [hone]
  exact List.filter_append_perm _ _

/-- The common columns and the dynamic ones are the first occurrences of all names. -/
theorem columns_perm (types : TypeMap) (limits : Limits) (rows : List (List Cell)) :
    (selectionOf types limits (rows.take limits.rows)).columns.Perm
      (firstsBy Column.key (countedColumns types limits rows)) := by
  rw [selectionOf_eq, Selection.columns]
  exact counted_perm _

theorem mem_map_columns (hn : Named rows) (key : String) :
    key ∈ (selectionOf types limits (rows.take limits.rows)).columns.map Column.key ↔
      key ∈ (keptCellsOf limits rows).map Cell.key := by
  rw [((columns_perm types limits rows).map Column.key).mem_iff, mem_map_firstsBy, countedColumns,
    map_key_columns types (named_keptCellsOf (hn.take _))]

theorem first_of_mem_columns (hn : Named rows) {c : Column}
    (hc : c ∈ (selectionOf types limits (rows.take limits.rows)).columns) :
    ∃ cell, (keptCellsOf limits rows).find? (·.key == c.key) = some cell ∧
      columnOf? types cell = some c :=
  find?_columns (named_keptCellsOf (hn.take _))
    (find?_of_mem_firstsBy ((columns_perm types limits rows).mem_iff.1 hc))

theorem ordered_filter_firstsBy (hn : Named rows) (test : Column → Bool) :
    ((firstsBy Column.key (countedColumns types limits rows)).filter test).Pairwise fun a b =>
      firstPlace (keptCellsOf limits rows) a.key < firstPlace (keptCellsOf limits rows) b.key := by
  simp only [firstPlace, ← map_key_columns types (named_keptCellsOf (hn.take _))]
  exact (pairwise_idxOf_firstsBy _).sublist List.filter_sublist

/-- **The columns of a selection are those of the cells that are kept.**  Rows without blank names
give a selection that shows these cells, and a name is in one of its lists iff one of the first rows
holds it among its first cells in one that is not null. -/
theorem columns_of_materialize (types : TypeMap) (limits : Limits) (rows : List (List Cell))
    (hn : Named rows) :
    ∃ s, (materialize types limits rows none).result = .ok s ∧
      s.Shows (keptCellsOf limits rows) ∧
      ∀ key, key ∈ s.columns.map Column.key ↔
        ∃ cells ∈ rows.take limits.rows, ∃ cell ∈ cells.take limits.columns,
          cell.value.isNull = false ∧ Text.lower cell.name = key := by
  refine ⟨_, result_materialize hn, ⟨?_, mem_map_columns hn, ?_, ?_, ?_⟩, fun key => ?_⟩
  · exact (columns_perm types limits rows).symm.pairwise (pairwise_firstsBy _) fun h => h.symm
  · intro c hc
    obtain ⟨cell, hfind, hcolumn⟩ := first_of_mem_columns hn hc
    have hshown := columnOf?_eq_some hcolumn
    exact ⟨cell, hfind, hshown.1, hshown.2.1⟩
  · rw [selectionOf_eq]
    exact ordered_filter_firstsBy hn _
  · rw [selectionOf_eq]
    exact ordered_filter_firstsBy hn _
  · rw [mem_map_columns hn, List.mem_map]
    simp only [keptCellsOf, List.mem_flatMap, mem_keptCells]
    constructor
    · rintro ⟨cell, ⟨cells, hcells, hcell, hnull⟩, rfl⟩
      exact ⟨cells, hcells, cell, hcell, hnull, rfl⟩
    · rintro ⟨cells, hcells, cell, hcell, hnull, rfl⟩
      exact ⟨cell, ⟨cells, hcells, hcell, hnull⟩, rfl⟩

/-- Two rows with four names, of which one is repeated in another spelling and one has a null in the
second row. -/
def mixedRows : List (List Cell) :=
  [[⟨"id", some "int", .int 1⟩, ⟨"Name", some "text", .text "a"⟩, ⟨"NAME", none, .text "b"⟩],
    [⟨"ID", some "int", .int 2⟩, ⟨"extra", none, .null⟩, ⟨"last", none, .bool true⟩]]

/-- Limits that allow two rows of three cells. -/
def smallLimits : Limits :=
  ⟨2, 3, 10, by decide, by decide, by decide⟩

theorem columns_of_mixedRows :
    Named mixedRows ∧ ∃ s, (materialize .empty smallLimits mixedRows none).result = .ok s ∧
      s.Shows (keptCellsOf smallLimits mixedRows) ∧
      ∀ key, key ∈ s.columns.map Column.key ↔
        ∃ cells ∈ mixedRows.take 2, ∃ cell ∈ cells.take 3,
          cell.value.isNull = false ∧ Text.lower cell.name = key :=
  ⟨by decide, columns_of_materialize .empty smallLimits mixedRows (by decide)⟩

/-! ### Cells and rows of a name -/

theorem mem_map_filter_firstsBy (hn : Named rows) (test : Nat → Bool) (htest : test 0 = false)
    (key : String) :
    key ∈ ((firstsBy Column.key (countedColumns types limits rows)).filter
        fun c => test ((countedColumns types limits rows).countP c.same)).map Column.key ↔
      test (cellsHolding limits rows key) = true := by
  have hcount : ∀ c : Column, (countedColumns types limits rows).countP c.same =
      cellsHolding limits rows c.key :=
    fun c => countP_same_columns types (named_keptCellsOf (hn.take _)) c
  simp only [List.mem_map, List.mem_filter, hcount]
  constructor
  · rintro ⟨c, ⟨-, hc⟩, rfl⟩
    exact hc
  · intro h
    -- a name that passes the test is held by some cell
    have hpos : 0 < cellsHolding limits rows key := by
      rcases Nat.eq_zero_or_pos (cellsHolding limits rows key) with h0 | h0
      · rw [h0, htest] at h
        cases h
      · exact h0
    obtain ⟨cell, hcell, hkey⟩ := List.countP_pos_iff.1 hpos
    have hmem : key ∈ (firstsBy Column.key (countedColumns types limits rows)).map Column.key := by
      rw [mem_map_firstsBy, countedColumns, map_key_columns types (named_keptCellsOf (hn.take _))]
      exact List.mem_map.2 ⟨cell, hcell, eq_of_beq hkey⟩
    obtain ⟨c, hc, rfl⟩ := List.mem_map.1 hmem
    exact ⟨c, ⟨hc, h⟩, rfl⟩

theorem mem_map_common (hn : Named rows) (key : String) :
    key ∈ (selectionOf types limits (rows.take limits.rows)).common.map Column.key ↔
      1 < cellsHolding limits rows key := by
  rw [selectionOf_eq, ← decide_eq_true_iff (p := 1 < cellsHolding limits rows key)]
  exact mem_map_filter_firstsBy hn (1 < ·) rfl key

theorem mem_map_dynamic (hn : Named rows) (key : String) :
    key ∈ (selectionOf types limits (rows.take limits.rows)).dynamic.map Column.key ↔
      cellsHolding limits rows key = 1 := by
  rw [selectionOf_eq, ← beq_iff_eq (b := 1)]
  exact mem_map_filter_firstsBy hn (· == 1) rfl key

theorem rowsHolding_le_cellsHolding (limits : Limits) (rows : List (List Cell)) (key : String) :
    rowsHolding limits rows key ≤ cellsHolding limits rows key := by
  unfold rowsHolding cellsHolding keptCellsOf
  induction rows.take limits.rows with
  | nil => simp
  | cons cells rest ih =>
    rw [List.flatMap_cons, List.countP_append, List.countP_cons]
    cases hany : (keptCells limits.columns cells).any (·.key == key) with
    | false => simp only [Bool.false_eq_true, if_false]; omega
    | true =>
      have hpos : 0 < (keptCells limits.columns cells).countP (·.key == key) :=
        List.countP_pos_iff.2 (List.any_eq_true.1 hany)
      simp only [if_true]
      omega

theorem rowsHolding_pos_of_cellsHolding_pos {key : String}
    (h : 0 < cellsHolding limits rows key) : 0 < rowsHolding limits rows key := by
  obtain ⟨cell, hcell, hkey⟩ := List.countP_pos_iff.1 h
  obtain ⟨cells, hcells, hkept⟩ := List.mem_flatMap.1 hcell
  exact List.countP_pos_iff.2 ⟨cells, hcells, List.any_eq_true.2 ⟨cell, hkept, hkey⟩⟩

/-- **Names are listed by the number of their cells.**  For a name this is the same as the number of
the rows that hold it, unless a single row holds several cells of the name. -/
theorem lists_of_materialize (types : TypeMap) (limits : Limits) (rows : List (List Cell))
    (hn : Named rows) :
    ∃ s, (materialize types limits rows none).result = .ok s ∧ ∀ key,
      (key ∈ s.common.map Column.key ↔ 1 < cellsHolding limits rows key) ∧
      (key ∈ s.dynamic.map Column.key ↔ cellsHolding limits rows key = 1) ∧
      (((key ∈ s.common.map Column.key ↔ 1 < rowsHolding limits rows key) ∧
          (key ∈ s.dynamic.map Column.key ↔ rowsHolding limits rows key = 1)) ↔
        ¬ (rowsHolding limits rows key = 1 ∧ 1 < cellsHolding limits rows key)) := by
  refine ⟨_, result_materialize hn, fun key => ?_⟩
  -- what is left is arithmetic: no more rows than cells, and a row if there is a cell
  have hle := rowsHolding_le_cellsHolding limits rows key
  rw [mem_map_common hn, mem_map_dynamic hn]
  refine ⟨Iff.rfl, Iff.rfl, ?_⟩
  rcases Nat.eq_zero_or_pos (cellsHolding limits rows key) with h0 | hpos
  · omega
  · have hrows := rowsHolding_pos_of_cellsHolding_pos hpos
    omega

theorem lists_of_mixedRows :
    Named mixedRows ∧ ∃ s, (materialize .empty smallLimits mixedRows none).result = .ok s ∧
      ∀ key,
        (key ∈ s.common.map Column.key ↔ 1 < cellsHolding smallLimits mixedRows key) ∧
        (key ∈ s.dynamic.map Column.key ↔ cellsHolding smallLimits mixedRows key = 1) ∧
        (((key ∈ s.common.map Column.key ↔ 1 < rowsHolding smallLimits mixedRows key) ∧
            (key ∈ s.dynamic.map Column.key ↔ rowsHolding smallLimits mixedRows key = 1)) ↔
          ¬ (rowsHolding smallLimits mixedRows key = 1 ∧
            1 < cellsHolding smallLimits mixedRows key)) :=
  ⟨by decide, lists_of_materialize .empty smallLimits mixedRows (by decide)⟩

/-- One row with two cells of a name makes it common, though no second row holds it. -/
theorem name_of_one_row_is_common :
    ∃ s, (materialize .empty smallLimits
          [[⟨"a", none, .int 1⟩, ⟨"A", none, .int 2⟩]] none).result = .ok s ∧
      rowsHolding smallLimits [[⟨"a", none, .int 1⟩, ⟨"A", none, .int 2⟩]] "a" = 1 ∧
      "a" ∈ s.common.map Column.key ∧ "a" ∉ s.dynamic.map Column.key :=
  ⟨_, rfl, by decide, by decide, by decide⟩

end CqlGateway
