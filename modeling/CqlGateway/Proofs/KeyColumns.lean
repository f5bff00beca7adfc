import CqlGateway.Proofs.Passes
import CqlGateway.Proofs.Rendering

/-!
# The columns of the partition key

A pass keeps the columns of the partition key apart from the counts of all columns, and compares
each of them with those it has.  What comes of it agrees with the lists of the selection: the type
of a column depends on its name alone, so the first occurrence of a name belongs to the partition
key iff any other one does (`Selection.Tallied.keyed`).  Hence the columns of the partition key are
those of the lists that have this type, in the order of first occurrence (`keys_of_materialize`).

They are reported iff there are several of them, and nothing else that a pass reports is like this
report (`isKeyReport_gather`).
-/

namespace CqlGateway

/-- The event reports several columns of a partition key. -/
def Event.isKeyReport : Event → Bool
  | .severalPartitionKeys _ => true
  | _ => false

/-- The columns of the partition key are the first occurrences of the names of this type, in the
order in which they came, and the columns of this type in the lists of the selection; the first of
them identifies the rows; and they are reported, once, iff there are several. -/
structure Selection.Keyed (s : Selection) (events : List Event) : Prop where
  found : ∀ c, c ∈ s.partitionColumns ↔
    s.cellColumns.find? (·.key == c.key) = some c ∧ c.type = .partitionKey
  ordered : s.partitionColumns.Pairwise fun a b =>
    (s.cellColumns.map Column.key).idxOf a.key < (s.cellColumns.map Column.key).idxOf b.key
  distinct : s.partitionColumns.Pairwise fun a b => a.key ≠ b.key
  listed : ∀ c, c ∈ s.partitionColumns ↔ c ∈ s.columns ∧ c.type = .partitionKey
  head : s.partitionKey? = s.partitionColumns.head?
  first : s.partitionKey? = s.cellColumns.find? fun c => c.type == .partitionKey
  reported : events.filter Event.isKeyReport =
    if 1 < s.partitionColumns.length then
      [.severalPartitionKeys (s.partitionColumns.map Column.text)]
    else []

variable {α β σ : Type} {types : TypeMap} {limits : Limits} {rows : List (List Cell)}
  {failure? : Option Failure} {s : Selection}

/-! ### Reports -/

/-- What holds of the events of two operations holds of those of both. -/
theorem forall_events_bind {x : Outcome α} {f : α → Outcome β} {P : Event → Prop}
    (hx : ∀ e ∈ x.events, P e) (hf : ∀ a, ∀ e ∈ (f a).events, P e) :
    ∀ e ∈ (x >>= f).events, P e := by
  cases hresult : x.result with
  | error failure =>
    rw [Outcome.bind_of_error hresult]
    exact hx
  | ok a =>
    rw [Outcome.bind_of_ok hresult]
    intro e he
    rcases List.mem_append.1 he with he | he
    · exact hx e he
    · exact hf a e he

theorem events_typedColumn (types : TypeMap) (cell : Cell) :
    (typedColumn types cell).events =
      if (types.find? cell.key).isNone then [.columnTypeMissing cell.name] else [] := by
  unfold typedColumn
  cases types.find? cell.key <;>
    cases Identifier.ofValue .typedColumn (.text cell.name) <;> rfl

theorem isKeyReport_typedColumn (types : TypeMap) (cell : Cell) :
    ∀ e ∈ (typedColumn types cell).events, e.isKeyReport = false := by
  intro e he
  rw [events_typedColumn] at he
  split at he
  · rw [List.mem_singleton.1 he]
    rfl
  · cases he

theorem isKeyReport_collectCells (types : TypeMap) (cells : List Cell) :
    ∀ e ∈ (collectCells types cells).events, e.isKeyReport = false := by
  induction cells with
  | nil => exact fun e he => absurd he List.not_mem_nil
  | cons cell rest ih =>
    rw [collectCells]
    split
    · exact ih
    · refine forall_events_bind (isKeyReport_typedColumn types cell) fun column => ?_
      exact forall_events_bind ih fun more e he => absurd he List.not_mem_nil

theorem isKeyReport_collectRow (types : TypeMap) (limit : Nat) (cells : List Cell) :
    ∀ e ∈ (collectRow types limit cells).events, e.isKeyReport = false := by
  refine forall_events_bind (isKeyReport_collectCells types _) fun collected e he => ?_
  split at he
  · rw [List.mem_singleton.1 he]
    rfl
  · cases he

/-- Nothing that is reported while rows are gathered is a report of the partition key. -/
theorem isKeyReport_gather (next : Reader Failure σ (List Cell)) (types : TypeMap)
    (limits : Limits) (budget : Nat) (t : σ) (g : Gathering) :
    ∀ e ∈ (gather next types limits budget t g).events, e.isKeyReport = false := by
  induction budget generalizing t g with
  | zero =>
    intro e he
    rw [List.mem_singleton.1 he]
    rfl
  | succ budget ih =>
    rw [gather]
    rcases next t with ⟨_ | _ | cells, t'⟩
    · exact fun e he => absurd he List.not_mem_nil
    · exact fun e he => absurd he List.not_mem_nil
    · have hrow := isKeyReport_collectRow types limits.columns cells
      dsimp only
      cases (collectRow types limits.columns cells).result with
      | error failure => exact hrow
      | ok r =>
        intro e he
        rcases List.mem_append.1 he with he | he
        · exact hrow e he
        · exact ih t' _ e he

/-- **A pass reports the partition key of its selection**, and nothing like it before. -/
theorem keyReports_of_materialize
    (h : (materialize types limits rows failure?).result = .ok s) :
    (materialize types limits rows failure?).events.filter Event.isKeyReport =
      partitionEvents s := by
  rw [materialize, materializeFrom] at h ⊢
  have hgather := isKeyReport_gather Cursor.next types limits limits.rows
    { ahead := rows, failure? } {}
  cases hread : (gather Cursor.next types limits limits.rows
      { ahead := rows, failure? } {}).result with
  | error e =>
    rw [hread] at h
    cases h
  | ok g =>
    rw [hread] at h
    cases h
    have hnone : (gather Cursor.next types limits limits.rows
        { ahead := rows, failure? } {}).events.filter Event.isKeyReport = [] := by
      rw [List.filter_eq_nil_iff]
      intro e he
      rw [hgather e he]
      exact Bool.false_ne_true
    dsimp only
    rw [List.filter_append, hnone, List.nil_append, partitionEvents]
    split <;> rfl

/-! ### Columns by their types -/

/-- The type of a column is that of its name. -/
theorem type_of_mem_countedColumns {c : Column} (h : c ∈ countedColumns types limits rows) :
    c.type = (types.find? c.key).getD .regular := by
  obtain ⟨cell, -, hcolumn⟩ := List.mem_filterMap.1 h
  rw [key_of_columnOf? hcolumn]
  exact (columnOf?_eq_some hcolumn).2.2

/-- A name has the type of the partition key iff the map says so. -/
theorem type_eq_partitionKey_iff {c : Column} (h : c ∈ countedColumns types limits rows) :
    c.type = .partitionKey ↔ types.find? c.key = some .partitionKey := by
  rw [type_of_mem_countedColumns h]
  cases types.find? c.key <;> simp

/-- The names of the columns of the partition key are those of the cells that the map calls so. -/
theorem mem_map_partitionFirsts (hn : Named (rows.take limits.rows)) (key : String) :
    key ∈ (partitionFirsts (countedColumns types limits rows)).map Column.key ↔
      key ∈ (keptCellsOf limits rows).map Cell.key ∧ types.find? key = some .partitionKey := by
  rw [partitionFirsts, mem_map_firstsBy, ← map_key_columns types (named_keptCellsOf hn),
    ← countedColumns]
  simp only [List.mem_map, List.mem_filter, beq_iff_eq]
  constructor
  · rintro ⟨c, ⟨hc, htype⟩, rfl⟩
    exact ⟨⟨c, hc, rfl⟩, (type_eq_partitionKey_iff hc).1 htype⟩
  · rintro ⟨⟨c, hc, rfl⟩, htype⟩
    exact ⟨c, ⟨hc, (type_eq_partitionKey_iff hc).2 htype⟩, rfl⟩

/-! ### Selections -/

/-- If the name of a column decides its type, then the columns of the partition key are those of all
columns that have this type. -/
theorem Selection.Tallied.keyed (h : s.Tallied)
    (htypes : ∀ a ∈ s.cellColumns, ∀ b ∈ s.cellColumns, a.key = b.key → a.type = b.type)
    {events : List Event} (hevents : events.filter Event.isKeyReport = partitionEvents s) :
    s.Keyed events := by
  have hpartition : s.partitionColumns =
      (firstsBy Column.key s.cellColumns).filter fun c => c.type == .partitionKey := by
    rw [h.partitionColumns, partitionFirsts]
    refine firstsBy_filter fun a ha b hb hkey => ?_
    rw [htypes a ha b hb hkey]
  have hmem : ∀ c, c ∈ s.partitionColumns ↔
      c ∈ firstsBy Column.key s.cellColumns ∧ c.type = .partitionKey := by
    intro c
    rw [hpartition, List.mem_filter, beq_iff_eq]
  refine ⟨fun c => ?_, ?_, ?_, fun c => ?_, rfl, ?_, ?_⟩
  · rw [hmem, mem_firstsBy_iff]
  · rw [hpartition]
    exact (pairwise_idxOf_firstsBy _).sublist List.filter_sublist
  · rw [hpartition]
    exact (pairwise_firstsBy _).sublist List.filter_sublist
  · rw [hmem, h.columns_perm.mem_iff]
  · rw [Selection.partitionKey?, h.partitionColumns, partitionFirsts, head?_firstsBy,
      List.head?_filter]
  · rw [hevents, partitionEvents, Selection.hasCompositeKey]
    simp only [decide_eq_true_eq]

/-- The cells of a selection are those that are kept of the rows. -/
theorem cellColumns_of_materialize
    (h : (materialize types limits rows failure?).result = .ok s) :
    s.cellColumns = countedColumns types limits rows := by
  rw [eq_selectionOf h, Selection.cellColumns, selectionOf_eq, columns_of_nonempty, columns_rows,
    countedColumns]

/-- **The columns of the partition key.**  A pass that meets no failure ends with a selection.  Its
columns of the partition key are the first occurrences of the names of this type, in order, and so
the columns of this type in its lists; they are reported iff there are several.  A name is among
them iff the map says so of a name that a kept cell has. -/
theorem keys_of_materialize (types : TypeMap) (limits : Limits) (rows : List (List Cell))
    (failure? : Option Failure) (hn : Named (rows.take limits.rows)) :
    (Unbroken limits rows failure? →
      ∃ s, (materialize types limits rows failure?).result = .ok s) ∧
    ∀ s, (materialize types limits rows failure?).result = .ok s →
      s.Keyed (materialize types limits rows failure?).events ∧
      ∀ key, key ∈ s.partitionColumns.map Column.key ↔
        key ∈ (keptCellsOf limits rows).map Cell.key ∧
          types.find? key = some .partitionKey := by
  refine ⟨fun hunbroken => ⟨_, result_of_unbroken hn hunbroken⟩, fun s hs => ?_⟩
  have htallied := tallied_of_materialize hs
  have hcolumns := cellColumns_of_materialize hs
  refine ⟨htallied.keyed (fun a ha b hb hkey => ?_) (keyReports_of_materialize hs), fun key => ?_⟩
  · rw [hcolumns] at ha hb
    rw [type_of_mem_countedColumns ha, type_of_mem_countedColumns hb, hkey]
  · rw [htallied.partitionColumns, hcolumns]
    exact mem_map_partitionFirsts hn key

/-- A map with two columns of a partition key. -/
def compositeTypes : TypeMap :=
  TypeMap.empty.insertNames ["last", "ID"] .partitionKey

/-- Both rows have the first column of the key, each in its own spelling, and only the second row
has the other one. -/
theorem keys_of_mixedRows :
    Named (mixedRows.take smallLimits.rows) ∧ Unbroken smallLimits mixedRows none ∧
      ∃ s, (materialize compositeTypes smallLimits mixedRows none).result = .ok s ∧
        s.Keyed (materialize compositeTypes smallLimits mixedRows none).events ∧
        s.partitionColumns.map Column.text = ["id", "last"] ∧
        s.common.map Column.text = ["id", "Name"] ∧ s.dynamic.map Column.text = ["last"] := by
  have hn : Named (mixedRows.take smallLimits.rows) := by decide
  have hunbroken : Unbroken smallLimits mixedRows none := .inr rfl
  have hkeys := keys_of_materialize compositeTypes smallLimits mixedRows none hn
  exact ⟨hn, hunbroken, _, rfl, (hkeys.2 _ rfl).1, by decide, by decide, by decide⟩

end CqlGateway
