import CqlGateway.Proofs.Columns
import CqlGateway.Proofs.Conversions

/-!
# What a rendered selection shows

The cells of a row are looked up in two ways: `Row.get?` takes the first cell of a name, up to case,
and the row as an object has for each spelling the value of the last cell that is spelled so.  The
lists of columns have one entry for each name, up to case, in the spelling of the first cell of the
name.

If a row repeats a name, the three differ (`repeated_name_hides_values`).  What each of them shows
of a cell is said by `rendering_of_materialize`, which holds of every selection that is made of
rows, whatever the names of their columns are.  It rests on `Selection.Tallied`: the lists of a
selection are the census of its own rows.

A selection can be rendered if all its values can (`Selection.Writable`); nothing else in it needs
room or is a number.
-/

namespace CqlGateway

/-! ### The columns of any selection -/

/-- The columns of the cells of a selection. -/
def Selection.cellColumns (s : Selection) : List Column :=
  s.rows.flatMap Row.columns

/-- The lists of a selection tell the first occurrences of the columns of its cells. -/
structure Selection.Tallied (s : Selection) : Prop where
  common : s.common =
    (firstsBy Column.key s.cellColumns).filter fun c => 1 < s.cellColumns.countP c.same
  dynamic : s.dynamic =
    (firstsBy Column.key s.cellColumns).filter fun c => s.cellColumns.countP c.same == 1
  partitionColumns : s.partitionColumns = partitionFirsts s.cellColumns

variable {types : TypeMap} {limits : Limits} {rows : List (List Cell)} {failure? : Option Failure}
  {s : Selection}

/-- Rows without cells have no columns. -/
theorem columns_of_nonempty (rs : List Row) :
    (rs.filter fun r => !r.cells.isEmpty).flatMap Row.columns = rs.flatMap Row.columns := by
  induction rs with
  | nil => rfl
  | cons r rs ih =>
    rw [List.flatMap_cons, List.filter_cons]
    cases hr : r.cells with
    | nil => simpa [hr, Row.columns] using ih
    | cons cell cells => simp [ih]

theorem tallied_of_holds {g : Gathering} {rs : List Row} (h : g.Holds rs) :
    g.selection.Tallied := by
  have hcolumns : g.selection.cellColumns = rs.flatMap Row.columns := by
    rw [Selection.cellColumns, h.selection, columns_of_nonempty]
  refine ⟨?_, ?_, ?_⟩ <;> rw [hcolumns, h.selection]

/-- **The lists of a selection are those of its own rows**, whatever was read. -/
theorem tallied_of_materialize (h : (materialize types limits rows failure?).result = .ok s) :
    s.Tallied := by
  rw [eq_selectionOf h]
  exact tallied_of_holds (Gathering.holds_nil.addRows _)

/-- The two lists have the first occurrences of all names. -/
theorem Selection.Tallied.columns_perm (h : s.Tallied) :
    s.columns.Perm (firstsBy Column.key s.cellColumns) := by
  rw [Selection.columns, h.common, h.dynamic]
  exact counted_perm _

/-- A name that a cell has is listed once, as it came first. -/
theorem Selection.Tallied.filter_columns (h : s.Tallied) (key : String) :
    s.columns.filter (·.key == key) = (s.cellColumns.find? (·.key == key)).toList := by
  have hfilter := h.columns_perm.filter (·.key == key)
  rw [filter_firstsBy] at hfilter
  -- at most one column is found, so the order of the lists does not matter
  cases hfind : s.cellColumns.find? (·.key == key) with
  | none => rw [hfind] at hfilter; exact hfilter.eq_nil
  | some c => rw [hfind] at hfilter; exact List.perm_singleton.1 hfilter

/-! ### Cells of a row -/

section Forms

variable {room : Nat} {cell : Column × Value} {row : Row} {j : Json}

theorem Row.memberOf_eq_ok_iff {m : String × Json} :
    Row.memberOf room cell = .ok m ↔
      cell.2.toJson room = .ok cell.2.form ∧ m = (cell.1.text, cell.2.form) := by
  rw [Row.memberOf, bind_eq_ok_iff]
  constructor
  · rintro ⟨form, hform, hm⟩
    obtain ⟨hcell, rfl⟩ := Value.toJson_eq_ok_iff_form.1 hform
    cases hm
    exact ⟨hcell, rfl⟩
  · rintro ⟨hcell, rfl⟩
    exact ⟨_, hcell, rfl⟩

/-- A row is an object iff all its values have a JSON form. -/
theorem Row.toJson_eq_ok_iff :
    row.toJson room = .ok j ↔ (∀ cell ∈ row.cells, cell.2.toJson room = .ok cell.2.form) ∧
      j = .obj (Members.collapse (row.cells.map fun cell => (cell.1.text, cell.2.form))) := by
  have hforms := fun forms => @mapM_eq_ok_iff _ _ _ (Row.memberOf room) _ _ row.cells forms
    fun _ _ _ => Row.memberOf_eq_ok_iff
  simp only [Row.toJson, Row.members, map_eq_ok_iff, hforms]
  constructor
  · rintro ⟨-, ⟨-, ⟨hcells, rfl⟩, rfl⟩, rfl⟩
    exact ⟨hcells, rfl⟩
  · rintro ⟨hcells, rfl⟩
    exact ⟨_, ⟨_, ⟨hcells, rfl⟩, rfl⟩, rfl⟩

end Forms

/-- Uniting repeated members keeps the value that counts. -/
theorem member?_collapse (members : Members Json) (name : String) :
    (Json.obj (Members.collapse members)).member? name = (Json.obj members).member? name := by
  have hnodup := Entries.nodup_keys_ofPairs members
  exact (Entries.find?_reverse name hnodup).trans (Entries.find?_ofPairs name members)

section Cells

variable {row : Row} {before after : List (Column × Value)} {c : Column} {v : Value}

theorem get?_of_key_eq (row : Row) {c d : Column} (h : d.key = c.key) :
    row.get? d.text = row.get? c.text := by
  have hlower : Text.lower d.text = Text.lower c.text := h
  rw [Row.get?, Row.get?, hlower]

/-- A cell is found by its name if no cell in front of it has the name. -/
theorem get?_of_first (hrow : row.cells = before ++ (c, v) :: after)
    (h : ∀ cell ∈ before, cell.1.key ≠ c.key) : row.get? c.text = some v := by
  have hbefore : before.find? (fun cell => cell.1.key == c.key) = none :=
    List.find?_eq_none.2 fun cell hcell => by simpa using h cell hcell
  have hfind : row.cells.find? (fun cell => cell.1.key == c.key) = some (c, v) := by
    rw [hrow, List.find?_append, hbefore, Option.none_or]
    exact List.find?_cons_of_pos (by simp)
  exact congrArg (Option.map (·.2)) hfind

/-- A cell is shown under its name if no cell behind it is spelled the same. -/
theorem member?_of_last {room : Nat} {j : Json} (hj : row.toJson room = .ok j)
    (hrow : row.cells = before ++ (c, v) :: after) (h : ∀ cell ∈ after, cell.1.text ≠ c.text) :
    ∃ w, v.toJson room = .ok w ∧ j.member? c.text = some w := by
  obtain ⟨hcells, rfl⟩ := Row.toJson_eq_ok_iff.1 hj
  have hv : v.toJson room = .ok v.form := by
    refine hcells (c, v) ?_
    rw [hrow]
    exact List.mem_append_right _ List.mem_cons_self
  refine ⟨v.form, hv, ?_⟩
  rw [member?_collapse, Json.member?, ← List.map_reverse, List.find?_map, hrow,
    List.reverse_append, List.reverse_cons, List.append_assoc, List.find?_append]
  have hafter : after.reverse.find?
      ((fun p : String × Json => p.1 == c.text) ∘ fun cell => (cell.1.text, cell.2.form)) = none :=
    List.find?_eq_none.2 fun cell hcell => by simpa using h cell (List.mem_reverse.1 hcell)
  rw [hafter, Option.none_or]
  simp

end Cells

/-! ### Listed names -/

namespace Json

/-- The text of the member that names an entry. -/
def nameText? (j : Json) : Option String :=
  match j.member? "name" with
  | some (.str name) => some name
  | _ => none

/-- The names of the entries of an array. -/
def entryNames : Json → List String
  | .arr items => items.filterMap nameText?
  | _ => []

/-- The names in the two lists of columns of a rendered selection. -/
def listedNames (j : Json) : List String :=
  (((j.member? "common_columns").map entryNames).getD []) ++
    ((j.member? "dynamic_columns").map entryNames).getD []

end Json

theorem entryNames_columns (cs : List Column) :
    (Json.arr (cs.map Column.toJson)).entryNames = cs.map Column.text := by
  rw [Json.entryNames, List.filterMap_map, ← List.filterMap_eq_map]
  rfl

/-- A selection is shown iff its rows are, and then beside the names of its columns. -/
theorem Selection.members_eq_ok_iff {room : Nat} {ms : Members Json} :
    s.members room = .ok ms ↔ ∃ rows, s.rows.mapM (Row.toJson room) = .ok rows ∧
      ms = [("common_columns", .arr (s.common.map Column.toJson)),
        ("dynamic_columns", .arr (s.dynamic.map Column.toJson)), ("rows", .arr rows),
        ("partition_key", Column.optionJson (s.partitionKey?.map Column.text)),
        ("partition_key_columns", .arr (s.partitionColumns.map fun c => .str c.text))] := by
  rw [Selection.members, bind_eq_ok_iff]
  simp only [pure, Except.pure, Except.ok.injEq, eq_comm]

theorem listedNames_members {room : Nat} {ms : Members Json} (h : s.members room = .ok ms) :
    (Json.obj ms).listedNames = s.columns.map Column.text := by
  obtain ⟨rows, -, rfl⟩ := Selection.members_eq_ok_iff.1 h
  rw [Json.listedNames, Selection.columns, List.map_append, ← entryNames_columns s.common,
    ← entryNames_columns s.dynamic]
  rfl

/-! ### What can be written -/

/-- Every value that is shown can be converted, and its form be written. -/
def Selection.Writable (room : Nat) (s : Selection) : Prop :=
  ∀ row ∈ s.rows, ∀ cell ∈ row.cells, ∃ j, cell.2.toJson room = .ok j ∧ j.holdsOverlong = false

section Writable

variable {room : Nat} {row : Row}

theorem holdsOverlong_arr_eq_false (items : List Json) :
    (Json.arr items).holdsOverlong = false ↔ ∀ j ∈ items, j.holdsOverlong = false := by
  rw [Json.holdsOverlong]
  induction items with
  | nil => simp [Json.itemsHoldOverlong]
  | cons j items ih => rw [Json.itemsHoldOverlong, Bool.or_eq_false_iff, ih, List.forall_mem_cons]

theorem holdsOverlong_obj_eq_false (members : Members Json) :
    (Json.obj members).holdsOverlong = false ↔ ∀ m ∈ members, m.2.holdsOverlong = false := by
  rw [Json.holdsOverlong]
  induction members with
  | nil => simp [Json.membersHoldOverlong]
  | cons m members ih =>
    rw [Json.membersHoldOverlong, Bool.or_eq_false_iff, ih, List.forall_mem_cons]

/-- A united member has the value of one of the members that were united. -/
theorem exists_of_mem_collapse {members : Members Json} {m : String × Json}
    (h : m ∈ Members.collapse members) : ∃ m' ∈ members, m'.2 = m.2 := by
  have hfind := Entries.find?_of_mem (Entries.nodup_keys_ofPairs members) h
  rw [Entries.find?_ofPairs, Entries.find?, Option.map_eq_some_iff] at hfind
  obtain ⟨m', hm', hvalue⟩ := hfind
  exact ⟨m', List.mem_reverse.1 (List.mem_of_find?_eq_some hm'), hvalue⟩

theorem writable_row
    (h : ∀ cell ∈ row.cells, ∃ j, cell.2.toJson room = .ok j ∧ j.holdsOverlong = false) :
    ∃ j, row.toJson room = .ok j ∧ j.holdsOverlong = false := by
  have hform : ∀ cell ∈ row.cells,
      cell.2.toJson room = .ok cell.2.form ∧ cell.2.form.holdsOverlong = false := by
    intro cell hcell
    obtain ⟨j, hj, hwritten⟩ := h cell hcell
    obtain rfl := Value.eq_form_of_toJson hj
    exact ⟨hj, hwritten⟩
  refine ⟨_, Row.toJson_eq_ok_iff.2 ⟨fun cell hcell => (hform cell hcell).1, rfl⟩, ?_⟩
  rw [holdsOverlong_obj_eq_false]
  intro m hm
  obtain ⟨m', hm', hvalue⟩ := exists_of_mem_collapse hm
  obtain ⟨cell, hcell, rfl⟩ := List.mem_map.1 hm'
  exact hvalue ▸ (hform cell hcell).2

/-- A selection of writable values is shown, and can be written. -/
theorem exists_members_of_writable (h : s.Writable room) :
    ∃ ms, s.members room = .ok ms ∧ ∀ m ∈ ms, m.2.holdsOverlong = false := by
  obtain ⟨rows, hrows, hwritten⟩ := exists_mapM_eq_ok fun row hrow => writable_row (h row hrow)
  have hname : ∀ name?, (Column.optionJson name?).holdsOverlong = false := by
    rintro (_ | name) <;> rfl
  have hcolumns : ∀ cs : List Column,
      (Json.arr (cs.map Column.toJson)).holdsOverlong = false := by
    intro cs
    rw [holdsOverlong_arr_eq_false, List.forall_mem_map]
    intro c _
    rw [Column.toJson, holdsOverlong_obj_eq_false]
    simp [Json.holdsOverlong, hname]
  refine ⟨_, Selection.members_eq_ok_iff.2 ⟨rows, hrows, rfl⟩, ?_⟩
  have hkeys : (Json.arr (s.partitionColumns.map fun c => .str c.text)).holdsOverlong = false := by
    rw [holdsOverlong_arr_eq_false, List.forall_mem_map]
    exact fun c _ => rfl
  simp [hcolumns, hname, hkeys, (holdsOverlong_arr_eq_false rows).2 hwritten]

end Writable

/-! ### Every selection that is made of rows -/

/-- **A cell is shown by its name, but for repeated names.**  Exactly one of the listed names is the
name of a cell, up to case, and it is spelled as the first cell of the name.  A cell is looked up by
its own name and by the listed one if it is the first cell of the row with the name, up to case; it
is a member of the row as an object if it is the last cell of the row that is spelled so.  The names
are listed if the selection can be shown, and the row is an object if all its values have a form. -/
theorem rendering_of_materialize (types : TypeMap) (limits : Limits) (rows : List (List Cell))
    (failure? : Option Failure) (room : Nat) (s : Selection)
    (h : (materialize types limits rows failure?).result = .ok s) :
    ∀ row ∈ s.rows, ∀ before c v after, row.cells = before ++ (c, v) :: after →
      ∃ d, s.cellColumns.find? (·.key == c.key) = some d ∧
        (∀ ms, s.members room = .ok ms →
          (Json.obj ms).listedNames.filter (Text.lower · == c.key) = [d.text] ∧
          (c.text ∈ (Json.obj ms).listedNames ↔ c.text = d.text)) ∧
        ((∀ cell ∈ before, cell.1.key ≠ c.key) →
          row.get? c.text = some v ∧ row.get? d.text = some v) ∧
        ∀ j, row.toJson room = .ok j → (∀ cell ∈ after, cell.1.text ≠ c.text) →
          ∃ w, v.toJson room = .ok w ∧ j.member? c.text = some w := by
  intro row hrow before c v after hcells
  have hc : c ∈ s.cellColumns := by
    refine List.mem_flatMap.2 ⟨row, hrow, List.mem_map.2 ⟨(c, v), ?_, rfl⟩⟩
    rw [hcells]
    exact List.mem_append_right _ List.mem_cons_self
  have hsome : (s.cellColumns.find? (·.key == c.key)).isSome :=
    List.find?_isSome.2 ⟨c, hc, beq_self_eq_true _⟩
  obtain ⟨d, hd⟩ := Option.isSome_iff_exists.1 hsome
  have hkey : d.key = c.key := by simpa using List.find?_some hd
  refine ⟨d, hd, fun ms hms => ?_, fun hfirst => ?_, fun j hj => member?_of_last hj hcells⟩
  · have hlisted : (Json.obj ms).listedNames.filter (Text.lower · == c.key) = [d.text] := by
      have hcolumns := (tallied_of_materialize h).filter_columns c.key
      rw [hd] at hcolumns
      rw [listedNames_members hms, List.filter_map]
      exact congrArg (List.map Column.text) hcolumns
    -- the name is listed iff it is the one that is left of the names equal to it up to case
    have hfilter : c.text ∈ (Json.obj ms).listedNames ↔
        c.text ∈ (Json.obj ms).listedNames.filter (Text.lower · == c.key) := by
      rw [List.mem_filter]
      exact (and_iff_left (beq_self_eq_true c.key)).symm
    rw [hfilter, hlisted, List.mem_singleton]
    exact ⟨rfl, Iff.rfl⟩
  · have hget := get?_of_first hcells hfirst
    exact ⟨hget, (get?_of_key_eq row hkey).trans hget⟩

/-- A row with a name in two spellings, and one with a name of the first row twice, respelled. -/
def respelledRows : List (List Cell) :=
  [[⟨"a", none, .int 1⟩, ⟨"A", none, .int 2⟩, ⟨"b", none, .int 3⟩],
    [⟨"B", none, .int 4⟩, ⟨"B", none, .int 5⟩]]

theorem rendering_of_respelledRows :
    ∃ s, (materialize .empty smallLimits respelledRows none).result = .ok s ∧
      (s.members 0).toOption.isSome ∧ (∀ row ∈ s.rows, (row.toJson 0).toOption.isSome) ∧
      ∀ row ∈ s.rows, ∀ before c v after, row.cells = before ++ (c, v) :: after →
        ∃ d, s.cellColumns.find? (·.key == c.key) = some d ∧
          (∀ ms, s.members 0 = .ok ms →
            (Json.obj ms).listedNames.filter (Text.lower · == c.key) = [d.text] ∧
            (c.text ∈ (Json.obj ms).listedNames ↔ c.text = d.text)) ∧
          ((∀ cell ∈ before, cell.1.key ≠ c.key) →
            row.get? c.text = some v ∧ row.get? d.text = some v) ∧
          ∀ j, row.toJson 0 = .ok j → (∀ cell ∈ after, cell.1.text ≠ c.text) →
            ∃ w, v.toJson 0 = .ok w ∧ j.member? c.text = some w :=
  ⟨_, rfl, rfl, by decide, rendering_of_materialize .empty smallLimits respelledRows none 0 _ rfl⟩

/-- Among the cells of `respelledRows`, which can be shown, one is not found under its name, one is
not shown under its name, and the name of one is not listed. -/
theorem repeated_name_hides_values :
    ∃ s ms, (materialize .empty smallLimits respelledRows none).result = .ok s ∧
      s.members 0 = .ok ms ∧
      (∃ row ∈ s.rows, ∃ cell ∈ row.cells, row.get? cell.1.text ≠ some cell.2) ∧
      (∃ row ∈ s.rows, ∃ cell ∈ row.cells, ∃ j w, row.toJson 0 = .ok j ∧
        cell.2.toJson 0 = .ok w ∧ j.member? cell.1.text ≠ some w) ∧
      ∃ row ∈ s.rows, ∃ cell ∈ row.cells, cell.1.text ∉ (Json.obj ms).listedNames := by
  refine ⟨_, _, rfl, rfl, ⟨_, .head _, _, .tail _ (.head _), ?_⟩,
    ⟨_, .tail _ (.head _), _, .head _, _, _, rfl, rfl, ?_⟩, ?_⟩
  · -- the second cell of the first row is behind another one of its name
    intro (h : some (Value.int 1) = some (Value.int 2))
    cases h
  · -- the first cell of the second row is in front of another one that is spelled the same
    intro (h : some (Json.int 5) = some (Json.int 4))
    cases h
  · decide

end CqlGateway
