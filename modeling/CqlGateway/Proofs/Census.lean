import CqlGateway.Collection.Distinct
import CqlGateway.Result.Gathering

/-!
# What a gathering holds

A gathering counts columns cell by cell.  Here its entries are described at once: `census` lists the
first occurrences of the columns, each with the number of its occurrences, and `Gathering.Holds` is
the invariant of a pass, that the gathering is what the census of the rows so far says.  Each row
keeps it (`Gathering.Holds.addRow`), hence so does a pass (`Gathering.Holds.addRows`).
-/

namespace CqlGateway

/-- The first occurrences of the columns, each with the number of its occurrences. -/
def census (cs : List Column) : List (Column × Nat) :=
  (firstsBy Column.key cs).map fun c => (c, cs.countP c.same)

/-- The columns of the partition key, each as it occurred first. -/
def partitionFirsts (cs : List Column) : List Column :=
  firstsBy Column.key (cs.filter fun c => c.type == .partitionKey)

theorem Column.same_iff {a b : Column} : a.same b = true ↔ a.key = b.key := by
  simp [Column.same, Identifier.same, Column.key]

theorem Column.same_eq_false_iff {a b : Column} : a.same b = false ↔ a.key ≠ b.key := by
  rw [← Bool.not_eq_true, Column.same_iff]

namespace Gathering

/-- The columns that were counted are those of a list. -/
structure Counted (g : Gathering) (cs : List Column) : Prop where
  counts : g.counts = census cs
  partitionColumns : g.partitionColumns = partitionFirsts cs

/-- The rows that were read are those of a list. -/
structure Holds (g : Gathering) (rs : List Row) : Prop where
  rows : g.rows = rs.filter fun r => !r.cells.isEmpty
  counted : g.Counted (rs.flatMap Row.columns)

variable {g : Gathering}

/-! ### Counting -/

theorem countP_same_concat (cs : List Column) (b c : Column) :
    (cs ++ [c]).countP b.same = cs.countP b.same + if b.same c then 1 else 0 := by
  rw [List.countP_append, List.countP_singleton]

/-- A known column is counted up, and no other entry changes. -/
theorem put_census_of_mem {cs : List Column} {c : Column} (hc : c.key ∈ cs.map Column.key) :
    Entries.put Column.same c ((Entries.find? Column.same c (census cs)).getD 0 + 1) (census cs) =
      census (cs ++ [c]) := by
  -- exactly one first occurrence has the key of `c`, and its number is that of `c`
  obtain ⟨b, hb, hbc⟩ := List.mem_map.1 (mem_map_firstsBy.2 hc)
  have hex : ∃ k ∈ firstsBy Column.key cs, k.same c = true := ⟨b, hb, Column.same_iff.2 hbc⟩
  have hone : (firstsBy Column.key cs).Pairwise
      fun a b => a.same c = true → b.same c = false := by
    refine (pairwise_firstsBy cs).imp fun hne ha => ?_
    rw [Column.same_eq_false_iff, ← Column.same_iff.1 ha]
    exact hne.symm
  have hval : ∀ k ∈ firstsBy Column.key cs, k.same c = true →
      cs.countP k.same = cs.countP c.same := by
    intro k _ hk
    refine List.countP_congr fun x _ => ?_
    rw [Column.same_iff, Column.same_iff, Column.same_iff.1 hk]
  simp only [census]
  rw [Entries.find?_map_of_present hex hval, Entries.put_map_of_present _ hex hone,
    firstsBy_concat, if_pos (List.contains_iff_mem.2 hc), List.append_nil]
  refine List.map_congr_left fun k hk => ?_
  rw [countP_same_concat]
  cases hs : k.same c with
  | true => simp [hval k hk hs]
  | false => simp

/-- A new column gets an entry behind all others. -/
theorem put_census_of_not_mem {cs : List Column} {c : Column} (hc : c.key ∉ cs.map Column.key) :
    Entries.put Column.same c ((Entries.find? Column.same c (census cs)).getD 0 + 1) (census cs) =
      census (cs ++ [c]) := by
  -- no first occurrence has the key of `c`, and no column was counted for it
  have habs : ∀ k ∈ firstsBy Column.key cs, k.same c = false := by
    intro k hk
    rw [Column.same_eq_false_iff]
    intro he
    exact hc (he ▸ mem_map_firstsBy.1 (List.mem_map_of_mem hk))
  have hzero : cs.countP c.same = 0 := by
    rw [List.countP_eq_zero]
    intro x hx hs
    exact hc ((Column.same_iff.1 hs) ▸ List.mem_map_of_mem hx)
  have hself : c.same c = true := Column.same_iff.2 rfl
  simp only [census]
  rw [Entries.find?_map_of_absent habs, Entries.put_map_of_absent _ habs, firstsBy_concat,
    if_neg (by simpa using hc), List.map_append]
  congr 1
  · refine List.map_congr_left fun k hk => ?_
    rw [countP_same_concat, habs k hk]
    simp
  · simp [hzero, hself]

theorem any_same_partitionFirsts (cs : List Column) (c : Column) :
    (partitionFirsts cs).any c.same =
      ((cs.filter fun c => c.type == .partitionKey).map Column.key).contains c.key := by
  rw [Bool.eq_iff_iff, List.contains_iff_mem, ← mem_map_firstsBy, List.any_eq_true, List.mem_map]
  refine exists_congr fun b => and_congr_right fun _ => ?_
  rw [Column.same_iff, eq_comm]

theorem partitionFirsts_concat (cs : List Column) (c : Column) :
    partitionFirsts (cs ++ [c]) =
      if c.type == .partitionKey && !(partitionFirsts cs).any c.same then
        partitionFirsts cs ++ [c]
      else partitionFirsts cs := by
  rw [any_same_partitionFirsts, partitionFirsts, List.filter_append]
  cases hp : c.type == ColumnType.partitionKey with
  | false => simp [hp, partitionFirsts]
  | true =>
    have hone : [c].filter (fun c => c.type == .partitionKey) = [c] := by simp [hp]
    rw [hone, firstsBy_concat]
    cases ((cs.filter fun c => c.type == .partitionKey).map Column.key).contains c.key <;>
      simp [partitionFirsts]

theorem Counted.addColumn {cs : List Column} (h : g.Counted cs) (c : Column) :
    (g.addColumn c).Counted (cs ++ [c]) := by
  refine ⟨?_, ?_⟩
  · simp only [Gathering.addColumn, h.counts]
    by_cases hc : c.key ∈ cs.map Column.key
    · exact put_census_of_mem hc
    · exact put_census_of_not_mem hc
  · simp only [Gathering.addColumn, h.partitionColumns]
    exact (partitionFirsts_concat cs c).symm

theorem Counted.addColumns {cs : List Column} (h : g.Counted cs) (ds : List Column) :
    (ds.foldl Gathering.addColumn g).Counted (cs ++ ds) := by
  induction ds generalizing g cs with
  | nil => simpa using h
  | cons d ds ih => simpa using ih (h.addColumn d)

theorem rows_addColumns (g : Gathering) (ds : List Column) :
    (ds.foldl addColumn g).rows = g.rows := by
  induction ds generalizing g with
  | nil => rfl
  | cons d ds ih => exact ih _

/-! ### Rows -/

theorem holds_nil : ({} : Gathering).Holds [] :=
  ⟨rfl, rfl, rfl⟩

/-- One more row keeps the invariant. -/
theorem Holds.addRow {rs : List Row} (h : g.Holds rs) (r : Row) :
    (g.addRow r).Holds (rs ++ [r]) := by
  cases hr : r.cells.isEmpty with
  | true =>
    -- a row that is not kept has no columns to count
    have hcols : r.columns = [] := by simpa [Row.columns] using hr
    refine ⟨?_, ?_⟩
    · simp [Gathering.addRow, hr, h.rows]
    · simpa [Gathering.addRow, hr, hcols] using h.counted
  | false =>
    refine ⟨?_, ?_⟩
    · simp [Gathering.addRow, hr, rows_addColumns, h.rows]
    · have hcounted : Counted { g with rows := g.rows ++ [r] } (rs.flatMap Row.columns) :=
        ⟨h.counted.counts, h.counted.partitionColumns⟩
      simpa [Gathering.addRow, hr] using hcounted.addColumns r.columns

/-- A pass keeps the invariant. -/
theorem Holds.addRows {rs : List Row} (h : g.Holds rs) (rs' : List Row) :
    (rs'.foldl Gathering.addRow g).Holds (rs ++ rs') := by
  induction rs' generalizing g rs with
  | nil => simpa using h
  | cons r rs' ih => simpa using ih (h.addRow r)

/-! ### Selections -/

theorem columnsWith_of_counted {cs : List Column} (h : g.Counted cs) (test : Nat → Bool) :
    g.columnsWith test = (firstsBy Column.key cs).filter fun c => test (cs.countP c.same) := by
  simp only [columnsWith, h.counts, census, List.filter_map, List.map_map]
  exact List.map_id _

theorem Holds.columns_eq_nil {rs : List Row} (h : g.Holds rs) (hg : g.rows = []) :
    rs.flatMap Row.columns = [] := by
  rw [List.flatMap_eq_nil_iff]
  intro r hr
  rw [h.rows, List.filter_eq_nil_iff] at hg
  simpa [Row.columns] using hg r hr

/-- **The selection of a pass**, described by the census of its rows. -/
theorem Holds.selection {rs : List Row} (h : g.Holds rs) :
    g.selection =
      { common := (firstsBy Column.key (rs.flatMap Row.columns)).filter
          fun c => 1 < (rs.flatMap Row.columns).countP c.same
        dynamic := (firstsBy Column.key (rs.flatMap Row.columns)).filter
          fun c => (rs.flatMap Row.columns).countP c.same == 1
        rows := rs.filter fun r => !r.cells.isEmpty
        partitionColumns := partitionFirsts (rs.flatMap Row.columns) } := by
  unfold Gathering.selection
  split
  · next hg =>
    have hg' : g.rows = [] := by simpa using hg
    have hrows : (rs.filter fun r => !r.cells.isEmpty) = [] := h.rows ▸ hg'
    rw [h.columns_eq_nil hg', hrows]
    rfl
  · rw [columnsWith_of_counted h.counted, columnsWith_of_counted h.counted, h.rows,
      h.counted.partitionColumns]

end Gathering

end CqlGateway
