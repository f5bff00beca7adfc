import CqlGateway.Collection.Entries
import CqlGateway.Result.Selection

/-!
# Gathering rows

A gathering is what a pass over the rows of a result has kept so far: the rows that have cells, how
often each column has occurred in them, and the columns of the partition key.  Columns are told
apart by their keys, and stay as they occurred first.  `Gathering.selection` is the selection that
the pass ends with.
-/

namespace CqlGateway

/-- What was kept of the rows that were read. -/
structure Gathering where
  rows : List Row := []
  /-- The columns, each with the number of its cells, in the order of first occurrence. -/
  counts : List (Column × Nat) := []
  partitionColumns : List Column := []

namespace Gathering

/-- Counts a cell of a column. -/
def addColumn (g : Gathering) (c : Column) : Gathering where
  rows := g.rows
  counts :=
    let count := (Entries.find? Column.same c g.counts).getD 0
    Entries.put Column.same c (count + 1) g.counts
  partitionColumns :=
    if c.type == .partitionKey && !g.partitionColumns.any (Column.same c) then
      g.partitionColumns ++ [c]
    else g.partitionColumns

/-- Keeps a row, unless it has no cells. -/
def addRow (g : Gathering) (r : Row) : Gathering :=
  if r.cells.isEmpty then g
  else r.columns.foldl addColumn { g with rows := g.rows ++ [r] }

/-- The columns that occurred as often as a test asks for. -/
def columnsWith (g : Gathering) (test : Nat → Bool) : List Column :=
  (g.counts.filter fun e => test e.2).map (·.1)

/-- The selection of the rows that were kept. -/
def selection (g : Gathering) : Selection :=
  if g.rows.isEmpty then .empty
  else
    { common := g.columnsWith (1 < ·)
      dynamic := g.columnsWith (· == 1)
      rows := g.rows
      partitionColumns := g.partitionColumns }

end Gathering

end CqlGateway
