import CqlGateway.Metadata.TypeMap
import CqlGateway.Result.Gathering
import CqlGateway.Result.Limits
import CqlGateway.Session.Outcome
import CqlGateway.Session.Reader

/-!
# Materializing a stream of rows

`materializeFrom` asks a reader for rows, one after the other, and makes a selection of them.  It
stops behind the last row that the limits allow, so that neither the rows behind it nor a failure
at their end are met.  Of each row only as many cells as the limits allow are looked at; cells that
are null are passed over, and so are rows without any other cell.

`materialize` does the same for rows that are at hand.
-/

namespace CqlGateway

/-! ### Single rows -/

/-- The column of a cell, typed by the map; a column that the map does not have is reported and
counts as regular. -/
def typedColumn (types : TypeMap) (cell : Cell) : Outcome Column := do
  let known? := types.find? cell.key
  if known?.isNone then
    .report (.columnTypeMissing cell.name)
  let name ← .ofExcept (Identifier.ofValue .typedColumn (.text cell.name))
  pure { name, dataType? := cell.dataType?, type := known?.getD .regular }

/-- The cells that are not null, with their columns. -/
def collectCells (types : TypeMap) : List Cell → Outcome (List (Column × Value))
  | [] => pure []
  | cell :: rest =>
    if cell.value.isNull then collectCells types rest
    else do
      let column ← typedColumn types cell
      let more ← collectCells types rest
      pure ((column, cell.value) :: more)

/-- The row of the first cells. -/
def collectRow (types : TypeMap) (limit : Nat) (cells : List Cell) : Outcome Row := do
  let collected ← collectCells types (cells.take limit)
  if limit < cells.length then
    .report (.columnsLimitReached limit)
  pure ⟨collected⟩

/-! ### Passes over the rows -/

/-- What was read: a result or a failure, what is left of the rows, and the events on the way. -/
structure Reading (σ α : Type) where
  result : Except Failure α
  rest : σ
  events : List Event := []

namespace Reading

variable {ε σ α : Type}

/-- A reading with more events in front. -/
def behind (events : List Event) (r : Reading σ α) : Reading σ α :=
  { r with events := events ++ r.events }

/-- The number of rows that were taken. -/
def pulled (r : Reading (Cursor ε) α) : Nat :=
  r.rest.pulled

end Reading

variable {σ : Type}

/-- Gathers rows from a reader, but no more than a budget allows. -/
def gather (next : Reader Failure σ (List Cell)) (types : TypeMap) (limits : Limits) :
    (budget : Nat) → σ → Gathering → Reading σ Gathering
  | 0, s, g => { result := .ok g, rest := s, events := [.rowsLimitReached limits.rows] }
  | budget + 1, s, g =>
    match next s with
    | (.error e, s) => { result := .error e, rest := s }
    | (.ok none, s) => { result := .ok g, rest := s }
    | (.ok (some cells), s) =>
      let row := collectRow types limits.columns cells
      match row.result with
      | .error e => { result := .error e, rest := s, events := row.events }
      | .ok r => (gather next types limits budget s (g.addRow r)).behind row.events

/-- The report on a selection with several partition key columns. -/
def partitionEvents (s : Selection) : List Event :=
  if s.hasCompositeKey then [.severalPartitionKeys (s.partitionColumns.map Column.text)] else []

/-- Makes a selection of the rows of a reader. -/
def materializeFrom (next : Reader Failure σ (List Cell)) (types : TypeMap) (limits : Limits)
    (s : σ) : Reading σ Selection :=
  let read := gather next types limits limits.rows s {}
  match read.result with
  | .error e => { result := .error e, rest := read.rest, events := read.events }
  | .ok g =>
    { result := .ok g.selection
      rest := read.rest
      events := read.events ++ partitionEvents g.selection }

/-- Makes a selection of rows that end with a failure or without one. -/
def materialize (types : TypeMap) (limits : Limits) (rows : List (List Cell))
    (failure? : Option Failure) : Reading (Cursor Failure) Selection :=
  materializeFrom Cursor.next types limits { ahead := rows, failure? }

end CqlGateway
