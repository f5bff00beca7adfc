import CqlGateway.Session.Answer

/-!
# Reading row by row

Rows are read one at a time, and no sooner than they are asked for.  A *reader* is the step that
asks: it gives the next element, or the end, or a failure, and the state behind it.  `Cursor` is the
state of an open result, which knows how many rows were taken; `guarded` and `chained` make new
readers of a reader.
-/

namespace CqlGateway

/-- A step that reads the next element, nothing at the end. -/
abbrev Reader (ε σ α : Type) := σ → Except ε (Option α) × σ

/-- An open result: the rows ahead, the failure behind the last of them, and the number of rows that
were taken. -/
structure Cursor (ε : Type) where
  ahead : List (List Cell)
  failure? : Option ε := none
  pulled : Nat := 0

namespace Cursor

variable {ε : Type}

/-- Takes the next row.  A result that has failed is at its end. -/
def next : Reader ε (Cursor ε) (List Cell) := fun c =>
  match c.ahead, c.failure? with
  | row :: rest, _ => (.ok (some row), { c with ahead := rest, pulled := c.pulled + 1 })
  | [], some e => (.error e, { c with failure? := none })
  | [], none => (.ok none, c)

/-- The cursor in front of the first row. -/
def ofStream (s : RowStream) : Cursor Fault :=
  { ahead := s.rows, failure? := s.interruption? }

end Cursor

namespace Reader

variable {ε ε' σ α : Type}

/-- The same elements, a failure being turned into another one. -/
def guarded (wrap : ε → ε') (next : Reader ε σ α) : Reader ε' σ α := fun s =>
  let (read, s) := next s
  (read.mapError wrap, s)

/-- An element that was read before, and then those of a reader. -/
def chained (next : Reader ε σ α) : Reader ε (Option α × σ) α
  | (some a, s) => (.ok (some a), (none, s))
  | (none, s) =>
    let (read, s) := next s
    (read, (none, s))

end Reader

end CqlGateway
