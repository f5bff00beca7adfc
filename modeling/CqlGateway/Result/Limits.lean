import CqlGateway.Settings
import CqlGateway.Value.Conversion

/-!
# Limits

Bounds on what is read of a result: rows, columns of a row, and entries of a metadata listing.  All
three are positive.
-/

namespace CqlGateway

/-- The bounds on what is read of a result. -/
structure Limits where
  rows : Nat
  columns : Nat
  result : Nat
  rows_pos : 0 < rows
  columns_pos : 0 < columns
  result_pos : 0 < result

namespace Limits

/-- A bound with the proof that it is positive.  Any other value is refused with its text, if it has
one. -/
def positive (room : Nat) (limit : LimitName) (v : Value) : Except Failure { n : Nat // 0 < n } :=
  match v with
  | .int (.ofNat (n + 1)) => .ok ⟨n + 1, n.succ_pos⟩
  | _ => do
    v.checkText room
    .error (.notPositive limit v)

/-- The limits of three values, of which the first one that is no positive integer is refused. -/
def ofValues (room : Nat) (rows columns result : Value) : Except Failure Limits := do
  let rows ← positive room .rows rows
  let columns ← positive room .columns columns
  let result ← positive room .result result
  pure ⟨rows, columns, result, rows.2, columns.2, result.2⟩

/-- The limits of the settings; the text of an integer takes no nested calls. -/
def ofSettings (s : Settings) : Except Failure Limits :=
  ofValues 0 (.int s.rowsLimit) (.int s.columnsLimit) (.int s.resultLimit)

/-- The limits of named values; those that are not named are taken from the settings. -/
def ofFields (room : Nat) (s : Settings) (fields : List (String × Value)) :
    Except Failure Limits :=
  let names := [LimitName.rows, .columns, .result]
  match fields.find? fun f => !names.any fun n => n.label == f.1 with
  | some (name, _) => .error (.unknownLimit name)
  | none =>
    let field (n : LimitName) (default : Int) : Value := (fields.lookup n.label).getD (.int default)
    ofValues room (field .rows s.rowsLimit) (field .columns s.columnsLimit)
      (field .result s.resultLimit)

end Limits

end CqlGateway
