import CqlGateway.Session.Outcome
import CqlGateway.Text.Blank
import CqlGateway.Value.Conversion

/-!
# Lists of column names

The older metadata tables list the key columns of a table as a JSON array of their names.
`readAliases` reads such a list from a cell.  Whatever is no readable list counts as an empty one,
with a report of the reason; members of the list that are no names are passed over.  A list that is
nested deeper than the stack has room for is no such case: reading it fails.
-/

namespace CqlGateway

/-- The names in a list: the texts in it that are not blank, without the blanks around them. -/
def namesOfItems (items : List Json) : List String :=
  items.filterMap fun
    | .str s => if Text.isBlankText s then none else some (Text.strip s)
    | _ => none

/-- The JSON that a cell holds. -/
def readCellJson (room : Nat) (v : Value) : Except Failure (Except Json.ReadError Json) :=
  match v with
  | .text s => .ok (Json.readText room s)
  | .bytes b | .buffer b => .ok (Json.readBytes room b)
  | _ => .error (.notJson v.typeName)

/-- The names that a cell lists. -/
def readAliases (room : Nat) (v : Value) : Outcome (List String) :=
  if !v.isTruthy then pure []
  else match v.spell room with
    | .error e => .fail e
    | .ok text =>
      if Text.isBlankText text then pure []
      else match readCellJson room v with
        | .error e => .fail e
        | .ok (.ok (.arr items)) => pure (namesOfItems items)
        | .ok (.ok _) => do
          .report (.aliasesNoList text)
          pure []
        | .ok (.error (.tooDeep container)) => .fail (.nestedTooDeep container)
        | .ok (.error _) => do
          .report (.aliasesUnreadable text)
          pure []

end CqlGateway
