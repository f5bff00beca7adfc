import CqlGateway.Failure
import CqlGateway.Json.Tree
import CqlGateway.Value.Basic

/-!
# Conversions of values

`Value.toJson` is the form in which a cell value is handed to a client.  Plain values stay as they
are, byte strings are written in hexadecimal, lists, tuples and sets become arrays and maps become
objects whose names are the texts of the keys.  Dates and times are written in ISO form.  Everything
else, a sorted set included, is replaced by its text.

A conversion may fail.  `Value.spell` gives the text of a value, which is `Value.display`, only if
no integer in it is too long to be written and if the stack has room for the nested calls that the
collections in it take; `Value.toJson` calls for each collection, and needs the texts of keys and of
sorted sets.  Both take the room as a parameter: the calls that may be nested where they are used.
Only the calls of collections are counted; what a plain value takes is small and fits in any room.
-/

namespace CqlGateway

/-- The room that is left behind so many nested calls. -/
def roomBehind (calls room : Nat) : Except Failure Nat :=
  if room < calls then .error .stackExhausted else .ok (room - calls)

namespace Value

/-! ### Texts -/

/-- The nested calls that a collection takes before its text comes to the elements.  A set is
written as a list, and the two ordered collections take more calls than the plain ones. -/
def textCalls : Value → Nat
  | .list _ | .tuple _ | .map _ => 1
  | .set _ | .frozenSet _ => 2
  | .sortedSet _ => 3
  | .orderedMap _ => 4
  | _ => 0

mutual

/-- Looks for what has no text, in the order in which the text of a value is made. -/
def checkText (room : Nat) (v : Value) : Except Failure Unit :=
  match v with
  | .int i => if Text.isOverlong i then .error .integerUnwritable else .ok ()
  | .list xs | .tuple xs | .set xs | .frozenSet xs | .sortedSet xs => do
    checkTexts (← roomBehind v.textCalls room) xs
  | .map es | .orderedMap es => do
    checkEntries (← roomBehind v.textCalls room) es
  | _ => .ok ()

/-- Looks for what has no text among the elements of a collection. -/
def checkTexts (room : Nat) : List Value → Except Failure Unit
  | [] => .ok ()
  | v :: rest => do
    checkText room v
    checkTexts room rest

/-- Looks for what has no text among the keys and the values of a map. -/
def checkEntries (room : Nat) : List (Value × Value) → Except Failure Unit
  | [] => .ok ()
  | (k, v) :: rest => do
    checkText room k
    checkText room v
    checkEntries room rest

end

/-- The text of a value, if it has one. -/
def spell (room : Nat) (v : Value) : Except Failure String := do
  v.checkText room
  pure v.display

/-! ### JSON forms -/

/-- The nested calls that a collection takes before its elements are converted. -/
def formCalls : Value → Nat
  | .list _ | .tuple _ | .set _ | .frozenSet _ | .map _ | .orderedMap _ => 2
  | _ => 0

mutual

/-- The JSON form of a value, if it has one. -/
def toJson (room : Nat) (v : Value) : Except Failure Json :=
  match v with
  | .null => .ok .null
  | .bool b => .ok (.bool b)
  | .int i => .ok (.int i)
  | .float x => .ok (.float x)
  | .text s => .ok (.str s)
  | .bytes b | .buffer b => .ok (.str ("0x" ++ Text.hexOfBytes b))
  | .list xs | .tuple xs | .set xs | .frozenSet xs => do
    let items ← toJsonItems (← roomBehind v.formCalls room) xs
    pure (.arr items)
  | .map es | .orderedMap es => do
    let members ← toJsonMembers (← roomBehind v.formCalls room) es
    pure (.obj (Members.collapse members))
  | .dateTime m => .ok (.str m.isoText)
  | .date d => .ok (.str d.isoText)
  | .time t => .ok (.str t.isoText)
  | .sortedSet xs => (spell room (.sortedSet xs)).map .str
  | .duration d => .ok (.str d.text)
  | .uuid s | .decimal s | .other s => .ok (.str s)

/-- The JSON forms of the elements of a collection. -/
def toJsonItems (room : Nat) : List Value → Except Failure (List Json)
  | [] => .ok []
  | v :: rest => do
    let item ← toJson room v
    let items ← toJsonItems room rest
    pure (item :: items)

/-- The texts of the keys of a map with the JSON forms of its values. -/
def toJsonMembers (room : Nat) : List (Value × Value) → Except Failure (Members Json)
  | [] => .ok []
  | (k, v) :: rest => do
    let name ← spell room k
    let value ← toJson room v
    let members ← toJsonMembers room rest
    pure ((name, value) :: members)

end

end Value

end CqlGateway
