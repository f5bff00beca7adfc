import CqlGateway.Collection.Entries
import CqlGateway.Number.Binary64

/-!
# JSON trees

The values of JSON.  Integers are exact and floating-point numbers keep their 64-bit value, the
non-finite ones included.  The members of an object are listed as they were written; `member?` gives
the last one of a name, and `Members.collapse` leaves one member of each name.
-/

namespace CqlGateway

/-- A JSON value. -/
inductive Json where
  | null
  | bool (value : Bool)
  | int (value : Int)
  | float (value : Binary64)
  | str (value : String)
  | arr (items : List Json)
  | obj (members : List (String × Json))
  deriving Inhabited

/-- Names with values, in order. -/
abbrev Members (α : Type) := List (String × α)

/-- Repeated names united: each stands where it came first and has its last value. -/
def Members.collapse {α : Type} (members : Members α) : Members α :=
  Entries.ofPairs (· == ·) members

namespace Json

/-- The value of the last member of a name in an object. -/
def member? (name : String) : Json → Option Json
  | .obj members => (members.reverse.find? (·.1 == name)).map (·.2)
  | _ => none

/-- Whether a value counts as given: null, false, zero and what is empty do not. -/
def isTruthy : Json → Bool
  | .null => false
  | .bool b => b
  | .int i => i != 0
  | .float x => !x.isZero
  | .str s => !s.isEmpty
  | .arr items => !items.isEmpty
  | .obj members => !members.isEmpty

end Json

end CqlGateway
