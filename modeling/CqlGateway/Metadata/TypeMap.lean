import CqlGateway.Collection.Entries
import CqlGateway.Collection.MergeSort
import CqlGateway.Failure
import CqlGateway.Schema.ColumnType
import CqlGateway.Text.Case

/-!
# Type maps

The types of the columns of a table by name.  The keys are names in lower case as the metadata
tables hold them: texts, or byte strings where a cell holds one, which no column of a result ever
has as its name.
-/

namespace CqlGateway

/-- The key of a column in a type map. -/
inductive TypeKey where
  | text (name : String)
  | bytes (name : List UInt8)
  deriving DecidableEq, Repr

namespace TypeKey

/-- The value that a key is. -/
def toValue : TypeKey → Value
  | .text s => .text s
  | .bytes b => .bytes b

/-- Whether the first key comes before the second; texts and byte strings have no order. -/
def isBelow (a b : TypeKey) : Except Failure Bool :=
  match a, b with
  | .text s, .text t => .ok (s < t)
  | .bytes s, .bytes t => .ok (s < t)
  | _, _ => .error (.incomparable .lt a.toValue.typeName b.toValue.typeName)

/-- A byte string with the letters of ASCII in lower case. -/
def lowerBytes (bytes : List UInt8) : List UInt8 :=
  bytes.map fun b => if 0x41 ≤ b && b ≤ 0x5A then b + 0x20 else b

/-- The key of a name that a cell holds. -/
def ofName : Value → Except Failure TypeKey
  | .text s => .ok (.text (Text.lower s))
  | .bytes b => .ok (.bytes (lowerBytes b))
  | v => .error (.notHashable v.typeName)

end TypeKey

/-- Column types by name, in the order in which the names came first. -/
structure TypeMap where
  entries : List (TypeKey × ColumnType) := []
  deriving DecidableEq, Repr

namespace TypeMap

/-- The map without entries. -/
def empty : TypeMap := {}

/-- Gives a name a type. -/
def insert (key : TypeKey) (type : ColumnType) (m : TypeMap) : TypeMap :=
  ⟨Entries.put (· == ·) key type m.entries⟩

/-- The type of a name in lower case. -/
def find? (m : TypeMap) (name : String) : Option ColumnType :=
  Entries.find? (· == ·) (.text name) m.entries

/-- Gives all the names one type. -/
def insertNames (names : List String) (type : ColumnType) (m : TypeMap) : TypeMap :=
  names.foldl (fun m name => m.insert (.text (Text.lower name)) type) m

/-- The entries in the order of their keys. -/
def sorted (m : TypeMap) : Except Failure (List (TypeKey × ColumnType)) :=
  sortWith (fun a b => a.1.isBelow b.1) m.entries

theorem find?_insert_text (m : TypeMap) (name other : String) (type : ColumnType) :
    (m.insert (.text name) type).find? other =
      if name = other then some type else m.find? other := by
  rw [find?, insert, Entries.find?_put]
  simp [find?]

end TypeMap

end CqlGateway
