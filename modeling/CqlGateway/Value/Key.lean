import CqlGateway.Failure

/-!
# Values as keys

A key must not change, so values that can be changed in place are no keys: `requireKey` fails for
them.  The keys of an ordered map are told apart by their content, down to the types of the numbers
in it (`identical`); any value can be one.

`elements?` are the values that a value yields when it is read one element after the other, and
`depth` is the number of collections that lie inside each other.
-/

namespace CqlGateway.Value

/-! ### Elements -/

/-- The elements of a value: the characters of a text, the numbers of a byte string, the keys of a
map; none for a value that has no elements. -/
def elements? : Value → Option (List Value)
  | .text s => some (s.toList.map fun c => .text (String.singleton c))
  | .bytes b | .buffer b => some (b.map fun byte => .int byte.toNat)
  | .list xs | .tuple xs | .set xs | .frozenSet xs | .sortedSet xs => some xs
  | .map es | .orderedMap es => some (es.map Prod.fst)
  | _ => none

mutual

/-- The number of collections that lie inside each other. -/
def depth : Value → Nat
  | .list xs | .tuple xs | .set xs | .frozenSet xs | .sortedSet xs => depthAll xs + 1
  | .map es | .orderedMap es => depthEntries es + 1
  | _ => 0

/-- The greatest depth in a list. -/
def depthAll : List Value → Nat
  | [] => 0
  | v :: rest => max (depth v) (depthAll rest)

/-- The greatest depth of the keys and values of a map. -/
def depthEntries : List (Value × Value) → Nat
  | [] => 0
  | (k, v) :: rest => max (max (depth k) (depth v)) (depthEntries rest)

end

/-! ### Keys of maps -/

mutual

/-- The name of the type for which a value is no key: that of the value itself or of an element of a
tuple, if it can be changed in place. -/
def changeableType? : Value → Option String
  | .list _ => some "list"
  | .set _ => some "set"
  | .sortedSet _ => some "SortedSet"
  | .map _ => some "dict"
  | .orderedMap _ => some "OrderedMap"
  | .buffer _ => some "bytearray"
  | .tuple xs => firstChangeableType? xs
  | _ => none

/-- The first such name in a list. -/
def firstChangeableType? : List Value → Option String
  | [] => none
  | v :: rest =>
    match changeableType? v with
    | some name => some name
    | none => firstChangeableType? rest

end

/-- The value can be a key. -/
def isKey (v : Value) : Bool :=
  v.changeableType?.isNone

/-- Fails for a value that is no key. -/
def requireKey (v : Value) : Except Failure Unit :=
  match v.changeableType? with
  | none => .ok ()
  | some name => .error (.notHashable name)

/-! ### Keys of ordered maps -/

mutual

/-- The two values are of the same types with the same content; the entries of maps have to stand in
the same order. -/
def identical : Value → Value → Bool
  | .null, .null => true
  | .bool a, .bool b => a == b
  | .int a, .int b => a == b
  | .float a, .float b => a == b
  | .bytes a, .bytes b | .buffer a, .buffer b => a == b
  | .list a, .list b | .tuple a, .tuple b | .set a, .set b | .frozenSet a, .frozenSet b
  | .sortedSet a, .sortedSet b => identicalAll a b
  | .map a, .map b | .orderedMap a, .orderedMap b => identicalEntries a b
  | .dateTime a, .dateTime b => a == b
  | .date a, .date b => a == b
  | .time a, .time b => a == b
  | .duration a, .duration b => a == b
  | .text a, .text b | .uuid a, .uuid b | .decimal a, .decimal b | .other a, .other b => a == b
  | _, _ => false

/-- The two lists have identical values at the same places. -/
def identicalAll : List Value → List Value → Bool
  | [], [] => true
  | a :: as, b :: bs => identical a b && identicalAll as bs
  | _, _ => false

/-- The two lists have identical entries at the same places. -/
def identicalEntries : List (Value × Value) → List (Value × Value) → Bool
  | [], [] => true
  | (k, v) :: as, (l, w) :: bs => identical k l && identical v w && identicalEntries as bs
  | _, _ => false

end

end CqlGateway.Value
