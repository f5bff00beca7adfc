import CqlGateway.Number.Shortest
import CqlGateway.Text.Quoted
import CqlGateway.Value.Calendar

/-!
# Cell values

The values that a session delivers in the cells of a result.  A value has two texts: `display`,
which shows a string as it is, and `quotedText`, which shows it between quotes and is used inside
collections.  Both are total; the bounds on the digits of an integer and on the depth of a value are
those of `CqlGateway.Value.spell`.  `isTruthy` tells whether a value counts as given.

A sorted set is kept as the list of its elements in order; see `CqlGateway.Value.sortedSetOf`.
-/

namespace CqlGateway

/-- A value of a cell. -/
inductive Value where
  | null
  | bool (value : Bool)
  | int (value : Int)
  | float (value : Binary64)
  | text (value : String)
  /-- A byte string. -/
  | bytes (value : List UInt8)
  /-- A byte string that can be changed in place. -/
  | buffer (value : List UInt8)
  | list (items : List Value)
  | tuple (items : List Value)
  | set (items : List Value)
  | frozenSet (items : List Value)
  | sortedSet (items : List Value)
  /-- A map, its entries in the order in which their keys came. -/
  | map (entries : List (Value × Value))
  /-- A map that is ordered by its column type. -/
  | orderedMap (entries : List (Value × Value))
  | dateTime (value : DateTime)
  | date (value : Date)
  | time (value : TimeOfDay)
  | duration (value : Duration)
  | uuid (value : String)
  | decimal (value : String)
  /-- A value of an unknown type, known by its text only. -/
  | other (value : String)
  deriving Inhabited, Repr

namespace Value

/-! ### Types -/

/-- The name of the type of a value. -/
def typeName : Value → String
  | .null => "NoneType"
  | .bool _ => "bool"
  | .int _ => "int"
  | .float _ => "float"
  | .text _ => "str"
  | .bytes _ => "bytes"
  | .buffer _ => "bytearray"
  | .list _ => "list"
  | .tuple _ => "tuple"
  | .set _ => "set"
  | .frozenSet _ => "frozenset"
  | .sortedSet _ => "SortedSet"
  | .map _ => "dict"
  | .orderedMap _ => "OrderedMap"
  | .dateTime _ => "datetime"
  | .date _ => "date"
  | .time _ => "time"
  | .duration _ => "timedelta"
  | .uuid _ => "UUID"
  | .decimal _ => "Decimal"
  | .other _ => "object"

/-- The name of the type of a value with the place where the type is defined. -/
def qualifiedTypeName (v : Value) : String :=
  match v with
  | .dateTime _ | .date _ | .time _ | .duration _ => "datetime." ++ v.typeName
  | .decimal _ => "decimal." ++ v.typeName
  | _ => v.typeName

/-- The text that a value is, none for a value of another type. -/
def text? : Value → Option String
  | .text s => some s
  | _ => none

/-- The value is null. -/
def isNull : Value → Bool
  | .null => true
  | _ => false

/-- The text of a decimal number denotes zero. -/
def isZeroDecimal (s : String) : Bool :=
  let digits := s.toList.takeWhile (fun c => c != 'E' && c != 'e') |>.filter Char.isDigit
  !digits.isEmpty && digits.all (· == '0')

/-- Whether a value counts as given: null, false, zero and what is empty do not. -/
def isTruthy : Value → Bool
  | .null => false
  | .bool b => b
  | .int i => i != 0
  | .float x => !x.isZero
  | .text s => !s.isEmpty
  | .bytes b | .buffer b => !b.isEmpty
  | .list xs | .tuple xs | .set xs | .frozenSet xs | .sortedSet xs => !xs.isEmpty
  | .map es | .orderedMap es => !es.isEmpty
  | .duration d => d.micros != 0
  | .decimal s => !isZeroDecimal s
  | .dateTime _ | .date _ | .time _ | .uuid _ | .other _ => true

/-! ### Texts -/

/-- The text of a truth value. -/
def boolText (b : Bool) : String :=
  if b then "True" else "False"

mutual

/-- The text of a value inside a collection or a message. -/
def quotedText : Value → String
  | .null => "None"
  | .bool b => boolText b
  | .int i => toString i
  | .float x => x.text
  | .text s => Text.quoted s
  | .bytes b => Text.quotedBytes b
  | .buffer b => "bytearray(" ++ Text.quotedBuffer b ++ ")"
  | .list xs => "[" ++ ", ".intercalate (quotedTexts xs) ++ "]"
  | .tuple xs =>
    match quotedTexts xs with
    | [x] => "(" ++ x ++ ",)"
    | texts => "(" ++ ", ".intercalate texts ++ ")"
  | .set xs =>
    match quotedTexts xs with
    | [] => "set()"
    | texts => "\x7b" ++ ", ".intercalate texts ++ "\x7d"
  | .frozenSet xs =>
    match quotedTexts xs with
    | [] => "frozenset()"
    | texts => "frozenset(\x7b" ++ ", ".intercalate texts ++ "\x7d)"
  | .sortedSet xs => "SortedSet([" ++ ", ".intercalate (quotedTexts xs) ++ "])"
  | .map es => "\x7b" ++ ", ".intercalate (quotedEntries "" ": " "" es) ++ "\x7d"
  | .orderedMap es =>
    "OrderedMap([" ++ ", ".intercalate (quotedEntries "(" ", " ")" es) ++ "])"
  | .dateTime m => m.quotedText
  | .date d => d.quotedText
  | .time t => t.quotedText
  | .duration d => d.quotedText
  | .uuid s => "UUID(" ++ Text.quoted s ++ ")"
  | .decimal s => "Decimal(" ++ Text.quoted s ++ ")"
  | .other s => s

/-- The texts of the elements of a collection. -/
def quotedTexts : List Value → List String
  | [] => []
  | v :: rest => quotedText v :: quotedTexts rest

/-- The texts of the entries of a map, each key and value between the three marks. -/
def quotedEntries (before between after : String) : List (Value × Value) → List String
  | [] => []
  | (k, v) :: rest =>
    (before ++ quotedText k ++ between ++ quotedText v ++ after) ::
      quotedEntries before between after rest

end

/-- The text of a value. -/
def display (v : Value) : String :=
  match v with
  | .text s => s
  | .orderedMap es => "\x7b" ++ ", ".intercalate (quotedEntries "" ": " "" es) ++ "\x7d"
  | .dateTime m => m.textWith " "
  | .date d => d.isoText
  | .time t => t.isoText
  | .duration d => d.text
  | .uuid s | .decimal s => s
  | _ => v.quotedText

end Value

end CqlGateway
