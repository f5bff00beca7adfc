import CqlGateway.Value.Key
import CqlGateway.Value.Magnitude

/-!
# Relations of values

Two values are the same, or one is below the other, by what their elements are to each other.  A
value of type `Relations` says what two elements are to each other; the functions of this module say
from that what two lists, sets or maps are to each other.  `Relations.scalars` are the relations of
values without elements.

An equality can fail, and an order can fail or be undefined: see `Clash`.
-/

namespace CqlGateway

/-- Why a comparison by order gives no answer. -/
inductive Clash where
  /-- Values of these types have no order. -/
  | unordered
  | failed (failure : Failure)
  deriving Repr

/-- An equality within a comparison by order. -/
instance : MonadLift (Except Failure) (Except Clash) where
  monadLift e := e.mapError .failed

/-- What two values are to each other. -/
structure Relations where
  /-- The two values are the same. -/
  same : Value → Value → Except Failure Bool
  /-- The first value is to the second as the comparison says. -/
  holds : Comparison → Value → Value → Except Clash Bool

namespace Relations

/-! ### Values without elements -/

/-- Numbers are the same if they are equal as numbers.  A date with a time and an offset is the same
as none without an offset. -/
def sameScalar : Value → Value → Bool
  | .null, .null => true
  | .text a, .text b => a == b
  | .bytes a, .bytes b | .bytes a, .buffer b | .buffer a, .bytes b | .buffer a, .buffer b => a == b
  | .dateTime a, .dateTime b => a.offset?.isSome == b.offset?.isSome && a.micros == b.micros
  | .date a, .date b => a == b
  | .time a, .time b => a == b
  | .duration a, .duration b => a.micros == b.micros
  | .uuid a, .uuid b => a == b
  | a, b =>
    match a.magnitude?, b.magnitude? with
    | some x, some y => x.same y
    | _, _ => false

/-- The order of two numbers.  An undefined number is in no relation to others; one that is a
decimal number makes the comparison fail. -/
def numberHolds (c : Comparison) (decimal : Bool) (x y : Value.Magnitude) : Except Clash Bool :=
  match x, y with
  | .undefined, _ | _, .undefined =>
    if decimal then .error (.failed .undefinedDecimal) else .ok false
  | _, _ => .ok (c.judge (x.isBelow y) (x.same y))

/-- The value is a decimal number. -/
def isDecimal : Value → Bool
  | .decimal _ => true
  | _ => false

/-- The order of values without elements: texts and byte strings by their characters and bytes,
points of time by time, numbers as numbers. -/
def scalarHolds (c : Comparison) : Value → Value → Except Clash Bool
  | .text a, .text b => .ok (c.judge (a < b) (a == b))
  | .bytes a, .bytes b | .bytes a, .buffer b | .buffer a, .bytes b | .buffer a, .buffer b =>
    .ok (c.judge (a < b) (a == b))
  | .dateTime a, .dateTime b =>
    if a.offset?.isSome == b.offset?.isSome then
      .ok (c.judge (a.micros < b.micros) (a.micros == b.micros))
    else .error .unordered
  | .date a, .date b => .ok (c.judge (a.dayNumber < b.dayNumber) (a == b))
  | .time a, .time b => .ok (c.judge (a.micros < b.micros) (a == b))
  | .duration a, .duration b => .ok (c.judge (a.micros < b.micros) (a.micros == b.micros))
  | .uuid a, .uuid b => .ok (c.judge (a < b) (a == b))
  | a, b =>
    match a.magnitude?, b.magnitude? with
    | some x, some y => numberHolds c (isDecimal a || isDecimal b) x y
    | _, _ => .error .unordered

/-- The relations of values without elements. -/
def scalars : Relations where
  same a b := .ok (sameScalar a b)
  holds := scalarHolds

variable (r : Relations)

/-! ### Lists -/

/-- The two lists have the same values at the same places. -/
def sameAll : List Value → List Value → Except Failure Bool
  | [], [] => .ok true
  | a :: as, b :: bs => do if ← r.same a b then sameAll as bs else pure false
  | _, _ => .ok false

/-- The order of two lists: that of the first elements that are not the same, else that of the
lengths. -/
def allHold (c : Comparison) : List Value → List Value → Except Clash Bool
  | a :: as, b :: bs => do if ← r.same a b then allHold c as bs else r.holds c a b
  | as, bs => .ok (c.judge (as.length < bs.length) (as.length == bs.length))

/-- One of the elements is the same as the value. -/
def isElement (v : Value) (xs : List Value) : Except Failure Bool :=
  xs.anyM fun x => r.same x v

/-! ### Sets -/

/-- The two sets have the same elements. -/
def sameElements (xs ys : List Value) : Except Failure Bool :=
  if xs.length == ys.length then xs.allM (r.isElement · ys) else .ok false

/-- Of two sets the smaller one is a part of the other. -/
def partHolds (c : Comparison) (xs ys : List Value) : Except Failure Bool :=
  match c with
  | .lt => if xs.length < ys.length then xs.allM (r.isElement · ys) else .ok false
  | .le => xs.allM (r.isElement · ys)
  | .gt => if ys.length < xs.length then ys.allM (r.isElement · xs) else .ok false
  | .ge => ys.allM (r.isElement · xs)

/-! ### Maps -/

/-- The value of a key. -/
def value? (key : Value) : List (Value × Value) → Except Failure (Option Value)
  | [] => .ok none
  | (k, v) :: rest => do if ← r.same k key then pure (some v) else value? key rest

/-- The two maps have the same keys with the same values, in any order. -/
def sameEntries (es fs : List (Value × Value)) : Except Failure Bool :=
  if es.length == fs.length then
    es.allM fun (k, v) => do
      match ← r.value? k fs with
      | some w => r.same w v
      | none => pure false
  else .ok false

/-- The two ordered maps have the same keys with the same values in the same order. -/
def sameOrdered : List (Value × Value) → List (Value × Value) → Except Failure Bool
  | [], [] => .ok true
  | (k, v) :: es, (l, w) :: fs => do
    if ← r.same k l then
      if ← r.same v w then sameOrdered es fs else pure false
    else pure false
  | _, _ => .ok false

/-- Gives a key a value in a map. -/
def put (key value : Value) : List (Value × Value) → Except Failure (List (Value × Value))
  | [] => .ok [(key, value)]
  | (k, v) :: rest => do
    if ← r.same k key then pure ((k, value) :: rest)
    else pure ((k, v) :: (← put key value rest))

/-- The entries that arise when elements are read as keys with their values, from the position on;
none if one of them has no elements or its first one is no key. -/
def entriesFrom? (position : Nat) (done : List (Value × Value)) :
    List Value → Except Failure (Option (List (Value × Value)))
  | [] => .ok (some done)
  | x :: rest =>
    match x.elements? with
    | none => .ok none
    | some [k, v] => do
      if k.isKey then entriesFrom? (position + 1) (← r.put k v done) rest else pure none
    | some xs => .error (.notPair position xs.length)

/-- A value read as a map. -/
def entries? : Value → Except Failure (Option (List (Value × Value)))
  | .map es | .orderedMap es => .ok (some es)
  | v =>
    match v.elements? with
    | none => .ok none
    | some xs => r.entriesFrom? 0 [] xs

/-- Each of the entries stands in a map; none if one of their keys is no key of a map. -/
def allEntries? (fs : List (Value × Value)) : List (Value × Value) → Except Failure (Option Bool)
  | [] => .ok (some true)
  | (k, v) :: rest =>
    if k.isKey then do
      match ← r.value? k fs with
      | some w => if ← r.same v w then allEntries? fs rest else pure (some false)
      | none => pure (some false)
    else .ok none

/-- An ordered map is the same as an ordered map with the same entries in the same order, and as
another value that is a map with the same entries when it is read as one; none if it cannot be read
so. -/
def sameAsOrderedMap? (es : List (Value × Value)) : Value → Except Failure (Option Bool)
  | .orderedMap fs =>
    if es.length == fs.length then return some (← r.sameOrdered es fs) else pure (some false)
  | v => do
    match ← r.entries? v with
    | none => pure none
    | some fs => if fs.length == es.length then r.allEntries? fs es else pure (some false)

end Relations

end CqlGateway
