import CqlGateway.Collection.Search
import CqlGateway.Value.Relations

/-!
# Sorted sets

A sorted set is built by inserting one element after the other (`Relations.sortedOf`).  The place of
an element is found by halving; where elements have no order it is found by a scan from the start
instead.

A sorted set is the same as any value with elements of which it has all, and as many.  In an order
it is compared as a set with any such value.
-/

namespace CqlGateway.Relations

variable (r : Relations)

/-! ### Insertion -/

/-- The place that a scan finds for `v`: before the first element that is the same or not below, or
behind the first run of elements that have an order. -/
def scanPlace (v : Value) :
    (items : List Value) → (place : Nat) → (compared : Bool) → Except Failure Nat
  | [], place, _ => .ok place
  | x :: rest, place, compared => do
    if ← r.same x v then pure place
    else
      match r.holds .ge x v with
      | .ok true => pure place
      | .ok false => scanPlace v rest (place + 1) true
      | .error .unordered =>
        if compared then pure place else scanPlace v rest (place + 1) false
      | .error (.failed failure) => .error failure

/-- The place between `low` and `high` for `v`. -/
def placeFrom (items : Array Value) (v : Value) : (fuel low high : Nat) → Except Failure Nat
  | 0, low, _ => .ok low
  | fuel + 1, low, high =>
    if low < high then
      let mid := (low + high) / 2
      match r.holds .lt (items.getD mid .null) v with
      | .ok true => placeFrom items v fuel (mid + 1) high
      | .ok false => placeFrom items v fuel low mid
      | .error .unordered => r.scanPlace v (items.toList.take high) 0 false
      | .error (.failed failure) => .error failure
    else .ok low

/-- The place for `v` in a sorted set. -/
def place (v : Value) (items : List Value) : Except Failure Nat :=
  r.placeFrom items.toArray v items.length 0 items.length

/-- A sorted set has the value. -/
def isSortedElement (v : Value) (items : List Value) : Except Failure Bool := do
  match items[← r.place v items]? with
  | some x => r.same x v
  | none => pure false

/-- Inserts a value into a sorted set, unless the element at its place is the same. -/
def insert (items : List Value) (v : Value) : Except Failure (List Value) := do
  let place ← r.place v items
  match items[place]? with
  | some x => if ← r.same x v then pure items else pure (items.take place ++ v :: items.drop place)
  | none => pure (items ++ [v])

/-- The sorted set of the given elements. -/
def sortedOf (xs : List Value) : Except Failure (List Value) :=
  xs.foldlM r.insert []

/-! ### Comparison -/

/-- A value has an element: a text has the texts inside it, and a byte string the byte strings and
the bytes.  Where the elements are told apart as keys, what is no key cannot be looked for. -/
def isIn (v : Value) : Value → Except Clash Bool
  | .text t =>
    match v with
    | .text s => .ok (isInside s.toList t.toList)
    | _ => .error .unordered
  | .bytes t | .buffer t =>
    match v with
    | .bytes s | .buffer s => .ok (isInside s t)
    | .int i =>
      if 0 ≤ i ∧ i < 256 then .ok (t.contains (UInt8.ofNat i.toNat)) else .error (.failed .notByte)
    | .bool b => .ok (t.contains (UInt8.ofNat b.toNat))
    | _ => .error .unordered
  | .list xs | .tuple xs => r.isElement v xs
  | .set xs | .frozenSet xs =>
    match v with
    | .set _ => r.isElement v xs
    | _ => if v.isKey then r.isElement v xs else .error .unordered
  | .map es => if v.isKey then r.isElement v (es.map Prod.fst) else .error .unordered
  | .orderedMap es => .ok (es.any fun e => e.1.identical v)
  | .sortedSet xs => r.isSortedElement v xs
  | _ => .error .unordered

/-- The sorted set of the elements that a value has too. -/
def common (xs : List Value) (b : Value) : Except Clash (List Value) :=
  xs.foldlM (fun done x => do if ← r.isIn x b then r.insert done x else pure done) []

/-- The number of elements of a value. -/
def count (b : Value) : Except Clash Nat :=
  match b.elements? with
  | some ys => .ok ys.length
  | none => .error .unordered

/-- All the elements of a sorted set are elements of a value. -/
def isPartOf (xs : List Value) (b : Value) : Except Clash Bool :=
  return (← r.common xs b).length == xs.length

/-- A sorted set has all the elements of a value. -/
def hasPart (xs : List Value) (b : Value) : Except Clash Bool :=
  return (← r.common xs b).length == (← count b)

/-- What a sorted set is to a value in the order of sets. -/
def sortedHolds (c : Comparison) (xs : List Value) (b : Value) : Except Clash Bool :=
  match c with
  | .lt => do if xs.length < (← count b) then r.isPartOf xs b else pure false
  | .le => r.isPartOf xs b
  | .gt => do if (← count b) < xs.length then r.hasPart xs b else pure false
  | .ge => r.hasPart xs b

/-- A sorted set is the same as a value; none if the value has no elements. -/
def sameAsSortedSet? (xs : List Value) : Value → Except Failure (Option Bool)
  | .sortedSet ys =>
    if xs.length == ys.length then return some (← r.sameAll xs ys) else pure (some false)
  | v =>
    match v.elements? with
    | none => .ok none
    | some ys => do
      if ys.length == xs.length then return some (← ys.allM (r.isSortedElement · xs))
      else pure (some false)

end CqlGateway.Relations
