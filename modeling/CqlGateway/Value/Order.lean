import CqlGateway.Value.SortedSet

/-!
# Equality and order of values

`Relations.ofDepth n` are the relations of values of a depth up to `n`: those of values without
elements, extended once for each collection that lies inside another.  A sorted set and an ordered
map say what they are to other values; of two values the first one is asked first.

`Value.same` is the equality by which the keys of a map are told apart.
-/

namespace CqlGateway

namespace Relations

/-- What a sorted set or an ordered map says to another value; none for other values. -/
def says? (r : Relations) (a b : Value) : Except Failure (Option Bool) :=
  match a with
  | .sortedSet xs => r.sameAsSortedSet? xs b
  | .orderedMap es => r.sameAsOrderedMap? es b
  | _ => .ok none

/-- Equality of values whose elements are related by `r`. -/
def extendedSame (r : Relations) (a b : Value) : Except Failure Bool :=
  match a, b with
  | .list xs, .list ys => if xs.length == ys.length then r.sameAll xs ys else .ok false
  | .tuple xs, .tuple ys => r.sameAll xs ys
  | .set xs, .set ys | .set xs, .frozenSet ys | .frozenSet xs, .set ys
  | .frozenSet xs, .frozenSet ys => r.sameElements xs ys
  | .map es, .map fs => r.sameEntries es fs
  | _, _ => do
    match ← r.says? a b with
    | some same => pure same
    | none =>
      match ← r.says? b a with
      | some same => pure same
      | none => pure (sameScalar a b)

/-- Order of values whose elements are related by `r`. -/
def extendedHolds (r : Relations) (c : Comparison) (a b : Value) : Except Clash Bool :=
  match a, b with
  | .list xs, .list ys | .tuple xs, .tuple ys => r.allHold c xs ys
  | .set xs, .set ys | .set xs, .frozenSet ys | .frozenSet xs, .set ys
  | .frozenSet xs, .frozenSet ys => r.partHolds c xs ys
  | .sortedSet xs, _ => r.sortedHolds c xs b
  | _, .sortedSet ys => r.sortedHolds c.converse ys a
  | _, _ => scalarHolds c a b

/-- The relations of values whose elements are related by `r`. -/
def extend (r : Relations) : Relations where
  same := r.extendedSame
  holds := r.extendedHolds

/-- The relations of values of a depth up to `n`. -/
def ofDepth : (n : Nat) → Relations
  | 0 => scalars
  | n + 1 => (ofDepth n).extend

end Relations

namespace Value

/-- The two values are the same as keys of a map. -/
def same (a b : Value) : Bool :=
  ((Relations.ofDepth (max a.depth b.depth)).same a b).toOption.getD false

end Value

end CqlGateway
