import CqlGateway.Collection.Entries
import CqlGateway.Value.Order

/-!
# Values from their parts

Sets and maps are built from lists in which elements and keys may come twice; what comes twice is
kept once, in the form that came first.  Elements of sets and keys of maps have to be keys.
-/

namespace CqlGateway.Value

/-- The elements without those that are the same as an earlier one. -/
def distinctKeys (items : List Value) : Except Failure (List Value) :=
  items.foldlM (fun done v => do
    v.requireKey
    pure (if done.any (same · v) then done else done ++ [v])) []

/-- The set of the given elements. -/
def setOf (items : List Value) : Except Failure Value :=
  (distinctKeys items).map .set

/-- The frozen set of the given elements. -/
def frozenSetOf (items : List Value) : Except Failure Value :=
  (distinctKeys items).map .frozenSet

/-- The sorted set of the given elements, inserted one after the other. -/
def sortedSetOf (items : List Value) : Except Failure Value :=
  ((Relations.ofDepth (depthAll items)).sortedOf items).map .sortedSet

/-- The map whose keys are given values one after the other. -/
def mapOf (pairs : List (Value × Value)) : Except Failure Value := do
  pairs.forM fun (key, _) => key.requireKey
  return .map (Entries.ofPairs same pairs)

/-- The ordered map whose keys are given values one after the other; only identical keys are one. -/
def orderedMapOf (pairs : List (Value × Value)) : Value :=
  .orderedMap (Entries.ofPairs identical pairs)

/-- The duration that is the sum of a number of days, of seconds and of microseconds. -/
def durationOf (days seconds micros : Int) : Except Failure Value :=
  let d := Duration.ofParts days seconds micros
  if d.days.natAbs ≤ Duration.maxDays then .ok (.duration d) else .error (.durationTooLong d.days)

end CqlGateway.Value
