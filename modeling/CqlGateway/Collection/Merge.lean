import CqlGateway.Collection.Search

/-!
# Merging two runs

Two neighbouring runs, each in order, are merged by a comparison that may fail.  The shorter run
says from which side: from the front the smallest elements are placed first, from the back the
greatest.  Of equal elements those of the left run come first.

Elements are placed one by one until one run has won several times in a row; from then on whole
stretches are placed, whose lengths `Search.stride` finds, as long as they are long enough to pay.
How often a run has to win is the `patience`, which is learnt from one merge to the next.
-/

namespace CqlGateway

variable {α ε : Type}

/-! ### Sides -/

/-- A side of a list of elements. -/
inductive Side where
  | front
  | back
  deriving DecidableEq, Repr

namespace Side

/-- The element at a side. -/
def end? (side : Side) (xs : Array α) : Option α :=
  match side with
  | .front => xs[0]?
  | .back => xs.back?

/-- The `n` elements at a side. -/
def part (side : Side) (n : Nat) (xs : Array α) : Array α :=
  match side with
  | .front => xs.take n
  | .back => xs.drop (xs.size - n)

/-- The elements without the `n` at a side. -/
def rest (side : Side) (n : Nat) (xs : Array α) : Array α :=
  match side with
  | .front => xs.drop n
  | .back => xs.take (xs.size - n)

/-- The elements of `xs` and behind them, seen from the side, those of `ys`. -/
def join (side : Side) (xs ys : Array α) : Array α :=
  match side with
  | .front => xs ++ ys
  | .back => ys ++ xs

/-- The place next to a side. -/
def hint (side : Side) (xs : Array α) : Nat :=
  match side with
  | .front => 0
  | .back => xs.size - 1

/-- The number of elements between a side and a place. -/
def distance (side : Side) (place : Nat) (xs : Array α) : Nat :=
  match side with
  | .front => place
  | .back => xs.size - place

end Side

/-! ### A merge under way -/

/-- A merge from one side: what is left of the two runs, and what has been placed. -/
structure Merge (α : Type) where
  left : Array α
  right : Array α
  placed : Array α := #[]

namespace Merge

/-- Places `n` elements of the left run. -/
def takeLeft (side : Side) (n : Nat) (m : Merge α) : Merge α :=
  { m with left := side.rest n m.left, placed := side.join m.placed (side.part n m.left) }

/-- Places `n` elements of the right run. -/
def takeRight (side : Side) (n : Nat) (m : Merge α) : Merge α :=
  { m with right := side.rest n m.right, placed := side.join m.placed (side.part n m.right) }

/-- Nothing has to be compared any more: the far run is used up, or the near one but for one
element, which is known to be the last to be placed. -/
def isDone (side : Side) (m : Merge α) : Bool :=
  match side with
  | .front => m.right.isEmpty || m.left.size ≤ 1
  | .back => m.left.isEmpty || m.right.size ≤ 1

/-- The elements of a merge that is done. -/
def elements (side : Side) (m : Merge α) : Array α :=
  side.join m.placed (m.right ++ m.left)

/-- Places elements one by one until one run has won `patience` times in a row. -/
def alternate (below : α → α → Except ε Bool) (side : Side) (patience : Nat) :
    (fuel leftWins rightWins : Nat) → Merge α → Except ε (Merge α)
  | 0, _, _, m => .ok m
  | fuel + 1, leftWins, rightWins, m =>
    match side.end? m.left, side.end? m.right with
    | some x, some y => do
      if (← below y x) == (side == .front) then
        let m := m.takeRight side 1
        if m.isDone side || patience ≤ rightWins + 1 then pure m
        else alternate below side patience fuel 0 (rightWins + 1) m
      else
        let m := m.takeLeft side 1
        if m.isDone side || patience ≤ leftWins + 1 then pure m
        else alternate below side patience fuel (leftWins + 1) 0 m
    | _, _ => .ok m

/-- Places the stretch of the left run that comes before the next element of the right one; gives
its length too. -/
def leapLeft (below : α → α → Except ε Bool) (side : Side) (m : Merge α) :
    Except ε (Nat × Merge α) :=
  match side.end? m.right with
  | none => .ok (0, m)
  | some y => do
    let place ← Search.stride (fun x => (below y x).map (!·)) m.left (side.hint m.left)
    let n := side.distance place m.left
    pure (n, m.takeLeft side n)

/-- Places the stretch of the right run that comes before the next element of the left one; gives
its length too. -/
def leapRight (below : α → α → Except ε Bool) (side : Side) (m : Merge α) :
    Except ε (Nat × Merge α) :=
  match side.end? m.left with
  | none => .ok (0, m)
  | some x => do
    let place ← Search.stride (fun y => below y x) m.right (side.hint m.right)
    let n := side.distance place m.right
    pure (n, m.takeRight side n)

/-- The length from which on a stretch pays. -/
def payingLength : Nat := 7

/-- Places a stretch of each run, and behind each stretch the element of the other run that ends it;
tells whether one of the stretches was long enough to pay. -/
def leap (below : α → α → Except ε Bool) (side : Side) (m : Merge α) :
    Except ε (Bool × Merge α) := do
  let (n, m) ← m.leapLeft below side
  if m.isDone side then pure (false, m)
  else
    let m := m.takeRight side 1
    if m.isDone side then pure (false, m)
    else
      let (k, m) ← m.leapRight below side
      if m.isDone side then pure (false, m)
      else pure (payingLength ≤ n || payingLength ≤ k, m.takeLeft side 1)

/-- Finishes a merge, element by element or by leaps; gives the patience that was learnt.  Every
leap makes it smaller, and the end of the leaps greater. -/
def finish (below : α → α → Except ε Bool) (side : Side) :
    (fuel patience : Nat) → (leaping : Bool) → Merge α → Except ε (Array α × Nat)
  | 0, patience, _, m => .ok (m.elements side, patience)
  | fuel + 1, patience, true, m => do
    let patience := max 1 (patience - 1)
    let (pays, m) ← m.leap below side
    if m.isDone side then pure (m.elements side, patience)
    else if pays then finish below side fuel patience true m
    else finish below side fuel (patience + 1) false m
  | fuel + 1, patience, false, m => do
    let m ← m.alternate below side patience (m.left.size + m.right.size) 0 0
    if m.isDone side then pure (m.elements side, patience)
    else finish below side fuel (patience + 1) true m

/-- Merges two runs of which it is known that the first element of the right one is the first, and
the last element of the left one the last of all. -/
def interleave (below : α → α → Except ε Bool) (patience : Nat) (left right : Array α) :
    Except ε (Array α × Nat) :=
  let side : Side := if left.size ≤ right.size then .front else .back
  let m : Merge α := { left, right }
  let m := match side with
    | .front => m.takeRight side 1
    | .back => m.takeLeft side 1
  if m.isDone side then .ok (m.elements side, patience)
  else m.finish below side (left.size + right.size) patience false

/-- Merges two runs.  What stands in front of the right run already, and what stands behind the left
one, keeps its place. -/
def runs (below : α → α → Except ε Bool) (patience : Nat) (left right : Array α) :
    Except ε (Array α × Nat) :=
  match right[0]?, left.back? with
  | some first, some last => do
    let start ← Search.stride (fun x => (below first x).map (!·)) left 0
    if left.size ≤ start then pure (left ++ right, patience)
    else
      let stop ← Search.stride (fun y => below y last) right (right.size - 1)
      if stop == 0 then pure (left ++ right, patience)
      else
        let (merged, patience) ← interleave below patience (left.drop start) (right.take stop)
        pure (left.take start ++ merged ++ right.drop stop, patience)
  | _, _ => .ok (left ++ right, patience)

end Merge

end CqlGateway
