import CqlGateway.Collection.Merge

/-!
# Sorting by runs

`sortWith` sorts by a comparison that may fail, and gives the failure of the first comparison that
does.  The list is cut into runs that are in order already; short runs are filled up to a least
length by insertion; neighbouring runs are merged so that the lengths stay balanced.  With a
consistent comparison the sort is stable.

A comparison need not be consistent: then the comparisons that are made, in their order, decide how
the elements come to stand.
-/

namespace CqlGateway

variable {α ε : Type}

/-! ### Runs -/

/-- Extends a run, kept with its last element first, as long as each element is below the one before
it (`falling`) or none is; gives the run and the rest. -/
def extendRun (below : α → α → Except ε Bool) (falling : Bool) (last : α) (run : List α) :
    List α → Except ε (List α × List α)
  | [] => .ok (run, [])
  | x :: rest =>
    match below x last with
    | .error e => .error e
    | .ok b =>
      if b == falling then extendRun below falling x (x :: run) rest else .ok (run, x :: rest)

/-- The run at the start of a list, in rising order, and the rest.  A run that falls strictly is
turned around. -/
def leadingRun (below : α → α → Except ε Bool) : List α → Except ε (List α × List α)
  | [] => .ok ([], [])
  | [x] => .ok ([x], [])
  | x :: y :: rest => do
    let falling ← below y x
    let (run, rest) ← extendRun below falling y [y, x] rest
    pure (if falling then run else run.reverse, rest)

/-- Inserts an element into a run, behind the elements that it is not below. -/
def insertWith (below : α → α → Except ε Bool) (run : Array α) (x : α) : Except ε (Array α) :=
  (Search.halve (fun y => (below x y).map (!·)) run 0 run.size).map fun place =>
    run.take place ++ #[x] ++ run.drop place

/-- The least length of a run in a list of `n` elements: `n` without its last binary digits so that
it stays below 64, and one more if one of those digits was not zero. -/
def leastRun (n : Nat) : Nat :=
  go n n 0
where
  go : (fuel n carry : Nat) → Nat
    | 0, n, carry => n + carry
    | fuel + 1, n, carry => if n < 64 then n + carry else go fuel (n / 2) (max carry (n % 2))

/-! ### Pending runs -/

/-- A run that waits to be merged, with its place in the list and the level of the boundary behind
it. -/
structure PendingRun (α : Type) where
  start : Nat
  items : Array α
  level : Nat := 0

/-- The number of the first binary digit in which the fractions `a / n` and `b / n` differ, the
digit in front of the point being the first one. -/
def splitLevel (n : Nat) : (fuel a b : Nat) → Nat
  | 0, _, _ => 1
  | fuel + 1, a, b =>
    if a / n == b / n then splitLevel n fuel (2 * (a % n)) (2 * (b % n)) + 1 else 1

/-- The level of the boundary between two runs that follow each other in a list of `total` elements:
the number of halvings of the list that put their middles into different parts. -/
def boundaryLevel (total start first second : Nat) : Nat :=
  let middle := 2 * start + first
  splitLevel total total middle (middle + first + second)

/-- The runs that wait, the last one first, and the patience of the next merge. -/
structure Pending (α : Type) where
  runs : List (PendingRun α) := []
  patience : Nat := Merge.payingLength

namespace Pending

/-- Merges two runs that follow each other. -/
def merge (below : α → α → Except ε Bool) (patience : Nat) (a b : PendingRun α) :
    Except ε (PendingRun α × Nat) :=
  (Merge.runs below patience a.items b.items).map fun (items, patience) =>
    ({ a with items }, patience)

/-- Merges the last run with the one before it as long as the boundary before it is of a greater
level. -/
def collapse (below : α → α → Except ε Bool) (level : Nat) :
    (before : List (PendingRun α)) → (last : PendingRun α) → (patience : Nat) →
      Except ε (Pending α)
  | [], last, patience => .ok ⟨[{ last with level }], patience⟩
  | run :: before, last, patience =>
    if level < run.level then do
      let (last, patience) ← merge below patience run last
      collapse below level before last patience
    else .ok ⟨{ last with level } :: run :: before, patience⟩

/-- Adds a run at the end. -/
def push (below : α → α → Except ε Bool) (total : Nat) (items : Array α) (p : Pending α) :
    Except ε (Pending α) :=
  match p.runs with
  | [] => .ok { p with runs := [⟨0, items, 0⟩] }
  | last :: before =>
    let level := boundaryLevel total last.start last.items.size items.size
    let run : PendingRun α := { start := last.start + last.items.size, items }
    (collapse below level before last p.patience).map fun p => { p with runs := run :: p.runs }

/-- Merges all the runs: the last two, or of the last three the first two if the first one is
shorter than the last. -/
def mergeFrom (below : α → α → Except ε Bool) :
    (fuel patience : Nat) → List (PendingRun α) → Except ε (List α)
  | 0, _, runs => .ok (runs.reverse.flatMap (·.items.toList))
  | _, _, [] => .ok []
  | _, _, [run] => .ok run.items.toList
  | fuel + 1, patience, [last, second] => do
    let (merged, patience) ← merge below patience second last
    mergeFrom below fuel patience [merged]
  | fuel + 1, patience, last :: second :: third :: before =>
    if third.items.size < last.items.size then do
      let (merged, patience) ← merge below patience third second
      mergeFrom below fuel patience (last :: merged :: before)
    else do
      let (merged, patience) ← merge below patience second last
      mergeFrom below fuel patience (merged :: third :: before)

/-- The elements of all the runs in order. -/
def elements (below : α → α → Except ε Bool) (p : Pending α) : Except ε (List α) :=
  mergeFrom below p.runs.length p.patience p.runs

end Pending

/-! ### The sort -/

/-- Cuts a list of `total` elements into runs and merges them. -/
def sortRuns (below : α → α → Except ε Bool) (total least : Nat) :
    (fuel : Nat) → Pending α → List α → Except ε (List α)
  | 0, p, _ => p.elements below
  | fuel + 1, p, xs =>
    if xs.isEmpty then p.elements below
    else do
      let (run, rest) ← leadingRun below xs
      let missing := least - run.length
      let run ← (rest.take missing).foldlM (insertWith below) run.toArray
      let p ← p.push below total run
      sortRuns below total least fuel p (rest.drop missing)

/-- The elements in order, or the failure of the first comparison that fails. -/
def sortWith (below : α → α → Except ε Bool) (xs : List α) : Except ε (List α) :=
  sortRuns below xs.length (leastRun xs.length) xs.length {} xs

end CqlGateway
