/-!
# Search

Finding a place in an array by a test that may fail: the elements that pass it stand in front of the
place, the others behind it.  `Search.halve` looks between two bounds.  `Search.stride` starts at a
hint and doubles its steps until it has passed the place, so that a place near the hint costs few
tests.  Where the elements that pass are not all in front, the tests that are made decide what place
is found; their order is therefore part of what both functions compute.

`isInside` looks for a list in another one, where it has to stand without a gap (`isInside_iff`).
-/

namespace CqlGateway.Search

variable {α ε : Type}

/-- The place between `low` and `high` that halving finds.  `fuel` bounds the distance. -/
def halveFrom (passes : α → Except ε Bool) (items : Array α) :
    (fuel low high : Nat) → Except ε Nat
  | 0, low, _ => .ok low
  | fuel + 1, low, high =>
    if low < high then
      let mid := (low + high) / 2
      match items[mid]? with
      | none => .ok low
      | some x =>
        match passes x with
        | .error e => .error e
        | .ok true => halveFrom passes items fuel (mid + 1) high
        | .ok false => halveFrom passes items fuel low mid
    else .ok low

/-- The place between `low` and `high` behind the elements that pass. -/
def halve (passes : α → Except ε Bool) (items : Array α) (low high : Nat) : Except ε Nat :=
  halveFrom passes items (high - low) low high

/-- The last of the offsets 1, 3, 7 and so on below `limit` up to which `goesOn` holds, and the
offset behind it, which is at most `limit`. -/
def lengthen (goesOn : Nat → Except ε Bool) (limit : Nat) :
    (fuel last offset : Nat) → Except ε (Nat × Nat)
  | 0, last, _ => .ok (last, limit)
  | fuel + 1, last, offset =>
    if offset < limit then
      match goesOn offset with
      | .error e => .error e
      | .ok true => lengthen goesOn limit fuel offset (2 * offset + 1)
      | .ok false => .ok (last, offset)
    else .ok (last, limit)

/-- The place behind the elements that pass, looked for from `hint`. -/
def stride (passes : α → Except ε Bool) (items : Array α) (hint : Nat) : Except ε Nat := do
  let passesAt (i : Nat) : Except ε Bool :=
    match items[i]? with
    | some x => passes x
    | none => .ok false
  if ← passesAt hint then
    let (last, offset) ← lengthen (fun k => passesAt (hint + k)) (items.size - hint) items.size 0 1
    halve passes items (hint + last + 1) (hint + offset)
  else
    let (last, offset) ←
      lengthen (fun k => (passesAt (hint - k)).map (!·)) (hint + 1) items.size 0 1
    halve passes items (hint + 1 - offset) (hint - last)

end CqlGateway.Search

namespace CqlGateway

/-! ### Lists inside lists -/

variable {α : Type} [BEq α]

/-- The first list stands somewhere in the second one. -/
def isInside (xs : List α) : List α → Bool
  | [] => xs.isEmpty
  | y :: ys => xs.isPrefixOf (y :: ys) || isInside xs ys

theorem isInside_iff [LawfulBEq α] {xs ys : List α} : isInside xs ys = true ↔ xs <:+: ys := by
  induction ys with
  | nil => simp [isInside]
  | cons y ys ih => simp [isInside, ih, List.infix_cons_iff]

end CqlGateway
