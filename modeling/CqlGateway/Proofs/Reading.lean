import CqlGateway.Proofs.Rows

/-!
# What readers give

`Gives next s as s'` says that a reader in the state `s` gives the elements `as`, one after the
other, and is then in the state `s'`.  Guarding a reader and putting an element in front of it do
not change what it gives (`Gives.guarded`, `Gives.chained`), and an open result gives the rows ahead
and counts them (`gives_cursor`).

Gathering rows is one step for each row that is given (`gather_of_gives`).  Hence a pass ends in one
of three ways, with the last row that the budget allows, at the end of the rows or with a failure:
`materializeFrom_of_full`, `materializeFrom_of_end` and `materializeFrom_of_failure`.

These say what becomes of rows with names.  Whatever the names are, a pass does not depend on how
its rows are read: two readers of which one simulates the other lead to the same result
(`result_materializeFrom_of_simulates`).  Over rows that are at hand it ends with the selection of
the rows that the limits allow, or with the failure that `passFailure?` tells
(`result_materialize_eq`).
-/

namespace CqlGateway

variable {ε ε' σ α : Type}

/-- From the first state on, the reader gives the elements and is then in the second state. -/
inductive Gives (next : Reader ε σ α) : σ → List α → σ → Prop
  | nil (s : σ) : Gives next s [] s
  | cons {s s' s'' : σ} {a : α} {as : List α} :
      next s = (.ok (some a), s') → Gives next s' as s'' → Gives next s (a :: as) s''

/-! ### Readers -/

theorem gives_cursor (rows more : List (List Cell)) (failure? : Option ε) (pulled : Nat) :
    Gives Cursor.next ⟨rows ++ more, failure?, pulled⟩ rows
      ⟨more, failure?, pulled + rows.length⟩ := by
  induction rows generalizing pulled with
  | nil => exact .nil _
  | cons row rows ih =>
    have hstep := ih (pulled + 1)
    rw [Nat.add_assoc, Nat.add_comm 1] at hstep
    exact .cons rfl hstep

theorem Gives.guarded {next : Reader ε σ α} {s s' : σ} {as : List α} (wrap : ε → ε')
    (h : Gives next s as s') : Gives (Reader.guarded wrap next) s as s' := by
  induction h with
  | nil s => exact .nil s
  | cons hnext _ ih => exact .cons (by rw [Reader.guarded, hnext]; rfl) ih

/-- Behind the element in front, a chained reader gives what the reader gives. -/
theorem Gives.chained {next : Reader ε σ α} {s s' : σ} {as : List α} (h : Gives next s as s') :
    Gives (Reader.chained next) (none, s) as (none, s') := by
  induction h with
  | nil s => exact .nil _
  | cons hnext _ ih => exact .cons (by simp [Reader.chained, hnext]) ih

theorem Gives.chained_some {next : Reader ε σ α} {s s' : σ} {as : List α} (a : α)
    (h : Gives next s as s') :
    Gives (Reader.chained next) (some a, s) (a :: as) (none, s') :=
  .cons rfl h.chained

/-! ### Gathering -/

@[simp] theorem Reading.behind_nil (r : Reading σ α) : r.behind [] = r := rfl

theorem Reading.behind_behind (xs ys : List Event) (r : Reading σ α) :
    (r.behind ys).behind xs = r.behind (xs ++ ys) := by
  simp [Reading.behind]

variable {next : Reader Failure σ (List Cell)} {s s' s'' : σ} {rows : List (List Cell)}
  {types : TypeMap} {limits : Limits}

/-- What has been gathered of the rows. -/
def gathered (types : TypeMap) (limits : Limits) (rows : List (List Cell)) (g : Gathering) :
    Gathering :=
  (rows.map (rowOf types limits.columns)).foldl Gathering.addRow g

/-- What is reported of the rows. -/
def rowEvents (types : TypeMap) (limits : Limits) (rows : List (List Cell)) : List Event :=
  rows.flatMap fun cells => (collectRow types limits.columns cells).events

/-- **Each row that is given is gathered**, and takes one from the budget. -/
theorem gather_of_gives (types : TypeMap) (limits : Limits) (h : Gives next s rows s')
    (hn : Named rows) (budget : Nat) (g : Gathering) :
    gather next types limits (rows.length + budget) s g =
      (gather next types limits budget s' (gathered types limits rows g)).behind
        (rowEvents types limits rows) := by
  induction h generalizing g with
  | nil s => simp [gathered, rowEvents]
  | @cons s s' s'' cells rest hnext _ ih =>
    -- the row that is read takes one from the budget of the rows that are given
    have hrow := result_collectRow types limits.columns (hn cells List.mem_cons_self)
    rw [List.length_cons, Nat.add_right_comm, gather, hnext]
    simp only [hrow]
    rw [ih hn.tail, Reading.behind_behind]
    simp [gathered, rowEvents]

/-! ### Readers in step -/

/-- In related states the two readers give the same, and they are in related states behind it. -/
def Reader.Simulates {τ : Type} (R : σ → τ → Prop) (next : Reader ε σ α) (next' : Reader ε τ α) :
    Prop :=
  ∀ s t, R s t → (next s).1 = (next' t).1 ∧ R (next s).2 (next' t).2

section Simulation

variable {τ : Type} {next' : Reader Failure τ (List Cell)} {R : σ → τ → Prop} {t : τ}

theorem result_gather_of_simulates (types : TypeMap) (limits : Limits)
    (h : Reader.Simulates R next next') (hs : R s t) (budget : Nat) (g : Gathering) :
    (gather next types limits budget s g).result =
      (gather next' types limits budget t g).result := by
  induction budget generalizing s t g with
  | zero => rfl
  | succ budget ih =>
    obtain ⟨hread, hstate⟩ := h s t hs
    rw [gather, gather]
    -- both readers give the same, so only what is read is to be told apart
    rcases hnext : next s with ⟨_ | _ | cells, s'⟩ <;>
      rcases hnext' : next' t with ⟨read, t'⟩ <;>
      rw [hnext, hnext'] at hread hstate <;> subst hread
    · rfl
    · rfl
    · dsimp only
      cases (collectRow types limits.columns cells).result with
      | error e => rfl
      | ok r => exact ih hstate _

theorem result_materializeFrom_of_simulates (types : TypeMap) (limits : Limits)
    (h : Reader.Simulates R next next') (hs : R s t) :
    (materializeFrom next types limits s).result =
      (materializeFrom next' types limits t).result := by
  have hgather := result_gather_of_simulates types limits h hs limits.rows {}
  simp only [materializeFrom, hgather]
  cases (gather next' types limits limits.rows t {}).result <;> rfl

end Simulation

/-! ### Passes -/

/-- The selection of rows that are all read. -/
def selectionOf (types : TypeMap) (limits : Limits) (rows : List (List Cell)) : Selection :=
  (gathered types limits rows {}).selection

/-- A pass ends behind the last row that the limits allow. -/
theorem materializeFrom_of_full (h : Gives next s rows s') (hn : Named rows)
    (hrows : rows.length = limits.rows) :
    materializeFrom next types limits s =
      { result := .ok (selectionOf types limits rows)
        rest := s'
        events := rowEvents types limits rows ++ [.rowsLimitReached limits.rows] ++
          partitionEvents (selectionOf types limits rows) } := by
  -- nothing is left of the budget, so the reader is not asked again
  have hgather := gather_of_gives types limits h hn 0 {}
  rw [Nat.add_zero, hrows, gather] at hgather
  rw [materializeFrom, hgather]
  rfl

/-- A pass ends at the end of the rows. -/
theorem materializeFrom_of_end (h : Gives next s rows s') (hn : Named rows)
    (hrows : rows.length < limits.rows) (hend : next s' = (.ok none, s'')) :
    materializeFrom next types limits s =
      { result := .ok (selectionOf types limits rows)
        rest := s''
        events := rowEvents types limits rows ++
          partitionEvents (selectionOf types limits rows) } := by
  obtain ⟨budget, hbudget⟩ := Nat.exists_eq_add_of_lt hrows
  have hgather := gather_of_gives types limits h hn (budget + 1) {}
  rw [← Nat.add_assoc, ← hbudget, gather, hend] at hgather
  rw [materializeFrom, hgather]
  simp only [Reading.behind, List.append_nil]
  rfl

/-- A pass ends with a failure that comes before the last row that the limits allow. -/
theorem materializeFrom_of_failure {e : Failure} (h : Gives next s rows s') (hn : Named rows)
    (hrows : rows.length < limits.rows) (hend : next s' = (.error e, s'')) :
    materializeFrom next types limits s =
      { result := .error e, rest := s'', events := rowEvents types limits rows } := by
  obtain ⟨budget, hbudget⟩ := Nat.exists_eq_add_of_lt hrows
  have hgather := gather_of_gives types limits h hn (budget + 1) {}
  rw [← Nat.add_assoc, ← hbudget, gather, hend] at hgather
  rw [materializeFrom, hgather]
  simp only [Reading.behind, List.append_nil]

theorem Named.take (hn : Named rows) (n : Nat) : Named (rows.take n) :=
  fun cells hcells => hn cells (List.mem_of_mem_take hcells)

/-! ### Rows that are at hand -/

/-- The failure of a pass that reads no more rows than a budget allows: that of a blank name among
the cells that are kept, or else the failure behind the rows if it is met. -/
def passFailure? (limit budget : Nat) (rows : List (List Cell)) (failure? : Option Failure) :
    Option Failure :=
  if (rows.take budget).any fun cells => hasBlankName (keptCells limit cells) then
    some (.blankName .typedColumn)
  else if rows.length < budget then failure?
  else none

variable {limit budget : Nat} {failure? : Option Failure}

theorem passFailure?_cons (cells : List Cell) (rest : List (List Cell)) :
    passFailure? limit (budget + 1) (cells :: rest) failure? =
      if hasBlankName (keptCells limit cells) then some (.blankName .typedColumn)
      else passFailure? limit budget rest failure? := by
  rw [passFailure?, passFailure?, List.take_succ_cons, List.any_cons, List.length_cons]
  cases hasBlankName (keptCells limit cells) <;> simp

/-- Rows with names do not fail by themselves. -/
theorem passFailure?_of_named (hn : Named (rows.take budget)) :
    passFailure? limit budget rows failure? =
      if rows.length < budget then failure? else none := by
  have hnone : ((rows.take budget).any fun cells => hasBlankName (keptCells limit cells)) =
      false := by
    rw [List.any_eq_false]
    intro cells hcells
    rw [hasBlankName_keptCells limit (hn cells hcells)]
    exact Bool.false_ne_true
  rw [passFailure?, hnone, if_neg Bool.false_ne_true]

/-- **What a pass over rows gathers**, or the failure that ends it. -/
theorem result_gather_cursor (types : TypeMap) (limits : Limits) (budget : Nat)
    (rows : List (List Cell)) (failure? : Option Failure) (pulled : Nat) (g : Gathering) :
    (gather Cursor.next types limits budget ⟨rows, failure?, pulled⟩ g).result =
      match passFailure? limits.columns budget rows failure? with
      | some e => .error e
      | none => .ok (gathered types limits (rows.take budget) g) := by
  induction budget generalizing rows pulled g with
  | zero => rfl
  | succ budget ih =>
    cases rows with
    | nil => cases failure? <;> rfl
    | cons cells rest =>
      have hrow := result_collectRow_eq types limits.columns cells
      rw [gather, Cursor.next, passFailure?_cons]
      cases hblank : hasBlankName (keptCells limits.columns cells) with
      | true =>
        rw [hblank, if_pos rfl] at hrow
        simp only [hrow, if_true]
      | false =>
        rw [hblank, if_neg Bool.false_ne_true] at hrow
        simp only [hrow, Bool.false_eq_true, if_false]
        -- the row is gathered, and the rest of the budget is for the rest of the rows
        exact ih rest (pulled + 1) _

/-- **The result of a pass over rows**: the selection of the rows that the limits allow, or the
failure that ends it. -/
theorem result_materialize_eq (types : TypeMap) (limits : Limits) (rows : List (List Cell))
    (failure? : Option Failure) :
    (materialize types limits rows failure?).result =
      match passFailure? limits.columns limits.rows rows failure? with
      | some e => .error e
      | none => .ok (selectionOf types limits (rows.take limits.rows)) := by
  have hgather := result_gather_cursor types limits limits.rows rows failure? 0 {}
  rw [materialize, materializeFrom]
  cases hfailure : passFailure? limits.columns limits.rows rows failure? with
  | some e =>
    rw [hfailure] at hgather
    simp only [hgather]
  | none =>
    rw [hfailure] at hgather
    simp only [hgather]
    rfl

/-- The only selection that a pass can end with. -/
theorem eq_selectionOf {selection : Selection}
    (h : (materialize types limits rows failure?).result = .ok selection) :
    selection = selectionOf types limits (rows.take limits.rows) := by
  rw [result_materialize_eq] at h
  split at h
  · cases h
  · exact (Except.ok.inj h).symm

/-- Rows that are at hand and end without a failure always give a selection. -/
theorem result_materialize (hn : Named rows) :
    (materialize types limits rows none).result =
      .ok (selectionOf types limits (rows.take limits.rows)) := by
  rw [result_materialize_eq, passFailure?_of_named (hn.take limits.rows), ite_self]

end CqlGateway
