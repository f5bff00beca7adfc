import CqlGateway.Failure
import CqlGateway.Session.Event

/-!
# Outcomes

What an operation leaves behind: a result or a failure, the statements it sent, in order, and the
events it reported, in order.  Outcomes are composed one after the other; a failure keeps what was
sent and reported before it.
-/

namespace CqlGateway

/-- A statement that was sent, with its timeout in seconds and the number of rows that were read of
its result. -/
structure Statement where
  cql : String
  timeout : Int
  pulled : Nat
  deriving DecidableEq, Repr

/-- What an operation leaves behind. -/
structure Outcome (α : Type) where
  result : Except Failure α
  statements : List Statement := []
  events : List Event := []

namespace Outcome

variable {α β : Type}

/-- The outcome that is only a result. -/
protected def pure (a : α) : Outcome α :=
  { result := .ok a }

/-- One operation after the other. -/
protected def bind (x : Outcome α) (f : α → Outcome β) : Outcome β :=
  match x.result with
  | .error e => { result := .error e, statements := x.statements, events := x.events }
  | .ok a =>
    let y := f a
    { result := y.result
      statements := x.statements ++ y.statements
      events := x.events ++ y.events }

instance : Monad Outcome where
  pure := Outcome.pure
  bind := Outcome.bind

/-- Only a failure. -/
def fail (e : Failure) : Outcome α :=
  { result := .error e }

/-- Only an event. -/
def report (e : Event) : Outcome Unit :=
  { result := .ok (), events := [e] }

/-- A result or a failure as an outcome. -/
def ofExcept (r : Except Failure α) : Outcome α :=
  { result := r }

/-! ### Composition -/

theorem bind_of_ok {x : Outcome α} {a : α} (h : x.result = .ok a) (f : α → Outcome β) :
    x >>= f =
      { result := (f a).result
        statements := x.statements ++ (f a).statements
        events := x.events ++ (f a).events } := by
  show Outcome.bind x f = _
  simp [Outcome.bind, h]

theorem bind_of_error {x : Outcome α} {e : Failure} (h : x.result = .error e)
    (f : α → Outcome β) :
    x >>= f = { result := .error e, statements := x.statements, events := x.events } := by
  show Outcome.bind x f = _
  simp [Outcome.bind, h]

theorem result_bind_of_ok {x : Outcome α} {a : α} (h : x.result = .ok a) (f : α → Outcome β) :
    (x >>= f).result = (f a).result := by
  rw [bind_of_ok h]

theorem result_bind_eq_ok_iff {x : Outcome α} {f : α → Outcome β} {b : β} :
    (x >>= f).result = .ok b ↔ ∃ a, x.result = .ok a ∧ (f a).result = .ok b := by
  cases hx : x.result with
  | error e => simp [bind_of_error hx]
  | ok a => simp [bind_of_ok hx]

/-- The operation fails. -/
def Fails (x : Outcome α) : Prop :=
  ∃ e, x.result = .error e

/-- One operation after the other fails where the first one does or, after it, the second one. -/
theorem fails_bind_iff {x : Outcome α} {f : α → Outcome β} {p : Prop}
    (h : ∀ a, x.result = .ok a → ((f a).Fails ↔ p)) : (x >>= f).Fails ↔ x.Fails ∨ p := by
  rw [Fails, Fails]
  cases hx : x.result with
  | error e => simp [bind_of_error hx]
  | ok a =>
    have hf := h a hx
    rw [Fails] at hf
    simp [bind_of_ok hx, hf]

theorem not_fails_of_ok {x : Outcome α} {a : α} (h : x.result = .ok a) : ¬ x.Fails := by
  rintro ⟨e, he⟩
  cases h.symm.trans he

theorem not_fails_pure (a : α) : ¬ (pure a : Outcome α).Fails :=
  not_fails_of_ok rfl

theorem fails_bind_pure_iff {x : Outcome α} (f : α → β) :
    (x >>= fun a => pure (f a)).Fails ↔ x.Fails :=
  (fails_bind_iff fun a _ => iff_of_false (not_fails_pure (f a)) id).trans (or_iff_left id)

@[simp] theorem fail_bind (e : Failure) (f : α → Outcome β) : fail e >>= f = fail e := rfl

instance : LawfulMonad Outcome :=
  LawfulMonad.mk' Outcome
    (fun x => by
      show Outcome.bind x Outcome.pure = x
      obtain ⟨_ | _, _, _⟩ := x <;> simp [Outcome.bind, Outcome.pure])
    (fun a f => by
      show Outcome.bind (Outcome.pure a) f = f a
      simp [Outcome.bind, Outcome.pure])
    (fun x f g => by
      show Outcome.bind (Outcome.bind x f) g = Outcome.bind x fun a => Outcome.bind (f a) g
      match hx : x.result with
      | .error _ => simp [Outcome.bind, hx]
      | .ok a => cases hf : (f a).result <;> simp [Outcome.bind, hx, hf])

end Outcome

end CqlGateway
