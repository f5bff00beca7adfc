import CqlGateway.Number.Decimal
import CqlGateway.Value.Basic

/-!
# Values as numbers

Truth values, integers, floating-point numbers and decimal numbers are compared as the exact numbers
that they stand for: `magnitude?` gives that number.
-/

namespace CqlGateway.Value

/-- A number for comparison: undefined, infinite, or a fraction with a positive denominator. -/
inductive Magnitude where
  | undefined
  | infinite (negative : Bool)
  | ratio (num : Int) (den : Nat)

namespace Magnitude

/-- The two numbers are equal; the undefined one equals nothing. -/
def same : Magnitude → Magnitude → Bool
  | .infinite a, .infinite b => a == b
  | .ratio n d, .ratio m e => n * e == m * d
  | _, _ => false

/-- The first number is smaller than the second. -/
def isBelow : Magnitude → Magnitude → Bool
  | .undefined, _ | _, .undefined => false
  | .infinite a, .infinite b => a && !b
  | .infinite a, .ratio _ _ => a
  | .ratio _ _, .infinite b => !b
  | .ratio n d, .ratio m e => n * e < m * d

/-- A floating-point number as a number. -/
def ofBinary64 (x : Binary64) : Magnitude :=
  match x, x.toRatio? with
  | .infinite negative, _ => .infinite negative
  | _, some (n, d) => .ratio n d
  | _, none => .undefined

/-- The number that a decimal text writes. -/
def ofDecimal (s : String) : Magnitude :=
  let (negative, body) := Text.takeSign s.toList
  match body, Decimal.take? body with
  | 'I' :: _, _ => .infinite negative
  | _, none => .undefined
  | _, some (d, _) =>
    let n : Int := if negative then -(d.digits : Int) else d.digits
    if 0 ≤ d.power then .ratio (n * Nat.pow 10 d.power.toNat) 1
    else .ratio n (Nat.pow 10 (-d.power).toNat)

end Magnitude

/-- The number that a value is. -/
def magnitude? : Value → Option Magnitude
  | .bool b => some (.ratio b.toNat 1)
  | .int i => some (.ratio i 1)
  | .float x => some (.ofBinary64 x)
  | .decimal s => some (.ofDecimal s)
  | _ => none

end CqlGateway.Value
