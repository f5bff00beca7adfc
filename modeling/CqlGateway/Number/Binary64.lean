/-!
# Floating-point numbers of 64 bits

A number is kept as an exact value: a sign, a mantissa below 2⁵³ and a power of two, with the two
infinities and the undefined number beside them.  Every operation is exact integer arithmetic;
`ofRatio` is the one place that rounds, to the nearest number and to the even mantissa at a tie.
-/

namespace CqlGateway

/-- A floating-point number; `finite negative mantissa exponent` has the absolute value
`mantissa * 2 ^ exponent`. -/
inductive Binary64 where
  | nan
  | infinite (negative : Bool)
  | finite (negative : Bool) (mantissa : Nat) (exponent : Int)
  deriving DecidableEq, Repr, Inhabited

namespace Binary64

/-- The exponent of the smallest numbers. -/
def minExponent : Int := -1074

/-- The greatest exponent of a finite number. -/
def maxExponent : Int := 971

/-- The least mantissa of 53 bits.  Numbers with a smaller one have the smallest exponent. -/
def leastMantissa : Nat := 1 <<< 52

/-- Zero with a sign. -/
def ofZero (negative : Bool) : Binary64 :=
  .finite negative 0 minExponent

/-! ### Rounding -/

/-- The quotient of two positive numbers rounded to an integer, to the even one at a tie. -/
def roundDiv (num den : Nat) : Nat :=
  let q := num / den
  let twice := 2 * (num % den)
  if twice < den then q else if den < twice then q + 1 else q + q % 2

/-- The fraction `num / den` divided by a power of two, as a fraction. -/
def scaleDown (num den : Nat) (exponent : Int) : Nat × Nat :=
  if 0 ≤ exponent then (num, den <<< exponent.toNat) else (num <<< (-exponent).toNat, den)

/-- The exponent that leaves 53 bits of `num / den`, or the smallest one. -/
def chooseExponent (num den : Nat) : Int :=
  let guess : Int := (num.log2 : Int) - den.log2 - 52
  let (n, d) := scaleDown num den guess
  max minExponent (if n / d < leastMantissa then guess - 1 else guess)

/-- The number nearest to `num / den`. -/
def ofRatio (negative : Bool) (num den : Nat) : Binary64 :=
  if num == 0 then ofZero negative else
    let exponent := chooseExponent num den
    let (n, d) := scaleDown num den exponent
    let mantissa := roundDiv n d
    let (mantissa, exponent) :=
      if mantissa == 2 * leastMantissa then (leastMantissa, exponent + 1) else (mantissa, exponent)
    if maxExponent < exponent then .infinite negative else .finite negative mantissa exponent

/-- The number nearest to `digits * 10 ^ exponent`. -/
def ofDecimal (negative : Bool) (digits : Nat) (exponent : Int) : Binary64 :=
  let size : Int := (Nat.toDigits 10 digits).length + exponent
  if digits == 0 || size < -330 then ofZero negative
  else if 310 < size then .infinite negative
  else if 0 ≤ exponent then ofRatio negative (digits * Nat.pow 10 exponent.toNat) 1
  else ofRatio negative digits (Nat.pow 10 (-exponent).toNat)

/-! ### Views -/

/-- The number is zero, of either sign. -/
def isZero : Binary64 → Bool
  | .finite _ 0 _ => true
  | _ => false

/-- A finite number as a fraction with a positive denominator. -/
def toRatio? : Binary64 → Option (Int × Nat)
  | .finite negative mantissa exponent =>
    let num : Int := if negative then -(mantissa : Int) else mantissa
    some (if 0 ≤ exponent then (num <<< exponent.toNat, 1) else (num, 1 <<< (-exponent).toNat))
  | _ => none

/-- The integer between zero and a finite number that is nearest to the number. -/
def truncate? (x : Binary64) : Option Int :=
  x.toRatio?.map fun r => Int.tdiv r.1 r.2

end Binary64

end CqlGateway
