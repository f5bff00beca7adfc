import CqlGateway.Number.Binary64

/-!
# Shortest decimal text of a floating-point number

A finite number is written with the fewest significant digits that read back as the same number; of
several texts of that length the one nearest to the number.  The numbers that read back as a given
one form an interval, whose ends belong to it exactly if the mantissa is even; for one digit more
each time, the two neighbours of the number on the decimal grid are tried.

Numbers whose first digit stands at most sixteen places before the point or three places after the
first decimal are written positionally, always with a point; all others with an exponent of at least
two digits.
-/

namespace CqlGateway

namespace Binary64

/-! ### Digits -/

/-- The numbers between `low` and `high`, over the common denominator `den`, read back as `value`.
-/
structure ReadBack where
  low : Nat
  value : Nat
  high : Nat
  den : Nat
  closed : Bool

/-- The interval of a positive number.  Below a power of two the numbers lie twice as dense. -/
def readBack (mantissa : Nat) (exponent : Int) : ReadBack :=
  let below := if mantissa == leastMantissa && minExponent < exponent then 1 else 2
  let shift := exponent - 2
  let scale := if 0 ≤ shift then 1 <<< shift.toNat else 1
  { low := (4 * mantissa - below) * scale
    value := 4 * mantissa * scale
    high := (4 * mantissa + 2) * scale
    den := if 0 ≤ shift then 1 else 1 <<< (-shift).toNat
    closed := mantissa % 2 == 0 }

/-- The fraction `num / den` multiplied by a power of ten, as a fraction. -/
def scaleByTen (num den : Nat) (power : Int) : Nat × Nat :=
  if 0 ≤ power then (num * Nat.pow 10 power.toNat, den) else (num, den * Nat.pow 10 (-power).toNat)

/-- The number of digits before the decimal point of `num / den`; zero and below count the zeros
after the point. -/
def pointPosition (num den : Nat) : Int :=
  let guess := ((num.log2 : Int) - den.log2) * 30103 / 100000
  let isBelow (p : Int) : Bool := let (n, d) := scaleByTen num den (-p); n < d
  ([guess - 1, guess, guess + 1, guess + 2].find? isBelow).getD guess

/-- The point `k` of the grid with unit `10 ^ unit` reads back. -/
def ReadBack.contains (r : ReadBack) (unit : Int) (k : Nat) : Bool :=
  let (n, d) := scaleByTen k 1 unit
  let low := r.low * d
  let point := n * r.den
  let high := r.high * d
  if r.closed then low ≤ point && point ≤ high else low < point && point < high

/-- The neighbour on the grid with unit `10 ^ unit` that reads back, the nearer one if both do. -/
def ReadBack.gridPoint? (r : ReadBack) (unit : Int) : Option Nat :=
  let (n, d) := scaleByTen r.value r.den (-unit)
  let k := n / d
  let twice := 2 * (n % d)
  match r.contains unit k, r.contains unit (k + 1) with
  | true, false => some k
  | false, true => some (k + 1)
  | true, true => some (if twice < d || (twice == d && k % 2 == 0) then k else k + 1)
  | false, false => none

/-- The shortest digits, without zeros at their end, and the position of the decimal point. -/
def shortestDigits (mantissa : Nat) (exponent : Int) : List Char × Int :=
  let r := readBack mantissa exponent
  let p := pointPosition r.value r.den
  let hit := (List.range 17).findSome? fun (i : Nat) =>
    let unit := p - (i + 1)
    (r.gridPoint? unit).map fun k => (k, unit)
  let (k, unit) := hit.getD (0, 0)
  let digits := Nat.toDigits 10 k
  ((digits.reverse.dropWhile (· == '0')).reverse, unit + digits.length)

/-! ### Layout -/

/-- The digits with a decimal point after the first `point` of them. -/
def positional (digits : List Char) (point : Int) : List Char :=
  if point ≤ 0 then '0' :: '.' :: (List.replicate (-point).toNat '0' ++ digits)
  else if (digits.length : Int) ≤ point then
    digits ++ List.replicate (point.toNat - digits.length) '0' ++ ['.', '0']
  else digits.take point.toNat ++ '.' :: digits.drop point.toNat

/-- The digits with the point after the first one and an exponent of at least two digits. -/
def scientific (digits : List Char) (point : Int) : List Char :=
  let power := point - 1
  let sign := if power < 0 then '-' else '+'
  let exponent := Nat.toDigits 10 power.natAbs
  let padded := if exponent.length < 2 then '0' :: exponent else exponent
  let fraction := match digits.drop 1 with
    | [] => []
    | rest => '.' :: rest
  digits.take 1 ++ fraction ++ 'e' :: sign :: padded

/-- The text of a number. -/
def text : Binary64 → String
  | .nan => "nan"
  | .infinite negative => if negative then "-inf" else "inf"
  | .finite negative mantissa exponent =>
    let body :=
      if mantissa == 0 then ['0', '.', '0'] else
        let (digits, point) := shortestDigits mantissa exponent
        if -4 < point && point ≤ 16 then positional digits point else scientific digits point
    String.ofList (if negative then '-' :: body else body)

end Binary64

end CqlGateway
