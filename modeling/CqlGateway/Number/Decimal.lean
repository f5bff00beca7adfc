import CqlGateway.Number.Binary64
import CqlGateway.Text.Numeral

/-!
# Decimal numbers

The parts of a decimal number at the start of a text: the whole part, the digits after the point,
and the exponent.  The digits are those of ASCII.
-/

namespace CqlGateway

namespace Decimal

/-- The digits of the whole part of a number: a single zero, or digits that begin with another one.
-/
def takeWhole : List Char → Option (List Char × List Char)
  | '0' :: rest => some (['0'], rest)
  | cs =>
    match cs.takeWhile Char.isDigit with
    | [] => none
    | digits => some (digits, cs.dropWhile Char.isDigit)

/-- The digits after a decimal point, none if there is no point with a digit after it. -/
def takeFraction : List Char → List Char × List Char
  | '.' :: rest =>
    match rest.takeWhile Char.isDigit with
    | [] => ([], '.' :: rest)
    | digits => (digits, rest.dropWhile Char.isDigit)
  | cs => ([], cs)

/-- The number that digits write. -/
def digitsValue (digits : List Char) : Nat :=
  Text.ofDigits (digits.filterMap Text.digitValue?)

/-- The exponent of a number, if there is a complete one. -/
def takeExponent : List Char → Option (Int × List Char)
  | e :: rest =>
    if e == 'e' || e == 'E' then
      let (negative, digits) := Text.takeSign rest
      match digits.takeWhile Char.isDigit with
      | [] => none
      | ds =>
        let n : Int := digitsValue ds
        some (if negative then -n else n, digits.dropWhile Char.isDigit)
    else none
  | [] => none

/-! ### What the parts leave -/

theorem suffix_of_takeWhole {cs digits rest : List Char} (h : takeWhole cs = some (digits, rest)) :
    rest <:+ cs := by
  rw [takeWhole.eq_def] at h
  split at h
  · cases h
    exact List.suffix_cons _ _
  · split at h
    · cases h
    · cases h
      exact List.dropWhile_suffix _

theorem suffix_takeFraction (cs : List Char) : (takeFraction cs).2 <:+ cs := by
  rw [takeFraction.eq_def]
  split
  · split
    · exact List.suffix_rfl
    · exact (List.dropWhile_suffix _).trans (List.suffix_cons _ _)
  · exact List.suffix_rfl

theorem suffix_of_takeExponent {cs rest : List Char} {n : Int}
    (h : takeExponent cs = some (n, rest)) : rest <:+ cs := by
  rw [takeExponent.eq_def] at h
  split at h
  · next e tail =>
    split at h
    · dsimp only at h
      split at h
      · cases h
      · cases h
        exact ((List.dropWhile_suffix _).trans (Text.suffix_takeSign tail)).trans
          (List.suffix_cons _ _)
    · cases h
  · cases h

end Decimal

/-- A decimal number without its sign, as it is written at the start of a text. -/
structure Decimal where
  whole : List Char
  fraction : List Char
  exponent? : Option Int

namespace Decimal

/-- The decimal number at the start of a text, with what follows it. -/
def take? (cs : List Char) : Option (Decimal × List Char) :=
  (takeWhole cs).map fun (whole, afterWhole) =>
    let (fraction, afterFraction) := takeFraction afterWhole
    match takeExponent afterFraction with
    | some (exponent, rest) => (⟨whole, fraction, some exponent⟩, rest)
    | none => (⟨whole, fraction, none⟩, afterFraction)

theorem suffix_of_take? {cs rest : List Char} {d : Decimal} (h : take? cs = some (d, rest)) :
    rest <:+ cs := by
  rw [take?, Option.map_eq_some_iff] at h
  obtain ⟨⟨whole, afterWhole⟩, hwhole, hrest⟩ := h
  refine List.IsSuffix.trans ?_ (suffix_of_takeWhole hwhole)
  dsimp only at hrest
  split at hrest
  · next exponent after hexponent =>
    cases hrest
    exact (suffix_of_takeExponent hexponent).trans (suffix_takeFraction afterWhole)
  · cases hrest
    exact suffix_takeFraction afterWhole

/-- A number begins with a digit. -/
theorem isDigit_of_take? {c : Char} {cs rest : List Char} {d : Decimal}
    (h : take? (c :: cs) = some (d, rest)) : c.isDigit = true := by
  rw [take?, Option.map_eq_some_iff] at h
  obtain ⟨⟨whole, afterWhole⟩, hwhole, -⟩ := h
  rw [takeWhole.eq_def] at hwhole
  split at hwhole
  · next hzero =>
    cases hzero
    rfl
  · cases hc : c.isDigit with
    | true => rfl
    | false =>
      rw [List.takeWhile_cons_of_neg (by simp [hc])] at hwhole
      cases hwhole

/-- The number has neither a fraction nor an exponent. -/
def isWhole (d : Decimal) : Bool :=
  d.fraction.isEmpty && d.exponent?.isNone

/-- The number is `digits * 10 ^ power`. -/
def digits (d : Decimal) : Nat :=
  digitsValue (d.whole ++ d.fraction)

/-- The number is `digits * 10 ^ power`. -/
def power (d : Decimal) : Int :=
  d.exponent?.getD 0 - d.fraction.length

end Decimal

/-- The number that a text writes: a decimal number with an optional sign, `inf` or `nan`. -/
def Binary64.ofText? (s : String) : Option Binary64 :=
  let (negative, body) := Text.takeSign s.toList
  if body == "inf".toList then some (.infinite negative)
  else if body == "nan".toList then some .nan
  else match Decimal.take? body with
    | some (d, []) => some (.ofDecimal negative d.digits d.power)
    | _ => none

end CqlGateway
