import CqlGateway.Text.Blank
import CqlGateway.Text.Table.Digits

/-!
# Integers in texts

An integer is written as an optional sign and decimal digits of any script, with single underscores
allowed between digits and blanks allowed around the whole.  `readInteger` also refuses numbers of
more than `maxDigits` digits, leading zeros counted, before it looks at what follows the digits.  No
integer of more digits is written either (`isOverlong`).
-/

namespace CqlGateway.Text

/-- The value of a decimal digit of any script. -/
def digitValue? (c : Char) : Option Nat :=
  let n := c.toNat
  if n < 0x80 then if c.isDigit then some (n - 0x30) else none
  else (digitZeros.find? fun first => first ≤ n && n ≤ first + 9).map (n - ·)

/-- Blanks around a number: the information separators of ASCII are none. -/
def isNumeralBlank (c : Char) : Bool :=
  isBlank c && !(0x1C ≤ c.toNat && c.toNat ≤ 0x1F)

/-- The most digits that a number may have. -/
def maxDigits : Nat := 4300

/-- The integer has more digits than a number may have. -/
def isOverlong (i : Int) : Bool :=
  maxDigits < (Nat.toDigits 10 i.natAbs).length

/-- Why a text is no integer. -/
inductive NumeralError where
  /-- The text is not of the form of an integer. -/
  | malformed
  /-- The number has too many digits. -/
  | tooLong (digits : Nat)
  deriving DecidableEq, Repr

/-- Characters of which the body of a number consists. -/
def isNumeralChar (c : Char) : Bool :=
  c == '_' || (digitValue? c).isSome

/-- Underscores stand singly and between digits, and there is a digit. -/
def isGrouped : List Char → Bool
  | [] => false
  | ['_'] => false
  | [_] => true
  | c :: d :: rest => c != '_' && (if d == '_' then isGrouped rest else isGrouped (d :: rest))

/-- The number written by a list of digits. -/
def ofDigits (digits : List Nat) : Nat :=
  digits.foldl (fun n d => n * 10 + d) 0

/-- The sign in front of a number, and what follows it. -/
def takeSign : List Char → Bool × List Char
  | '-' :: rest => (true, rest)
  | '+' :: rest => (false, rest)
  | rest => (false, rest)

theorem suffix_takeSign (cs : List Char) : (takeSign cs).2 <:+ cs := by
  rw [takeSign.eq_def]
  split
  · exact List.suffix_cons _ _
  · exact List.suffix_cons _ _
  · exact List.suffix_rfl

/-- The integer that a list of characters writes. -/
def readInteger (cs : List Char) : Except NumeralError Int :=
  let (negative, rest) := takeSign (cs.dropWhile isNumeralBlank)
  let body := rest.takeWhile isNumeralChar
  let digits := body.filterMap digitValue?
  if !isGrouped body then .error .malformed
  else if maxDigits < digits.length then .error (.tooLong digits.length)
  else if !(rest.dropWhile isNumeralChar).all isNumeralBlank then .error .malformed
  else
    let n : Int := ofDigits digits
    .ok (if negative then -n else n)

end CqlGateway.Text
