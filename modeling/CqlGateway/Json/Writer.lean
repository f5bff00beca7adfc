import CqlGateway.Json.Tree
import CqlGateway.Number.Shortest
import CqlGateway.Text.Hex
import CqlGateway.Text.Numeral

/-!
# Writing JSON

JSON texts in ASCII: every other character is written as the escapes of its UTF-16 units.  The
non-finite numbers are written `NaN`, `Infinity` and `-Infinity`, which the reader accepts.

A value with an integer of too many digits should not be written (`Json.holdsOverlong`).
-/

namespace CqlGateway.Json

/-- The escape of a UTF-16 unit. -/
def escapeUnit (unit : Nat) : List Char :=
  '\\' :: 'u' :: Text.toHex 4 unit

/-- One character inside a string. -/
def escapeChar (c : Char) : List Char :=
  let n := c.toNat
  if c == '"' || c == '\\' then ['\\', c]
  else if c == '\n' then ['\\', 'n']
  else if c == '\r' then ['\\', 'r']
  else if c == '\t' then ['\\', 't']
  else if 0x20 ≤ n && n ≤ 0x7E then [c]
  else if n < 0x10000 then escapeUnit n
  else
    let m := n - 0x10000
    escapeUnit (0xD800 + m / 0x400) ++ escapeUnit (0xDC00 + m % 0x400)

/-- A string between quotes. -/
def writeString (s : String) : String :=
  String.ofList ('"' :: (s.toList.flatMap escapeChar ++ ['"']))

/-- The text of a floating-point number. -/
def floatText : Binary64 → String
  | .nan => "NaN"
  | .infinite negative => if negative then "-Infinity" else "Infinity"
  | x => x.text

mutual

/-- Appends the text of a value. -/
def writeOnto (out : String) : Json → String
  | .null => out ++ "null"
  | .bool b => out ++ (if b then "true" else "false")
  | .int i => out ++ toString i
  | .float x => out ++ floatText x
  | .str s => out ++ writeString s
  | .arr items => (writeItems (out.push '[') true items).push ']'
  | .obj members => (writeMembers (out.push '\x7b') true members).push '\x7d'

/-- Appends the items of an array, with a comma before each but the first. -/
def writeItems (out : String) (first : Bool) : List Json → String
  | [] => out
  | v :: rest => writeItems (writeOnto (if first then out else out.push ',') v) false rest

/-- Appends the members of an object, with a comma before each but the first. -/
def writeMembers (out : String) (first : Bool) : List (String × Json) → String
  | [] => out
  | (name, v) :: rest =>
    let named := (if first then out else out.push ',') ++ writeString name
    writeMembers (writeOnto (named.push ':') v) false rest

end

/-- The text of a value. -/
def write (v : Json) : String :=
  writeOnto "" v

mutual

/-- An integer in the value has more digits than a number may have. -/
def holdsOverlong : Json → Bool
  | .int i => Text.isOverlong i
  | .arr items => itemsHoldOverlong items
  | .obj members => membersHoldOverlong members
  | _ => false

/-- An integer in an item of an array has more digits than a number may have. -/
def itemsHoldOverlong : List Json → Bool
  | [] => false
  | v :: rest => holdsOverlong v || itemsHoldOverlong rest

/-- An integer in a member of an object has more digits than a number may have. -/
def membersHoldOverlong : List (String × Json) → Bool
  | [] => false
  | (_, v) :: rest => holdsOverlong v || membersHoldOverlong rest

end

end CqlGateway.Json
