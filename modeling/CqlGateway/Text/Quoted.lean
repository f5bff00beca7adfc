import CqlGateway.Text.Blank
import CqlGateway.Text.Hex
import CqlGateway.Text.Table.Hidden

/-!
# Quoted text

Texts and byte strings as they stand in messages and inside the text of a collection: between
quotes, with everything that has no visible form escaped.  The single quote is used unless the text
holds a single quote and no double quote.
-/

namespace CqlGateway.Text

/-- The character is shown as it is. -/
def isVisible (c : Char) : Bool :=
  let n := c.toNat
  if n < 0x80 then 0x20 ≤ n && n < 0x7F else !inRanges hiddenRanges n

/-- The quote that needs the fewest escapes, the single one if both do. -/
def chooseQuote (cs : List Char) : Char :=
  if cs.contains '\'' && !cs.contains '"' then '"' else '\''

/-- One character between the quotes `quote`. -/
def escapeChar (quote c : Char) : List Char :=
  let n := c.toNat
  if c == quote || c == '\\' then ['\\', c]
  else if c == '\t' then ['\\', 't']
  else if c == '\n' then ['\\', 'n']
  else if c == '\r' then ['\\', 'r']
  else if isVisible c then [c]
  else if n < 0x100 then '\\' :: 'x' :: toHex 2 n
  else if n < 0x10000 then '\\' :: 'u' :: toHex 4 n
  else '\\' :: 'U' :: toHex 8 n

/-- The characters between quotes. -/
def quoteChars (cs : List Char) : List Char :=
  let quote := chooseQuote cs
  quote :: (cs.flatMap (escapeChar quote) ++ [quote])

/-- A text between quotes. -/
def quoted (s : String) : String :=
  String.ofList (quoteChars s.toList)

/-- One byte between the quotes `quote`; bytes outside ASCII are always escaped. -/
def escapeByte (quote : Char) (b : UInt8) : List Char :=
  if b < 0x80 then escapeChar quote (Char.ofNat b.toNat) else '\\' :: 'x' :: toHex 2 b.toNat

/-- The quotes that suit a byte string. -/
def chooseBytesQuote (bytes : List UInt8) : Char :=
  chooseQuote (bytes.map fun b => Char.ofNat b.toNat)

/-- A byte string between quotes, marked by a leading `b`. -/
def quotedBytes (bytes : List UInt8) : String :=
  let quote := chooseBytesQuote bytes
  String.ofList ('b' :: quote :: (bytes.flatMap (escapeByte quote) ++ [quote]))

/-- A byte string between quotes with single quotes escaped also where double quotes enclose it. -/
def quotedBuffer (bytes : List UInt8) : String :=
  let quote := chooseBytesQuote bytes
  let escape (b : UInt8) : List Char := if b == 0x27 then ['\\', '\''] else escapeByte quote b
  String.ofList ('b' :: quote :: (bytes.flatMap escape ++ [quote]))

end CqlGateway.Text
