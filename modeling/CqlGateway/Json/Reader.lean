import CqlGateway.Json.Tree
import CqlGateway.Number.Decimal
import CqlGateway.Text.Encoding
import CqlGateway.Text.Hex

/-!
# Reading JSON

The grammar of JSON with the non-finite numbers `NaN`, `Infinity` and `-Infinity` added.  Only
space, tab and line ends are white space; control characters inside strings are refused; a number of
more than `Text.maxDigits` digits without a fraction is refused.

Reading a container, which is an array or an object, takes a nested call, so containers are read
inside each other as deep as the stack has room for calls.  The room is a parameter of the reader:
it is smaller the more calls are under way.  `readValue` is recursive in it.  The loop over the
entries of a container, which are the items of an array or the members of an object, takes a bound
on their number, for which the length of the text serves.
-/

namespace CqlGateway.Json

/-- The two kinds of values that nest. -/
inductive Container where
  | array
  | object
  deriving DecidableEq, Repr

/-- Why a text is not read. -/
inductive ReadError where
  /-- The text is not of the grammar. -/
  | malformed
  /-- An integer has too many digits. -/
  | numberTooLong (digits : Nat)
  /-- A container stands deeper than there is room for. -/
  | tooDeep (container : Container)
  deriving DecidableEq, Repr

/-- A value with the text that follows it, or an error. -/
abbrev Step (α : Type) := Except ReadError (α × List Char)

/-- White space between tokens. -/
def isSpace (c : Char) : Bool :=
  c == ' ' || c == '\t' || c == '\n' || c == '\r'

/-- The text from the next token on. -/
def skipSpace (cs : List Char) : List Char :=
  cs.dropWhile isSpace

/-- What follows `word` at the start of the text. -/
def dropLiteral? (word : String) (cs : List Char) : Option (List Char) :=
  if word.toList.isPrefixOf cs then some (cs.drop word.length) else none

/-! ### Strings

A text holds no surrogates, so an escape of a surrogate that has no partner is read as the
replacement character U+FFFD.  Strings that differ in such escapes alone are therefore read as equal
texts, though they name code units that differ.
-/

/-- The place inside a string: between characters, after a backslash, or inside a hexadecimal escape
with some digits to come and the value of those read. -/
inductive StringState where
  | plain
  | escape
  | hex (missing value : Nat)

/-- The character that a short escape names. -/
def shortEscape? : Char → Option Char
  | '"' => some '"'
  | '\\' => some '\\'
  | '/' => some '/'
  | 'b' => some (Char.ofNat 8)
  | 'f' => some (Char.ofNat 12)
  | 'n' => some '\n'
  | 'r' => some '\r'
  | 't' => some '\t'
  | _ => none

/-- The characters read, last one first, with a high surrogate that found no partner. -/
def flush (high? : Option Nat) (done : List Char) : List Char :=
  if high?.isSome then Text.replacement :: done else done

/-- The code unit of a hexadecimal escape, joined to a high surrogate before it. -/
def pushUnit (high? : Option Nat) (done : List Char) (unit : Nat) : Option Nat × List Char :=
  match high? with
  | some high =>
    if 0xDC00 ≤ unit && unit ≤ 0xDFFF then
      (none, Char.ofNat (Text.joinSurrogates high unit) :: done)
    else if 0xD800 ≤ unit && unit ≤ 0xDBFF then (some unit, Text.replacement :: done)
    else (none, Char.ofNat unit :: Text.replacement :: done)
  | none =>
    if 0xD800 ≤ unit && unit ≤ 0xDBFF then (some unit, done)
    else (none, Text.charOfCodePoint unit :: done)

/-- Reads a string from after its opening quote to its closing one. -/
def readString (state : StringState) (high? : Option Nat) (done : List Char) :
    List Char → Step String
  | [] => .error .malformed
  | c :: rest =>
    match state with
    | .plain =>
      if c == '"' then .ok (String.ofList (flush high? done).reverse, rest)
      else if c == '\\' then readString .escape high? done rest
      else if c.toNat < 0x20 then .error .malformed
      else readString .plain none (c :: flush high? done) rest
    | .escape =>
      if c == 'u' then readString (.hex 4 0) high? done rest
      else match shortEscape? c with
        | some d => readString .plain none (d :: flush high? done) rest
        | none => .error .malformed
    | .hex missing value =>
      match Text.hexValue? c with
      | none => .error .malformed
      | some d =>
        let unit := value * 16 + d
        if missing ≤ 1 then
          let (high', done') := pushUnit high? done unit
          readString .plain high' done' rest
        else readString (.hex (missing - 1) unit) high? done rest

/-! ### Numbers -/

/-- Reads a number without its sign. -/
def readNumber (negative : Bool) (cs : List Char) : Step Json :=
  match Decimal.take? cs with
  | none => .error .malformed
  | some (d, rest) =>
    if d.isWhole then
      if Text.maxDigits < d.whole.length then .error (.numberTooLong d.whole.length)
      else
        let n : Int := d.digits
        .ok (.int (if negative then -n else n), rest)
    else .ok (.float (.ofDecimal negative d.digits d.power), rest)

/-! ### Scalars -/

/-- The words that stand for a value. -/
def words : List (String × Json) :=
  [("null", .null), ("true", .bool true), ("false", .bool false), ("NaN", .float .nan),
    ("Infinity", .float (.infinite false)), ("-Infinity", .float (.infinite true))]

/-- Reads a word. -/
def readWord? (cs : List Char) : Option (Json × List Char) :=
  words.findSome? fun w => (dropLiteral? w.1 cs).map fun rest => (w.2, rest)

/-- Reads a value that is no container. -/
def readScalar (cs : List Char) : Step Json :=
  match cs with
  | '"' :: rest => (readString .plain none [] rest).map fun r => (.str r.1, r.2)
  | _ =>
    match readWord? cs with
    | some r => .ok r
    | none =>
      match cs with
      | '-' :: rest => readNumber true rest
      | _ => readNumber false cs

/-! ### Containers -/

/-- Reads the entries of a container from the first one to the closing bracket. -/
def readEntries {α : Type} (entry : List Char → Step α) (closing : Char) :
    Nat → List α → List Char → Step (List α)
  | 0, _, _ => .error .malformed
  | fuel + 1, done, cs =>
    match entry cs with
    | .error e => .error e
    | .ok (a, rest) =>
      match skipSpace rest with
      | ',' :: more => readEntries entry closing fuel (a :: done) (skipSpace more)
      | c :: after =>
        if c == closing then .ok ((a :: done).reverse, after) else .error .malformed
      | [] => .error .malformed

/-- Reads what stands between the brackets of a container, and the closing one. -/
def readEnclosed {α : Type} (entry : List Char → Step α) (closing : Char) (fuel : Nat)
    (cs : List Char) : Step (List α) :=
  match skipSpace cs with
  | [] => .error .malformed
  | c :: after =>
    if c == closing then .ok ([], after) else readEntries entry closing fuel [] (c :: after)

/-- Reads the name of a member and the value after it. -/
def readMember (value : List Char → Step Json) (cs : List Char) : Step (String × Json) :=
  match cs with
  | '"' :: named =>
    match readString .plain none [] named with
    | .error e => .error e
    | .ok (name, afterName) =>
      match skipSpace afterName with
      | ':' :: valued => (value (skipSpace valued)).map fun r => ((name, r.1), r.2)
      | _ => .error .malformed
  | _ => .error .malformed

/-- Reads a value.  No container has more than `fuel` entries; the second number is the room for
containers inside each other. -/
def readValue (fuel : Nat) : Nat → List Char → Step Json
  | 0, cs =>
    match cs with
    | '[' :: _ => .error (.tooDeep .array)
    | '\x7b' :: _ => .error (.tooDeep .object)
    | _ => readScalar cs
  | room + 1, cs =>
    match cs with
    | '[' :: rest =>
      (readEnclosed (readValue fuel room) ']' fuel rest).map fun r => (.arr r.1, r.2)
    | '\x7b' :: rest =>
      (readEnclosed (readMember (readValue fuel room)) '\x7d' fuel rest).map
        fun r => (.obj r.1, r.2)
    | _ => readScalar cs

/-- The value that a list of characters writes, with white space around it. -/
def readChars (room : Nat) (cs : List Char) : Except ReadError Json :=
  match readValue cs.length room (skipSpace cs) with
  | .error e => .error e
  | .ok (value, rest) => if (skipSpace rest).isEmpty then .ok value else .error .malformed

/-- The value that a text writes; a text that begins with a byte order mark is refused. -/
def readText (room : Nat) (s : String) : Except ReadError Json :=
  let cs := s.toList
  if cs.head? == some (Char.ofNat 0xFEFF) then .error .malformed else readChars room cs

/-- The value that a byte string writes in one of the encodings of Unicode. -/
def readBytes (room : Nat) (bytes : List UInt8) : Except ReadError Json :=
  match Text.decodeDetected? bytes with
  | none => .error .malformed
  | some cs => readChars room cs

end CqlGateway.Json
