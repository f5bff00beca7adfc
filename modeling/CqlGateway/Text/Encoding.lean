/-!
# Texts as bytes

Decoding of byte strings.  `utf8Pieces` splits a byte string into the characters of its UTF-8 form
and the faulty stretches between them, each as long as it could have begun a character; what becomes
of a fault is up to the caller.  `decodeDetected` recognises UTF-8, UTF-16 and UTF-32 by a byte
order mark or by the zero bytes at the start.

A surrogate that stands alone is no character.  Where an encoding lets one through, it is read as
the replacement character.
-/

namespace CqlGateway.Text

/-- The character that stands for what cannot be represented. -/
def replacement : Char := Char.ofNat 0xFFFD

/-- Whether a number is a surrogate, half of a pair of UTF-16 units. -/
def isSurrogate (n : Nat) : Bool := 0xD800 ≤ n && n ≤ 0xDFFF

/-- The character of a code point, the replacement character for a surrogate. -/
def charOfCodePoint (n : Nat) : Char :=
  if isSurrogate n then replacement else Char.ofNat n

/-- The code point of a pair of surrogates. -/
def joinSurrogates (high low : Nat) : Nat :=
  0x10000 + (high - 0xD800) * 0x400 + (low - 0xDC00)

/-! ### UTF-8 -/

/-- A part of a byte string read as UTF-8. -/
inductive Utf8Piece where
  | char (c : Char)
  | fault (bytes : List UInt8)

/-- A character under way: the bytes read so far, last one first, the code point they have given,
the number of bytes to come, and the bounds of the next one. -/
structure Utf8State where
  pending : List UInt8 := []
  code : Nat := 0
  missing : Nat := 0
  low : Nat := 0x80
  high : Nat := 0xBF

/-- Begins a character with the byte `b`.  With `surrogates`, the three-byte forms of surrogates are
let through. -/
def Utf8State.start (surrogates : Bool) (b : UInt8) : Utf8State × List Utf8Piece :=
  let n := b.toNat
  if n < 0x80 then ({}, [.char (Char.ofNat n)])
  else if 0xC2 ≤ n && n ≤ 0xDF then ({ pending := [b], code := n - 0xC0, missing := 1 }, [])
  else if n == 0xE0 then ({ pending := [b], code := 0, missing := 2, low := 0xA0 }, [])
  else if n == 0xED && !surrogates then
    ({ pending := [b], code := 0xD, missing := 2, high := 0x9F }, [])
  else if 0xE1 ≤ n && n ≤ 0xEF then ({ pending := [b], code := n - 0xE0, missing := 2 }, [])
  else if n == 0xF0 then ({ pending := [b], code := 0, missing := 3, low := 0x90 }, [])
  else if 0xF1 ≤ n && n ≤ 0xF3 then ({ pending := [b], code := n - 0xF0, missing := 3 }, [])
  else if n == 0xF4 then ({ pending := [b], code := 4, missing := 3, high := 0x8F }, [])
  else ({}, [.fault [b]])

/-- What was read of a character that is not continued. -/
def Utf8State.abandon (s : Utf8State) : List Utf8Piece :=
  if s.pending.isEmpty then [] else [.fault s.pending.reverse]

/-- Reads one byte. -/
def Utf8State.next (surrogates : Bool) (s : Utf8State) (b : UInt8) : Utf8State × List Utf8Piece :=
  if s.missing == 0 then start surrogates b
  else if s.low ≤ b.toNat && b.toNat ≤ s.high then
    let code := s.code * 64 + (b.toNat - 0x80)
    if s.missing == 1 then ({}, [.char (charOfCodePoint code)])
    else ({ pending := b :: s.pending, code, missing := s.missing - 1 }, [])
  else
    let (s', pieces) := start surrogates b
    (s', s.abandon ++ pieces)

/-- The characters and the faults of a byte string read as UTF-8. -/
def utf8Pieces (surrogates : Bool) (bytes : List UInt8) : List Utf8Piece :=
  go {} [] bytes
where
  go (s : Utf8State) (done : List Utf8Piece) : List UInt8 → List Utf8Piece
    | [] => (s.abandon.reverse ++ done).reverse
    | b :: rest =>
      let (s', pieces) := s.next surrogates b
      go s' (pieces.reverse ++ done) rest

/-- A byte string without faults as UTF-8; surrogates are let through. -/
def decodeUtf8? (bytes : List UInt8) : Option (List Char) :=
  (utf8Pieces true bytes).mapM fun
    | .char c => some c
    | .fault _ => none

/-- The UTF-8 form of a text. -/
def utf8Bytes (s : String) : List UInt8 :=
  s.toUTF8.toList

/-! ### Wider units -/

/-- The order of the bytes of a unit. -/
inductive ByteOrder where
  | bigEndian
  | littleEndian

/-- The numbers that bytes form in groups of two. -/
def units16? (order : ByteOrder) (bytes : List UInt8) : Option (List Nat) :=
  go [] bytes
where
  go (done : List Nat) : List UInt8 → Option (List Nat)
    | [] => some done.reverse
    | [_] => none
    | a :: b :: rest =>
      let n := match order with
        | .bigEndian => a.toNat * 256 + b.toNat
        | .littleEndian => b.toNat * 256 + a.toNat
      go (n :: done) rest

/-- The characters of UTF-16 units. -/
def ofUnits16 (units : List Nat) : List Char :=
  go none [] units
where
  go (high? : Option Nat) (done : List Char) : List Nat → List Char
    | [] => ((high?.map fun _ => replacement).toList ++ done).reverse
    | u :: rest =>
      match high? with
      | some high =>
        if 0xDC00 ≤ u && u ≤ 0xDFFF then go none (Char.ofNat (joinSurrogates high u) :: done) rest
        else if 0xD800 ≤ u && u ≤ 0xDBFF then go (some u) (replacement :: done) rest
        else go none (Char.ofNat u :: replacement :: done) rest
      | none =>
        if 0xD800 ≤ u && u ≤ 0xDBFF then go (some u) done rest
        else go none (charOfCodePoint u :: done) rest

/-- A byte string read as UTF-16. -/
def decodeUtf16? (order : ByteOrder) (bytes : List UInt8) : Option (List Char) :=
  (units16? order bytes).map ofUnits16

/-- A byte string read as UTF-32. -/
def decodeUtf32? (order : ByteOrder) (bytes : List UInt8) : Option (List Char) :=
  (units16? order bytes).bind (go [])
where
  go (done : List Char) : List Nat → Option (List Char)
    | [] => some done.reverse
    | [_] => none
    | a :: b :: rest =>
      let n := match order with
        | .bigEndian => a * 0x10000 + b
        | .littleEndian => b * 0x10000 + a
      if n ≤ 0x10FFFF then go (charOfCodePoint n :: done) rest else none

/-! ### Detection -/

/-- A byte string in one of the encodings of Unicode.  A byte order mark names the encoding and is
dropped; without one the zero bytes among the first four tell. -/
def decodeDetected? (bytes : List UInt8) : Option (List Char) :=
  match bytes with
  | 0x00 :: 0x00 :: 0xFE :: 0xFF :: rest => decodeUtf32? .bigEndian rest
  | 0xFF :: 0xFE :: 0x00 :: 0x00 :: rest => decodeUtf32? .littleEndian rest
  | 0xFE :: 0xFF :: rest => decodeUtf16? .bigEndian rest
  | 0xFF :: 0xFE :: rest => decodeUtf16? .littleEndian rest
  | 0xEF :: 0xBB :: 0xBF :: rest => decodeUtf8? rest
  | a :: b :: c :: d :: _ =>
    if a == 0 then
      if b == 0 then decodeUtf32? .bigEndian bytes else decodeUtf16? .bigEndian bytes
    else if b == 0 then
      if c == 0 && d == 0 then decodeUtf32? .littleEndian bytes
      else decodeUtf16? .littleEndian bytes
    else decodeUtf8? bytes
  | [a, b] =>
    if a == 0 then decodeUtf16? .bigEndian bytes
    else if b == 0 then decodeUtf16? .littleEndian bytes
    else decodeUtf8? bytes
  | _ => decodeUtf8? bytes

end CqlGateway.Text
