import CqlGateway.Metadata.Template
import CqlGateway.Session.Execution
import CqlGateway.Settings
import CqlGateway.Value.Magnitude

/-!
# Detecting the generation

The generation of the store is either prescribed by a number or told by the version of the store,
whose major number stands in front of the first dot.  A prescription that is no generation is passed
over with a report; a version that cannot be read means the older generation.

The text of a version is taken from the total `Value.display`.  An integer that is too long to be
written makes no difference, since it is no version that can be read; but the depth of the stack is
left out: a version that is a collection nested so deep that its text exhausts the stack would be a
failure of the detection, which no handler turns into the older generation.
-/

namespace CqlGateway

/-! ### Prescribed generations -/

/-- The characters of a byte string of ASCII; other bytes become no digits or blanks. -/
def asciiChars (bytes : List UInt8) : List Char :=
  bytes.map fun b => if b < 0x80 then Char.ofNat b.toNat else Text.replacement

/-- The number in 128 bits that a UUID is. -/
def uuidNumber (s : String) : Int :=
  (Text.ofHex? (s.toList.filter (· != '-'))).getD 0

/-- The integer part of a value, none if there is none; a value of a type without integer parts, or
an infinite number, is a failure. -/
def integerPart? (v : Value) : Except Failure (Option Int) :=
  let ofChars (cs : List Char) : Option Int := (Text.readInteger cs).toOption
  match v with
  | .text s => .ok (ofChars s.toList)
  | .bytes b | .buffer b => .ok (ofChars (asciiChars b))
  | .bool b => .ok (some b.toNat)
  | .int i => .ok (some i)
  | .float (.infinite _) => .error .infiniteFloat
  | .float x => .ok x.truncate?
  | .decimal s =>
    match Value.Magnitude.ofDecimal s with
    | .infinite _ => .error .infiniteDecimal
    | .undefined => .ok none
    | .ratio num den => .ok (some (Int.tdiv num den))
  | .uuid s => .ok (some (uuidNumber s))
  | _ => .error (.notNumeric v.qualifiedTypeName)

/-- The generation that a value prescribes; a value that is not given prescribes none. -/
def prescribedGeneration (v : Value) : Outcome (Option Generation) :=
  if !v.isTruthy then pure none
  else match integerPart? v with
    | .error e => .fail e
    | .ok n? =>
      match n?.bind Generation.ofNumber? with
      | some g => pure (some g)
      | none => do
        .report (.overrideIgnored v.display)
        pure none

/-! ### Versions -/

/-- The number in front of the first dot of the text of a version. -/
def majorVersion? (version : Value) : Option Int :=
  (Text.readInteger (version.display.toList.takeWhile (· != '.'))).toOption

/-- The generation of the store that a session reaches, by its version. -/
def releasedGeneration (ex : Executor) : Outcome Generation :=
  let cql := MetadataQuery.release.cql
  let stream := ex.stream cql
  let statements := [ex.sent cql stream.rows.length]
  match stream.interruption? with
  | some f => { result := .ok .v1, statements, events := [.releaseUnavailable f.text] }
  | none =>
    let version := ((stream.rows.head?.bind List.head?).map Cell.value).getD .null
    match majorVersion? version with
    | none => { result := .ok .v1, statements, events := [.releaseUnreadable version.quotedText] }
    | some n =>
      let g := Generation.ofMajorVersion n
      { result := .ok g, statements, events := [.releaseRead version.display g] }

/-- The generation that is prescribed, else that of the version. -/
def detectGeneration (ex : Executor) (prescription : Value) : Outcome Generation := do
  match ← prescribedGeneration prescription with
  | some g => pure g
  | none => releasedGeneration ex

/-- The generation under settings, which prescribe one where nothing else does. -/
def Settings.generation (settings : Settings) (override : Value) (ex : Executor) :
    Outcome Generation :=
  detectGeneration ex (if override.isNull then .text settings.engineGeneration else override)

end CqlGateway
