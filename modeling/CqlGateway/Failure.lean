import CqlGateway.Json.Reader
import CqlGateway.Schema.NameClass
import CqlGateway.Session.Answer
import CqlGateway.Value.Basic

/-!
# Failures

The causes for which an operation gives no result, with one function, `Failure.message`, for the
wording.
-/

namespace CqlGateway

/-- The relations between two values that a comparison can ask for. -/
inductive Comparison where
  | lt
  | le
  | gt
  | ge
  deriving DecidableEq, Repr

/-- The sign of a comparison. -/
def Comparison.sign : Comparison → String
  | .lt => "<"
  | .le => "<="
  | .gt => ">"
  | .ge => ">="

/-- The comparison of the same values in the other order. -/
def Comparison.converse : Comparison → Comparison
  | .lt => .gt
  | .le => .ge
  | .gt => .lt
  | .ge => .le

/-- What a comparison says of two values of which the first one is below the second, is the same, or
is neither: `le` is "below or the same", `gt` is "neither below nor the same" and `ge` is "not
below". -/
def Comparison.judge (comparison : Comparison) (below same : Bool) : Bool :=
  match comparison with
  | .lt => below
  | .le => below || same
  | .gt => !below && !same
  | .ge => !below

/-- The bounds on what is read of a result. -/
inductive LimitName where
  | rows
  | columns
  | result
  deriving DecidableEq, Repr

/-- The name of a bound. -/
def LimitName.label : LimitName → String
  | .rows => "rows_limit"
  | .columns => "columns_limit"
  | .result => "result_limit"

/-- Why an operation gives no result. -/
inductive Failure where
  /-- A name is blank or no text. -/
  | blankName (cls : NameClass)
  /-- Values of two kinds, given by their names, have no order. -/
  | incomparable (comparison : Comparison) (left right : String)
  /-- A query holds nothing but blanks and semicolons. -/
  | emptyQuery
  /-- A bound is no positive integer. -/
  | notPositive (limit : LimitName) (value : Value)
  /-- There is no bound of this name. -/
  | unknownLimit (name : String)
  /-- A text is no integer. -/
  | badInteger (text : String)
  /-- An integer has too many digits. -/
  | integerTooLong (digits : Nat)
  /-- A value of this type was given where a text is trimmed. -/
  | notTrimmable (typeName : String)
  /-- A byte string was given where a text is trimmed of a semicolon. -/
  | bytesForText
  /-- A value of this type was given where JSON is read. -/
  | notJson (typeName : String)
  /-- A value of this type has no integer part. -/
  | notNumeric (typeName : String)
  /-- An infinite number has no integer part. -/
  | infiniteFloat
  /-- An infinite decimal number has no integer part. -/
  | infiniteDecimal
  /-- A value of this type is no key of a map. -/
  | notHashable (typeName : String)
  /-- An element that stands at this position and has this length is read as a key with its value.
  -/
  | notPair (position length : Nat)
  /-- An integer is looked for in a byte string, and is none of a byte. -/
  | notByte
  /-- An undefined decimal number has no order. -/
  | undefinedDecimal
  /-- A duration has too many days. -/
  | durationTooLong (days : Int)
  /-- A query string was given both in a reference and beside it. -/
  | queryGivenTwice
  /-- JSON is nested too deep. -/
  | nestedTooDeep (container : Json.Container)
  /-- An integer has too many digits to be written. -/
  | integerUnwritable
  /-- A value is nested too deep to be converted: the stack has no room for another call. -/
  | stackExhausted
  /-- A query could not be executed, or not be read to its end. -/
  | queryFailed (cql : String) (cause? : Option Fault)
  /-- The session raised a fault. -/
  | fault (fault : Fault)
  deriving Repr

namespace Failure

/-- The wording of a failed query; a query may fail for an unknown reason. -/
def queryMessage (cql : String) (cause? : Option Fault) : String :=
  "Error executing CQL: '" ++ cql ++ "', reason: " ++ (cause?.map Fault.text).getD "unknown"

/-- The wording of a failure. -/
def message : Failure → String
  | .blankName cls => cls.label ++ " requires a non-blank name"
  | .incomparable comparison left right =>
    "'" ++ comparison.sign ++ "' not supported between instances of '" ++ left ++ "' and '" ++
      right ++ "'"
  | .emptyQuery => "empty query"
  | .notPositive limit value =>
    limit.label ++ " must be a positive integer, got " ++ value.quotedText
  | .unknownLimit name =>
    "Limits.__init__() got an unexpected keyword argument '" ++ name ++ "'"
  | .badInteger text =>
    "invalid literal for int() with base 10: " ++
      String.ofList ((Text.quoteChars text.toList).take 200)
  | .integerTooLong digits =>
    "Exceeds the limit (" ++ toString Text.maxDigits ++
      " digits) for integer string conversion: value has " ++ toString digits ++
      " digits; use sys.set_int_max_str_digits() to increase the limit"
  | .notTrimmable typeName => "'" ++ typeName ++ "' object has no attribute 'strip'"
  | .bytesForText => "a bytes-like object is required, not 'str'"
  | .notJson typeName => "the JSON object must be str, bytes or bytearray, not " ++ typeName
  | .notNumeric typeName =>
    "int() argument must be a string, a bytes-like object or a real number, not '" ++ typeName ++
      "'"
  | .infiniteFloat => "cannot convert float infinity to integer"
  | .infiniteDecimal => "cannot convert Infinity to integer"
  | .notHashable typeName => "unhashable type: '" ++ typeName ++ "'"
  | .notPair position length =>
    "dictionary update sequence element #" ++ toString position ++ " has length " ++
      toString length ++ "; 2 is required"
  | .notByte => "byte must be in range(0, 256)"
  | .undefinedDecimal => "[<class 'decimal.InvalidOperation'>]"
  | .durationTooLong days =>
    "days=" ++ toString days ++ "; must have magnitude <= " ++ toString Duration.maxDays
  | .queryGivenTwice => "Query string is defined in the path and as an argument"
  | .nestedTooDeep container =>
    "maximum recursion depth exceeded while decoding a JSON " ++
      (match container with
        | .array => "array"
        | .object => "object") ++ " from a unicode string"
  | .integerUnwritable =>
    "Exceeds the limit (" ++ toString Text.maxDigits ++
      " digits) for integer string conversion; " ++
      "use sys.set_int_max_str_digits() to increase the limit"
  | .stackExhausted => "maximum recursion depth exceeded"
  | .queryFailed cql cause? => queryMessage cql cause?
  | .fault f => f.text

/-- Failures for which a value that was given is to blame. -/
def isBadValue : Failure → Bool
  | .blankName _ | .emptyQuery | .notPositive _ _ | .badInteger _ | .integerTooLong _
  | .notPair _ _ | .notByte | .queryGivenTwice | .integerUnwritable => true
  | .fault f => f.kind == .value
  | _ => false

end Failure

end CqlGateway
