import CqlGateway.Failure
import CqlGateway.Http.Reference
import CqlGateway.Text.Hex

/-!
# Requests

An HTTP request with its path, query string and body as they were sent.  `Request.ofReference` makes
one for a reference, `decodedPath` is the path by which its route is found, and `parameter?` is the
first value of a parameter of the query string.

Percent escapes stand for bytes, and the bytes are read as UTF-8.  In a path a stretch that is no
UTF-8 becomes the replacement character; in a query string its bytes stay escaped.
-/

namespace CqlGateway.Http

/-- The methods that make a difference. -/
inductive Method where
  | get
  | head
  | options
  | post
  | other
  deriving DecidableEq, Repr

/-- The method of a name, in any case. -/
def Method.ofName (name : String) : Method :=
  match name.toUpper with
  | "GET" => .get
  | "HEAD" => .head
  | "OPTIONS" => .options
  | "POST" => .post
  | _ => .other

/-- A request. -/
structure Request where
  method : Method
  path : String
  query : String := ""
  body : String := ""

/-! ### Percent escapes -/

/-- The bytes of a text in which each percent sign with two hexadecimal digits stands for a byte. -/
def percentBytes : List Char → List UInt8
  | c :: a :: b :: rest =>
    match if c == '%' then Text.ofHex? [a, b] else none with
    | some n => UInt8.ofNat n :: percentBytes rest
    | none => Text.utf8Bytes (String.singleton c) ++ percentBytes (a :: b :: rest)
  | cs => Text.utf8Bytes (String.ofList cs)

/-- The characters of a text with percent escapes, and `fault` for stretches that are no UTF-8. -/
def percentDecode (fault : List UInt8 → List Char) (cs : List Char) : List Char :=
  (Text.utf8Pieces false (percentBytes cs)).flatMap fun
    | .char c => [c]
    | .fault bytes => fault bytes

/-- A percent escape in upper case. -/
def percentEscape (b : UInt8) : List Char :=
  '%' :: (Text.toHex 2 b.toNat).map Char.toUpper

/-! ### Splitting -/

/-- The parts of a list of characters between separators; there is always one part more than there
are separators. -/
def splitAt (separator : Char) (cs : List Char) : List (List Char) :=
  go [] [] cs
where
  go (part : List Char) (done : List (List Char)) : List Char → List (List Char)
    | [] => (part.reverse :: done).reverse
    | c :: rest =>
      if c == separator then go [] (part.reverse :: done) rest else go (c :: part) done rest

namespace Request

/-- The request for a reference.  The query string may be given apart from the reference, which then
must not hold one. -/
def ofReference (method : Method) (reference : String) (query? : Option String) (body : String) :
    Except Failure Request :=
  let r := Reference.resolve reference.toList
  match query? with
  | none => .ok { method, path := String.ofList r.path, query := String.ofList r.query, body }
  | some query =>
    if r.query.isEmpty then .ok { method, path := String.ofList r.path, query, body }
    else .error .queryGivenTwice

/-- The decoded path, with exactly one slash at its start. -/
def decodedPath (r : Request) : List Char :=
  '/' :: (percentDecode (fun _ => [Text.replacement]) r.path.toList).dropWhile (· == '/')

/-- The name and the value of a parameter, as they are written in a query string. -/
def splitParameter (part : List Char) : List Char × List Char :=
  (part.takeWhile (· != '='), (part.dropWhile (· != '=')).drop 1)

/-- A name or a value in a query string, where a plus sign stands for a space. -/
def decodeParameter (cs : List Char) : String :=
  let spaced := cs.map fun c => if c == '+' then ' ' else c
  String.ofList (percentDecode (·.flatMap percentEscape) spaced)

/-- The parameters of the query string. -/
def parameters (r : Request) : List (String × String) :=
  ((splitAt '&' r.query.toList).filter (!·.isEmpty)).map fun part =>
    let (name, value) := splitParameter part
    (decodeParameter name, decodeParameter value)

/-- The first value of a parameter. -/
def parameter? (r : Request) (name : String) : Option String :=
  r.parameters.lookup name

end Request

end CqlGateway.Http
