/-!
# References

A client names what it asks for by a reference: a path and a query string, which a scheme and the
name of a host may precede and a fragment may follow.

* `Reference.ofText` reads a reference; what precedes and follows the path and the query string is
  dropped, since there is one host only.
* `Reference.text` writes one.
* `Reference.resolve` reads a reference twice, for the client and for the gateway: what one reading
  leaves may have a scheme or a host in front again.
-/

namespace CqlGateway.Http

/-- A path and a query string; a query string that is empty counts as none. -/
structure Reference where
  path : List Char
  query : List Char := []
  deriving DecidableEq, Repr

namespace Reference

/-- The characters of a scheme; the first one is a letter. -/
def isSchemeChar (c : Char) : Bool :=
  c.isAlphanum || c == '+' || c == '-' || c == '.'

/-- The text without the scheme in front of it. -/
def dropScheme (cs : List Char) : List Char :=
  match cs.takeWhile (· != ':'), cs.dropWhile (· != ':') with
  | c :: scheme, _ :: rest => if c.isAlpha && scheme.all isSchemeChar then rest else cs
  | _, _ => cs

/-- The text without the host in front of it, which two slashes announce. -/
def dropHost : List Char → List Char
  | '/' :: '/' :: rest => rest.dropWhile fun c => !(c == '/' || c == '?' || c == '#')
  | cs => cs

/-- The characters of a reference that count: those behind the blanks and control characters at its
start, without tabs and line breaks. -/
def significant (cs : List Char) : List Char :=
  (cs.dropWhile fun c => c.toNat ≤ 0x20).filter fun c => !(c == '\t' || c == '\n' || c == '\r')

/-- The path and the query string of a reference. -/
def ofText (cs : List Char) : Reference :=
  let rest := (dropHost (dropScheme (significant cs))).takeWhile (· != '#')
  { path := rest.takeWhile (· != '?'), query := (rest.dropWhile (· != '?')).drop 1 }

/-- The text of a reference. -/
def text (r : Reference) : List Char :=
  if r.query.isEmpty then r.path else r.path ++ '?' :: r.query

/-- The path and the query string that a reference leads to. -/
def resolve (cs : List Char) : Reference :=
  ofText (ofText cs).text

end Reference

end CqlGateway.Http
