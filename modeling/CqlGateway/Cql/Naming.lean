import CqlGateway.Cql.Query
import CqlGateway.Schema.Identifier

/-!
# Names in queries

Finding the table and the keyspace that a query mentions, without parsing the whole statement.

A name is written bare or between double quotes.  A table name follows a keyword after at least one
blank and may be preceded by its keyspace and a dot.  The keyword counts only where a word begins or
ends, up to case, and its first place in the text that is followed by a name decides.  `tableAfter?`
and `keyspace?` are the two questions that callers ask.
-/

namespace CqlGateway

/-! ### Written names -/

/-- A character of a bare name: up to case, an ASCII letter or digit or an underscore. -/
def isNameChar (c : Char) : Bool :=
  let l := Text.lowerChar c
  l.isAlphanum || l == '_' || l.toNat == 0x131 || l.toNat == 0x17F

/-- A name as it is written at the start of a text, with what follows it. -/
def takeName? : List Char → Option (List Char × List Char)
  | '"' :: rest =>
    match rest.takeWhile (· != '"'), rest.dropWhile (· != '"') with
    | _ :: _, _ :: after =>
      some ('"' :: (rest.takeWhile (· != '"') ++ ['"']), after)
    | _, _ => none
  | cs =>
    match cs.takeWhile isNameChar with
    | [] => none
    | name => some (name, cs.dropWhile isNameChar)

/-- The name that is written, without quotes and blanks around it; none if nothing remains. -/
def unquoteName? (written : List Char) : Option (List Char) :=
  let cs := Text.trim written
  let inner :=
    match cs with
    | '"' :: rest => if rest.getLast? == some '"' then rest.dropLast else cs
    | _ => cs
  match Text.trim inner with
  | [] => none
  | name => some name

/-- A name with the keyspace in front of it, if there is one, as they are written. -/
structure QualifiedName where
  keyspace? : Option (List Char)
  name : List Char
  deriving DecidableEq, Repr

/-- The qualified name at the start of a text. -/
def takeQualifiedName? (cs : List Char) : Option QualifiedName :=
  match takeName? cs with
  | none => none
  | some (first, rest) =>
    match Text.trimStart rest with
    | '.' :: more =>
      match takeName? (Text.trimStart more) with
      | some (second, _) => some ⟨some first, second⟩
      | none => some ⟨none, first⟩
    | _ => some ⟨none, first⟩

/-! ### Names after keywords -/

/-- What follows the keyword and the blanks behind it at the start of a text. -/
def dropKeyword? (keyword cs : List Char) : Option (List Char) :=
  match Text.dropWord? keyword cs with
  | some (c :: rest) => if Text.isBlank c then some (Text.trimStart rest) else none
  | _ => none

/-- The qualified name behind the first keyword that a name follows; `before` is the character in
front of the text. -/
def findQualifiedName? (keyword : List Char) (before : Option Char) :
    List Char → Option QualifiedName
  | [] => none
  | c :: rest =>
    let here :=
      if Text.isBoundary before (some c) then
        (dropKeyword? keyword (c :: rest)).bind takeQualifiedName?
      else none
    match here with
    | some name => some name
    | none => findQualifiedName? keyword (some c) rest

/-- The keywords that a table name follows. -/
def tableKeywords : List String :=
  ["from", "into", "update", "table"]

namespace Query

/-- The qualified name behind a keyword. -/
def qualifiedName? (keyword : String) (q : Query) : Option QualifiedName :=
  findQualifiedName? keyword.toList none q.cql.toList

/-- The table named behind a keyword, without its keyspace. -/
def tableAfter? (keyword : String) (q : Query) : Option Table := do
  let qualified ← q.qualifiedName? keyword
  let name ← unquoteName? qualified.name
  Identifier.ofText? .table (String.ofList name)

/-- The table that a query reads from. -/
def sourceTable? (q : Query) : Option Table :=
  q.tableAfter? "from"

/-- The keyspace in front of the name behind a keyword. -/
def keyspaceAfter? (keyword : String) (q : Query) : Option Keyspace := do
  let qualified ← q.qualifiedName? keyword
  let written ← qualified.keyspace?
  let name ← unquoteName? written
  Identifier.ofText? .keyspace (String.ofList name)

/-- The name that is all that follows the word `use` in a text, but for a semicolon. -/
def useTarget? (cs : List Char) : Option (List Char) := do
  let named ← dropKeyword? "use".toList (Text.trimStart cs)
  let (name, rest) ← takeName? named
  let rest := Text.trimStart rest
  let rest := match rest with
    | ';' :: more => Text.trimStart more
    | _ => rest
  if rest.isEmpty then unquoteName? name else none

/-- The keyspace that a query selects or mentions: the target of a `use` statement, and for any
other the keyspace in front of a table name, the keywords being tried in their order. -/
def keyspace? (q : Query) : Option Keyspace :=
  match q.kind with
  | .use =>
    (useTarget? q.cql.toList).bind fun name => Identifier.ofText? .keyspace (String.ofList name)
  | _ => tableKeywords.findSome? fun keyword => q.keyspaceAfter? keyword

end Query

end CqlGateway
