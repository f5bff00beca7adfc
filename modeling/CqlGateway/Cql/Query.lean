import CqlGateway.Failure
import CqlGateway.Text.Blank
import CqlGateway.Text.Case

/-!
# Queries

A query is a CQL text with the kind of statement that its first word announces.  `Query.ofText`
takes the text as it was typed: blanks at both ends and the semicolons behind the statement are
dropped, and what then remains must not be empty.
-/

namespace CqlGateway

/-- The kinds of statements. -/
inductive QueryKind where
  | use
  | select
  | insert
  | update
  | delete
  | create
  | drop
  | alter
  | truncate
  | other
  deriving DecidableEq, Repr

namespace QueryKind

/-- The word that announces a kind. -/
def word : QueryKind → String
  | .use => "use"
  | .select => "select"
  | .insert => "insert"
  | .update => "update"
  | .delete => "delete"
  | .create => "create"
  | .drop => "drop"
  | .alter => "alter"
  | .truncate => "truncate"
  | .other => "other"

/-- The kinds with a word of their own. -/
def announced : List QueryKind :=
  [.use, .select, .insert, .update, .delete, .create, .drop, .alter, .truncate]

/-- The kind that a word in lower case announces. -/
def ofWord (w : String) : QueryKind :=
  (announced.find? (·.word == w)).getD .other

theorem ofWord_word (k : QueryKind) : ofWord k.word = k := by
  cases k <;> decide

end QueryKind

/-- A statement with its kind. -/
structure Query where
  cql : String
  kind : QueryKind := .other
  deriving DecidableEq, Repr

namespace Query

/-- The characters of a statement: no blanks at either end, and no semicolons behind it. -/
def statement (cs : List Char) : List Char :=
  Text.trim (Text.dropEndWhile (· == ';') (Text.trim cs))

/-- The query of a text. -/
def ofText (s : String) : Except Failure Query :=
  match statement s.toList with
  | [] => .error .emptyQuery
  | cs => .ok ⟨String.ofList cs, .ofWord (String.ofList (Text.lowerChars (Text.firstWord cs)))⟩

/-- The query that a value writes; a value that is not given counts as an empty text. -/
def ofValue (v : Value) : Except Failure Query :=
  if !v.isTruthy then .error .emptyQuery
  else match v with
    | .text s => ofText s
    | .bytes _ | .buffer _ => .error .bytesForText
    | _ => .error (.notTrimmable v.qualifiedTypeName)

end Query

end CqlGateway
