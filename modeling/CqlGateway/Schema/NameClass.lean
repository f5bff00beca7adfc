/-!
# Classes of names

What a name names.  Columns come in two classes: plain column names, and columns whose place in the
primary key is known.  The two belong to one family, in which names may be compared.  Every other
class is a family of its own, also the one of the names of which nothing more is known.
-/

namespace CqlGateway

/-- A class of names. -/
inductive NameClass where
  /-- Names of anything. -/
  | identifier
  | keyspace
  | table
  | index
  | column
  /-- Columns whose type is known. -/
  | typedColumn
  deriving DecidableEq, Repr

namespace NameClass

/-- The word for the class in messages. -/
def label : NameClass → String
  | .identifier => "Identifier"
  | .keyspace => "KeySpace"
  | .table => "Table"
  | .index => "Index"
  | .column => "ColumnName"
  | .typedColumn => "ExtendedColumnName"

/-- The class that stands for the family of names comparable with those of a class. -/
def family : NameClass → NameClass
  | .typedColumn => .column
  | c => c

/-- The second class is a special case of the first one, with which its names are compared. -/
def isRefinedBy (a b : NameClass) : Bool :=
  a != b && b.family == a

end NameClass

end CqlGateway
