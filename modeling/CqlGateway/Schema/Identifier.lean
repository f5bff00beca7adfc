import CqlGateway.Collection.Distinct
import CqlGateway.Collection.MergeSort
import CqlGateway.Collection.Sorting
import CqlGateway.Failure
import CqlGateway.Text.Blank
import CqlGateway.Text.Case

/-!
# Identifiers

The name of a keyspace, a table, an index or a column.  An identifier keeps the spelling it was read
with; names are looked up by their `key`, the lower form of the spelling, and are never blank.

`Identifier.listing` is the form in which names are shown: without blanks around them, one spelling
for each key, in the order of the keys.
-/

namespace CqlGateway

/-- A name of the class `c`. -/
structure Identifier (c : NameClass) where
  /-- The name as it was read. -/
  text : String
  not_blank : Text.isBlankText text = false
  deriving DecidableEq

/-- The name of a keyspace. -/
abbrev Keyspace := Identifier .keyspace

/-- The name of a table. -/
abbrev Table := Identifier .table

namespace Identifier

variable {c : NameClass}

/-- The identifier of a text, if that is not blank. -/
def ofText? (c : NameClass) (s : String) : Option (Identifier c) :=
  if h : Text.isBlankText s = false then some ⟨s, h⟩ else none

/-- The identifier that a value names; only a text that is not blank names one. -/
def ofValue (c : NameClass) (v : Value) : Except Failure (Identifier c) :=
  match v.text?.bind (ofText? c) with
  | some name => .ok name
  | none => .error (.blankName c)

/-- The form by which names are looked up. -/
def key (a : Identifier c) : String :=
  Text.lower a.text

/-- The two names are equal up to case. -/
def same (a b : Identifier c) : Bool :=
  a.key == b.key

/-- The order of names: by their keys, then by their spelling. -/
def isBelow (a b : Identifier c) : Bool :=
  a.key < b.key || (a.key == b.key && a.text < b.text)

/-! ### Listings -/

/-- The names in order, one for each key: the first one of that key. -/
def sortedDistinct (names : List (Identifier c)) : List (Identifier c) :=
  sortBy (fun a b => !b.isBelow a) (firstsBy key names)

/-- The names among the values: texts that are not blank, without the blanks around them. -/
def named (c : NameClass) (values : List Value) : List (Identifier c) :=
  values.filterMap fun v => v.text?.bind fun s => ofText? c (Text.strip s)

/-- The listing of the names among the values. -/
def listing (c : NameClass) (values : List Value) : List (Identifier c) :=
  sortedDistinct (named c values)

theorem key_ne_of_mem_sortedDistinct (names : List (Identifier c)) :
    (sortedDistinct names).Pairwise fun a b => a.key ≠ b.key :=
  (perm_sortBy _ _).symm.pairwise (pairwise_firstsBy names) fun h => h.symm

end Identifier

/-! ### Names of any class -/

/-- A name with its class. -/
structure AnyIdentifier where
  cls : NameClass
  name : Identifier cls

namespace AnyIdentifier

/-- The two names are of comparable classes. -/
def sameFamily (a b : AnyIdentifier) : Bool :=
  a.cls.family == b.cls.family

/-- The two names are comparable and equal up to case. -/
def same (a b : AnyIdentifier) : Bool :=
  a.sameFamily b && a.name.key == b.name.key

/-- The order of comparable names. -/
def isBelow (a b : AnyIdentifier) : Bool :=
  a.name.key < b.name.key || (a.name.key == b.name.key && a.name.text < b.name.text)

/-- What a comparison says of two comparable names, read from the first one. -/
def holds (comparison : Comparison) (a b : AnyIdentifier) : Bool :=
  comparison.judge (a.isBelow b) (a.same b)

/-- Compares two names.  It is read from the second one if that one is of a more special class. -/
def compare (comparison : Comparison) (a b : AnyIdentifier) : Except Failure Bool :=
  if !a.sameFamily b then .error (.incomparable comparison a.cls.label b.cls.label)
  else if a.cls.isRefinedBy b.cls then .ok (holds comparison.converse b a)
  else .ok (holds comparison a b)

/-- The names in order, or the failure of the first comparison of two classes. -/
def sort (names : List AnyIdentifier) : Except Failure (List AnyIdentifier) :=
  sortWith (compare .lt) names

end AnyIdentifier

end CqlGateway
