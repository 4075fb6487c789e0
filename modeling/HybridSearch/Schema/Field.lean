import HybridSearch.Text.Ascii
import HybridSearch.Text.Trim

/-!
# Fields

What an index declares of its records: named fields of four types.

## Main definitions

* `FieldType`, `FieldType.ofDeclared` — a type by its declared name.
* `Field`, `FieldSet` — fields in order of declaration.
* `FieldSet.get?`, `FieldSet.vectorField?`.
-/

namespace HybridSearch

inductive FieldType where
  | text
  | tag
  | numeric
  | vector
  deriving DecidableEq, Repr

namespace FieldType

def name : FieldType → String
  | text => "TEXT"
  | tag => "TAG"
  | numeric => "NUMERIC"
  | vector => "VECTOR"

/-- The type with the given name, in any letter case and with blanks around it; any other name
declares a text. -/
def ofDeclared (declared : String) : FieldType :=
  let word := Text.upperAscii (Text.trim declared)
  if word = "TAG" then tag
  else if word = "NUMERIC" then numeric
  else if word = "VECTOR" then vector
  else text

end FieldType

structure Field where
  name : String
  type : FieldType
  sortable : Bool
  deriving DecidableEq, Repr

abbrev FieldSet := List Field

namespace FieldSet

/-- The first field of that name. -/
def get? (fields : FieldSet) (name : String) : Option Field :=
  fields.find? fun field => field.name == name

/-- An index has at most one vector that is searched: the first. -/
def vectorField? (fields : FieldSet) : Option Field :=
  fields.find? fun field => field.type == .vector

end FieldSet

end HybridSearch
