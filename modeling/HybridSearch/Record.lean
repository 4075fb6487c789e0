import HybridSearch.Decimal.Layout
import HybridSearch.Vector.Single

/-!
# Records

A record is what a source row becomes before it is written: values of three kinds under the names
of attributes.

## Main definitions

* `FieldValue`, `FieldValue.toBytes` — a value and the bytes that are stored for it.
* `Record`.
-/

namespace HybridSearch

inductive FieldValue where
  | text (value : String)
  | number (value : Float)
  | vector (value : Embedding)

namespace FieldValue

/-- Numbers are stored as text, vectors as the bytes of their components. -/
def toBytes : FieldValue → Bytes
  | text value => Text.encode value
  | number value => Text.encode (Layout.plain.render value)
  | vector value => value.encode

def text? : FieldValue → Option String
  | text value => some value
  | _ => none

def number? : FieldValue → Option Float
  | number value => some value
  | _ => none

end FieldValue

structure Record where
  id : String
  key : String
  fields : List (String × FieldValue)

/-- The first value under a name. -/
def Record.get? (record : Record) (name : String) : Option FieldValue := record.fields.lookup name

end HybridSearch
