import HybridSearch.Schema.Field
import HybridSearch.Schema.Key
import HybridSearch.Vector.Metric

/-!
# Index definitions

A declared vector field becomes two attributes: a text under the declared name, which keeps the
source searchable, and the vector itself under a name of its own. Every other field becomes one
attribute, and every index has an attribute for the id.

## Main definitions

* `Attribute` — a stored attribute of an index.
* `Field.attributes` — the attributes of one declared field.
* `Attribute.compile` — those of a list of fields; of equal names the first stays.
* `IndexDefinition`, `IndexDefinition.compile`, `IndexDefinition.fieldSet`.
-/

namespace HybridSearch

inductive AttributeKind where
  | text
  | tag
  | numeric
  | vector (space : VectorSpace)
  deriving DecidableEq, Repr

def AttributeKind.type : AttributeKind → FieldType
  | text => .text
  | tag => .tag
  | numeric => .numeric
  | vector _ => .vector

structure Attribute where
  name : String
  kind : AttributeKind
  sortable : Bool
  deriving DecidableEq, Repr

def Attribute.field (a : Attribute) : Field := ⟨a.name, a.kind.type, a.sortable⟩

def Field.attributes (space : VectorSpace) (field : Field) : List Attribute :=
  match field.type with
  | .vector =>
    [⟨field.name, .text, field.sortable⟩, ⟨Key.vectorAttribute field.name, .vector space, false⟩]
  | .tag => [⟨field.name, .tag, field.sortable⟩]
  | .numeric => [⟨field.name, .numeric, field.sortable⟩]
  | .text => [⟨field.name, .text, field.sortable⟩]

namespace Attribute

/-- Adds an attribute unless one of its name is there. -/
def addNew (attributes : List Attribute) (new : Attribute) : List Attribute :=
  if attributes.any fun existing => existing.name == new.name then attributes
  else attributes ++ [new]

def compile (space : VectorSpace) (fields : List Field) : List Attribute :=
  (fields.flatMap (Field.attributes space)).foldl addNew []

end Attribute

structure IndexDefinition where
  name : String
  /-- What the keys of its records begin with. -/
  keySpace : String
  attributes : List Attribute
  deriving DecidableEq, Repr

namespace IndexDefinition

def compile (index : String) (space : VectorSpace) (fields : List Field) : IndexDefinition where
  name := index
  keySpace := Key.space index
  attributes :=
    Attribute.addNew (Attribute.compile space fields) ⟨Key.idAttribute, .tag, false⟩

def fieldSet (definition : IndexDefinition) : FieldSet :=
  definition.attributes.map Attribute.field

/-- The dimension and the metric of the first vector. -/
def vectorSpace? (definition : IndexDefinition) : Option VectorSpace :=
  definition.attributes.findSome? fun a =>
    match a.kind with
    | .vector space => some space
    | _ => none

end IndexDefinition

end HybridSearch
