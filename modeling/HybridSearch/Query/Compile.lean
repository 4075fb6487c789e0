import HybridSearch.Embedding.Gateway
import HybridSearch.Query.Request

/-!
# Compiling a search

Free text on an index with a vector is searched by the nearest vectors, on any other index by its
words. Filters become predicates in both cases, and alone if there is no text.

## Main definitions

* `Query.nearestTo` — the query for the nearest vectors.
* `Query.compile` — the query of a search, or nothing if there is nothing to search for.
-/

namespace HybridSearch.Query

/-- The attributes wanted of the nearest records: all but vectors, the distance, and the parents if
they are asked for. -/
def projection (fields : FieldSet) (wantParents : Bool) : List String :=
  let names := (fields.filter fun field => field.type != .vector).map Field.name
  let names := names ++ [distanceField]
  if wantParents && !names.contains parentField then names ++ [parentField] else names

def ofPredicates (predicates : List Predicate) (combinator : Combinator) (limit : Nat) : Query :=
  ⟨none, predicates, none, combinator, none, [], limit⟩

def nearestTo (query : Query) (field : String) (vector : Embedding) (projection : List String) :
    Query :=
  { query with
    nearest := some ⟨field, vector, query.limit⟩
    sortBy := some ⟨distanceField, true⟩
    returnFields := projection }

/-- The filters are read before the text is embedded. -/
def compile (fields : FieldSet) (text : Option String) (filters : Json.Members)
    (combinator : Combinator) (limit : Nat) (wantParents : Bool) :
    Attempt SearchError Gateway (Option Query) := do
  let predicates ← Attempt.ofExcept (Predicate.ofFilters fields filters)
  let query := ofPredicates predicates combinator limit
  match freeText? text, fields.vectorField? with
  | some text, some field =>
    let vector ← Gateway.embed (.text text)
    return some (query.nearestTo field.name vector (projection fields wantParents))
  | some text, none => return some { query with literal := some text }
  | none, _ => return if predicates.isEmpty then none else some query

end HybridSearch.Query
