import HybridSearch.Search.Hit
import HybridSearch.Store.Basic

/-!
# Executing a query

## Main definitions

* `SearchError.ofExecution` — how an error of the store is reported by a search.
* `Query.execute` — the hits of a query, the nearest first if it asks for them.
-/

namespace HybridSearch

/-- A missing index and an unreachable store are reported as they are, any other error as a failed
search. -/
def SearchError.ofExecution : SearchError → SearchError
  | indexMissing details => indexMissing details
  | storeUnavailable details => storeUnavailable details
  | cause => searchFailure cause

variable {σ : Type} [Store σ]

def Query.execute (query : Query) (index : String) (fields : FieldSet) :
    Attempt SearchError σ (List Hit) := do
  let documents ← (Store.search index query).recast SearchError.ofExecution
  let hits := documents.map (Hit.ofDocument (Key.space index) fields)
  return if query.nearest.isSome then Hit.nearestFirst hits else hits

end HybridSearch
