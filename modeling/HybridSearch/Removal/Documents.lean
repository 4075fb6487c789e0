import HybridSearch.Store.Basic

/-!
# Deleting records by id

## Main definitions

* `DeleteReport`.
* `DeleteReport.run` — deletes the records with the given ids, as far as the store lets it.
-/

namespace HybridSearch

structure FailedDelete where
  uid : String
  reason : String
  deriving DecidableEq, Repr

structure DeleteReport where
  deleted : List String
  failed : List FailedDelete
  deriving DecidableEq, Repr

namespace DeleteReport

variable {σ : Type} [Store σ]

def deleteEach (index : String) : List String → StateM σ (List (String × Except SearchError Bool))
  | [] => return []
  | uid :: rest => do
    let result ← (Store.delete (Key.record index uid)).run
    return (uid, result) :: (← deleteEach index rest)

/-- A record that was not there counts as deleted. -/
def ofResults (results : List (String × Except SearchError Bool)) : DeleteReport where
  deleted := results.filterMap fun
    | (uid, .ok _) => some uid
    | (_, .error _) => none
  failed := results.filterMap fun
    | (_, .ok _) => none
    | (uid, .error cause) => some ⟨uid, cause.message⟩

def run (index : String) (uids : List String) : StateM σ DeleteReport := do
  return ofResults (← deleteEach index uids)

def toJson (report : DeleteReport) : Json :=
  .object
    [("deleted", .strings report.deleted),
      ("failed", .arr (report.failed.map fun failure =>
        .object [("uid", .str failure.uid), ("reason", .str failure.reason)]))]

end DeleteReport

end HybridSearch
