import HybridSearch.Json.Basic
import HybridSearch.Search.Hit
import HybridSearch.Store.Basic

/-!
# Parent documents

A parent groups records by their ids. For a list of hits the parents that they name are put
together again from the records that are there.

## Main definitions

* `ParentDocument`, `ParentDocument.ofJson?`, `ParentDocument.put`.
* `ParentView` — a parent with the readable values of its records.
* `ParentView.expand` — the views of the parents that hits name.
-/

namespace HybridSearch

structure ParentDocument where
  uid : String
  items : List String
  deriving DecidableEq, Repr

structure ParentView where
  uid : String
  chunks : List Json.Members

namespace ParentDocument

def ofJson? (json : Json) : Option ParentDocument := do
  let shape ← json.shape? ["uid", "items"]
  let uid ← shape.required? "uid" Json.str?
  let items ← shape.required? "items" Json.texts?
  some ⟨uid, items⟩

def toJson (parent : ParentDocument) : Json :=
  .object [("uid", .str parent.uid), ("items", .strings parent.items)]

/-- The field that holds the ids of the records. -/
def itemsField : String := "items"

def fields (parent : ParentDocument) : List (String × FieldValue) :=
  [("uid", .text parent.uid), (itemsField, .text (Text.joined "," parent.items))]

def put {σ : Type} [Store σ] (index : String) (parent : ParentDocument) :
    Attempt SearchError σ Unit :=
  Store.hashSet (Key.parent index parent.uid) parent.fields

end ParentDocument

namespace ParentView

variable {σ : Type} [Store σ]

/-- The readable values of a record, if it is there and can be read. -/
def loadChunk (index id : String) : Attempt SearchError σ (Option Json.Members) := do
  match ← (Store.hashGetAll (Key.record index id)).outcome with
  | .ok [] => return none
  | .ok fields => return some (Hit.readFields none fields)
  | .error _ => return none

/-- The ids that a parent lists, if the parent is there. -/
def items? (index uid : String) : Attempt SearchError σ (Option (List String)) := do
  let items ← Store.hashGet (Key.parent index uid) ParentDocument.itemsField
  return items.map fun bytes => splitList (Text.decodeLossy bytes)

/-- The view of a parent that lists the given ids. -/
def load (index uid : String) (ids : List String) : Attempt SearchError σ ParentView := do
  let chunks ← ids.mapM (loadChunk index)
  return ⟨uid, chunks.filterMap id⟩

/-- The parents that hits name, each at its first reference. -/
def references (hits : List Hit) : List String :=
  (hits.flatMap Hit.parents).foldl (fun seen uid => if seen.contains uid then seen
    else seen ++ [uid]) []

/-- Views follow the order of the hits. All parents are looked up before the first record. -/
def expand (index : String) (hits : List Hit) (limit : Nat) :
    Attempt SearchError σ (List ParentView) := do
  let parents ← (references hits).mapM fun uid => return (uid, ← items? index uid)
  let views ← (parents.filterMap fun (uid, ids) => ids.map fun ids => (uid, ids)).mapM
    fun (uid, ids) => load index uid ids
  return views.take limit

def toJson (view : ParentView) : Json :=
  .object [("uid", .str view.uid), ("chunks", .arr (view.chunks.map .obj))]

end ParentView

end HybridSearch
