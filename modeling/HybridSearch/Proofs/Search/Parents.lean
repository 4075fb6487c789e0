import HybridSearch.Proofs.Search.Expansion
import HybridSearch.Proofs.Service.Search

/-!
# Parents in memory

Expanding the parents of hits in memory never fails, and what it gives is read off the records that
are there.

## Main definitions

* `MemoryStore.chunk?`, `MemoryStore.items?`, `MemoryStore.views` — records and parents as they are
  read.

## Main results

* `ParentView.runFrom_expand` — the views of the parents that hits name.
* `ParentView.exists_of_mem_views` — a chunk is the reading of a stored record of the index.
-/

namespace HybridSearch

namespace MemoryStore

variable (store : MemoryStore) (index : String)

/-- The readable values of a record, if it is there. -/
def chunk? (id : String) : Option Json.Members :=
  match store.hash (Key.record index id) with
  | [] => none
  | fields => some (Hit.readFields none fields)

/-- The ids that a parent lists, if it is there. -/
def items? (uid : String) : Option (List String) :=
  (StoredHash.get? (store.hash (Key.parent index uid)) ParentDocument.itemsField).map fun bytes =>
    splitList (Text.decodeLossy bytes)

/-- The views of the parents that hits name, as many as are wanted. -/
def views (hits : List Hit) (limit : Nat) : List ParentView :=
  let listed := (ParentView.references hits).filterMap fun uid =>
    (store.items? index uid).map fun ids => (uid, ids)
  (listed.map fun (uid, ids) => ⟨uid, ids.filterMap (store.chunk? index)⟩).take limit

theorem chunk?_eq_some {id : String} {chunk : Json.Members}
    (h : store.chunk? index id = some chunk) :
    chunk = Hit.readFields none (store.hash (Key.record index id)) := by
  rw [chunk?] at h
  split at h
  · cases h
  · exact (Option.some.inj h).symm

end MemoryStore

namespace ParentView

variable (store : MemoryStore) (index : String)

theorem answers_memory :
    Store.Answers (· = store) (fun key field => StoredHash.get? (store.hash key) field)
      (fun key => .ok (store.hash key)) where
  hashGet _ _ := by
    rintro _ rfl
    exact ⟨rfl, rfl⟩
  hashGetAll _ := by
    rintro _ rfl
    exact ⟨rfl, rfl⟩

theorem chunkOf?_hash (id : String) :
    chunkOf? (.ok (store.hash (Key.record index id))) = store.chunk? index id := by
  rw [MemoryStore.chunk?]
  cases store.hash (Key.record index id) <;> rfl

theorem viewBy?_memory (uid : String) :
    viewBy? (fun key field => StoredHash.get? (store.hash key) field)
        (fun key => .ok (store.hash key)) index uid =
      (store.items? index uid).map fun ids => ⟨uid, ids.filterMap (store.chunk? index)⟩ := by
  simp only [viewBy?, viewBy, chunkOf?_hash]
  rw [MemoryStore.items?, Option.map_map]
  rfl

/-- **Expanding parents in memory never fails.** -/
theorem runFrom_expand (hits : List Hit) (limit : Nat) :
    (expand index hits limit).runFrom store = (.ok (store.views index hits limit), store) := by
  have hviews : store.views index hits limit = ((references hits).filterMap
      (viewBy? (fun key field => StoredHash.get? (store.hash key) field)
        (fun key => .ok (store.hash key)) index)).take limit := by
    rw [MemoryStore.views, List.map_filterMap]
    refine congrArg (List.take limit) (List.filterMap_congr fun uid _ => ?_)
    rw [viewBy?_memory, Option.map_map]
    rfl
  rw [(settles_expand index (answers_memory store) hits limit).runFrom_eq, hviews]

/-- Every chunk of a view is the reading of a stored record of the index. -/
theorem exists_of_mem_views {hits : List Hit} {limit : Nat} {view : ParentView}
    (hview : view ∈ store.views index hits limit) {chunk : Json.Members}
    (hchunk : chunk ∈ view.chunks) :
    ∃ id, chunk = Hit.readFields none (store.hash (Key.record index id)) := by
  obtain ⟨⟨uid, ids⟩, -, rfl⟩ := List.mem_map.mp (List.mem_of_mem_take hview)
  obtain ⟨id, -, hid⟩ := List.mem_filterMap.mp hchunk
  exact ⟨id, store.chunk?_eq_some index hid⟩

end ParentView

/-- Every chunk of an answer is the reading of a stored record of the index. -/
theorem Service.exists_of_mem_chunks {α : Type} {service after : Service MemoryStore α}
    {request : SearchRequest} {response : SearchResponse}
    (h : (search request).runFrom service = (.ok response, after)) {view : ParentView}
    (hview : view ∈ response.parents) {chunk : Json.Members} (hchunk : chunk ∈ view.chunks) :
    ∃ id, chunk = Hit.readFields none (service.store.hash (Key.record request.index id)) := by
  rw [runFrom_search] at h
  cases hdefinition : service.store.definition request.index with
  | error cause =>
    rw [hdefinition] at h
    cases h
  | ok definition =>
    rw [hdefinition] at h
    obtain ⟨query, -, hanswer⟩ := Attempt.except_bind_eq_ok.mp (congrArg Prod.fst h)
    rcases query with _ | query
    · cases hanswer
      cases hview
    · obtain ⟨hits, -, hanswer⟩ := Attempt.except_bind_eq_ok.mp hanswer
      split at hanswer
      · rw [ParentView.runFrom_expand] at hanswer
        cases hanswer
        exact ParentView.exists_of_mem_views service.store request.index hview hchunk
      · cases hanswer
        cases hview

end HybridSearch
