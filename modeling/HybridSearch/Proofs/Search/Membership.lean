import HybridSearch.Proofs.Schema.Key
import HybridSearch.Proofs.Search.Nearest
import HybridSearch.Proofs.Service.Search

/-!
# Where hits come from

## Main results

* `MemoryStore.search_eq_ok` — a document that is found shows a member of the index that matches.
* `Query.exists_document_of_mem_hits` — every hit of a query is a document that the store finds.
* `Service.exists_key_of_mem_hits` — every hit of a search stands for a stored record.
-/

namespace HybridSearch

namespace MemoryStore

variable {store : MemoryStore} {index : String} {query : Query}

/-- What matches is the record under its key, with a distance or without. -/
theorem eq_of_match?_eq_some {definition : IndexDefinition} {key : String} {hash : StoredHash}
    {m : Match} (h : match? definition query key hash = some m) : m = ⟨key, hash, m.distance⟩ := by
  rw [match?] at h
  split at h
  · split at h
    · obtain ⟨_, -, rfl⟩ := Option.map_eq_some_iff.mp h
      rfl
    · cases h
  · split at h
    · cases h
      rfl
    · cases h

theorem key_of_match?_eq_some {definition : IndexDefinition} {key : String} {hash : StoredHash}
    {m : Match} (h : match? definition query key hash = some m) : m.key = key :=
  congrArg Match.key (eq_of_match?_eq_some h)

theorem mem_of_mem_ordered {found : List Match} {m : Match} (h : m ∈ ordered query found) :
    m ∈ found := by
  rw [ordered] at h
  split at h
  · exact mem_ranked.mp (List.mem_of_mem_take h)
  · exact h

theorem mem_members_iff {definition : IndexDefinition} {entry : String × StoredHash} :
    entry ∈ store.members definition ↔
      store.get? entry.1 = some entry.2 ∧
        (Text.startsWith? definition.keySpace entry.1).isSome := by
  rw [members, List.mem_filter, Dict.mem_entries_iff, get?]

/-- A document that is found shows a member of the index that matches. -/
theorem search_eq_ok {documents : List StoredDocument}
    (h : store.search index query = .ok documents) :
    ∃ definition, store.indexes.get? index = some definition ∧
      ∀ document ∈ documents, ∃ m, (m.key, m.hash) ∈ store.members definition ∧
        match? definition query m.key m.hash = some m ∧
        document = ⟨m.key, project query.returnFields m⟩ := by
  rw [search] at h
  obtain ⟨definition, hdefinition, h⟩ := Attempt.except_bind_eq_ok.mp h
  refine ⟨definition, definition_eq_ok_iff.mp hdefinition, fun document hdocument => ?_⟩
  rw [← Except.ok.inj h] at hdocument
  obtain ⟨m, hm, rfl⟩ := List.mem_map.mp hdocument
  obtain ⟨⟨key, hash⟩, hentry, hmatch⟩ :=
    List.mem_filterMap.mp (mem_of_mem_ordered (List.mem_of_mem_take hm))
  obtain ⟨rfl, rfl⟩ : m.key = key ∧ m.hash = hash := by
    rw [eq_of_match?_eq_some hmatch]
    exact ⟨rfl, rfl⟩
  exact ⟨m, hentry, hmatch, rfl⟩

/-- A document that is found is stored under a key of the index. -/
theorem isSome_get?_of_search {documents : List StoredDocument}
    (h : store.search index query = .ok documents) {document : StoredDocument}
    (hdocument : document ∈ documents) :
    ∃ definition, store.indexes.get? index = some definition ∧
      (store.get? document.key).isSome ∧
      (Text.startsWith? definition.keySpace document.key).isSome := by
  obtain ⟨definition, hget, hdocuments⟩ := search_eq_ok h
  obtain ⟨m, hmember, -, rfl⟩ := hdocuments document hdocument
  obtain ⟨hstored, hstart⟩ := mem_members_iff.mp hmember
  exact ⟨definition, hget, Option.isSome_of_eq_some hstored, hstart⟩

end MemoryStore

/-- The hits of a query are the documents that the store finds, in some order. -/
theorem Query.exists_document_of_mem_hits {store : MemoryStore} {index : String} {query : Query}
    {fields : FieldSet} {hits : List Hit}
    (h : ((query.execute index fields).runFrom store).1 = .ok hits) {hit : Hit}
    (hhit : hit ∈ hits) :
    ∃ documents, store.search index query = .ok documents ∧
      ∃ document ∈ documents, hit = .ofDocument (Key.space index) fields document := by
  rw [Query.runFrom_execute, MemoryStore.runFrom_search] at h
  cases hsearch : store.search index query with
  | error cause =>
    rw [hsearch] at h
    cases h
  | ok documents =>
    rw [hsearch] at h
    have hmem : hit ∈ documents.map (Hit.ofDocument (Key.space index) fields) := by
      rw [← Except.ok.inj h] at hhit
      dsimp only at hhit
      split at hhit
      · exact mem_ranked.mp hhit
      · exact hhit
    obtain ⟨document, hdocument, rfl⟩ := List.mem_map.mp hmem
    exact ⟨documents, rfl, document, hdocument, rfl⟩

namespace Service

variable {α : Type} {service after : Service MemoryStore α}

/-- The hits of an answer are the documents that the store found, in some order. -/
theorem exists_documents_of_answer {store : MemoryStore} {request : SearchRequest}
    {fields : FieldSet} {query : Option Query} {response : SearchResponse}
    (h : answer store request fields query = .ok response) {hit : Hit}
    (hhit : hit ∈ response.hits) :
    ∃ asked documents, query = some asked ∧ store.search request.index asked = .ok documents ∧
      ∃ document ∈ documents, hit = .ofDocument (Key.space request.index) fields document := by
  rcases query with _ | query
  · cases h
    cases hhit
  · rw [answer] at h
    obtain ⟨hits, hhits, h⟩ := Attempt.except_bind_eq_ok.mp h
    have hresponse : response.hits = hits := by
      split at h
      · obtain ⟨parents, -, h⟩ := Attempt.except_bind_eq_ok.mp h
        cases h
        rfl
      · cases h
        rfl
    obtain ⟨documents, hsearch, hread⟩ :=
      Query.exists_document_of_mem_hits hhits (hresponse ▸ hhit)
    exact ⟨query, documents, rfl, hsearch, hread⟩

/-- Every hit is the reading of a document that stands for a stored record. -/
theorem exists_document_of_mem_hits {request : SearchRequest} {response : SearchResponse}
    (h : (search request).runFrom service = (.ok response, after)) {hit : Hit}
    (hhit : hit ∈ response.hits) :
    ∃ definition document, service.store.indexes.get? request.index = some definition ∧
      hit = .ofDocument (Key.space request.index) definition.fieldSet document ∧
      (service.store.get? document.key).isSome ∧
      (Text.startsWith? definition.keySpace document.key).isSome := by
  rw [runFrom_search] at h
  cases hdefinition : service.store.definition request.index with
  | error cause =>
    rw [hdefinition] at h
    cases h
  | ok definition =>
    rw [hdefinition] at h
    obtain ⟨query, hquery, hanswer⟩ := Attempt.except_bind_eq_ok.mp (congrArg Prod.fst h)
    obtain ⟨_, documents, -, hsearch, document, hdocument, hread⟩ :=
      exists_documents_of_answer hanswer hhit
    have hget := MemoryStore.definition_eq_ok_iff.mp hdefinition
    obtain ⟨other, hother, hstored, hstart⟩ :=
      MemoryStore.isSome_get?_of_search hsearch hdocument
    obtain rfl := Option.some.inj (hget.symm.trans hother)
    exact ⟨definition, document, hget, hread, hstored, hstart⟩

/-- **Every hit stands for a stored record** whose key begins as the definition of the index says,
under the rest of that key. -/
theorem exists_key_of_mem_hits {request : SearchRequest} {response : SearchResponse}
    (h : (search request).runFrom service = (.ok response, after)) {hit : Hit}
    (hhit : hit ∈ response.hits) :
    ∃ definition key, service.store.indexes.get? request.index = some definition ∧
      (service.store.get? key).isSome ∧ (Text.startsWith? definition.keySpace key).isSome ∧
      hit.id = (Text.startsWith? (Key.space request.index) key).getD key := by
  obtain ⟨definition, document, hget, rfl, hstored, hstart⟩ := exists_document_of_mem_hits h hhit
  exact ⟨definition, document.key, hget, hstored, hstart, rfl⟩

end Service

end HybridSearch
