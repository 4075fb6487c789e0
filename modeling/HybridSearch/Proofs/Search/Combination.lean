import HybridSearch.Proofs.Search.Parents
import HybridSearch.Proofs.Search.Probe
import HybridSearch.Proofs.Search.Repetition
import HybridSearch.Proofs.Search.Satisfied
import Mathlib.Data.Set.Lattice

/-!
# Combining filters

A search with several filters beside the searches with the same free text and one of the filters.

## Main definitions

* `SearchRequest.under`, `SearchRequest.only` — a request with another combinator, and with a single
  filter.
* `Service.foundIds` — the ids of the hits of a request.

## Main results

* `Service.answers_iff` — a request is answered if each filter has a predicate and the text a query.
* `Service.mem_foundIds_iff` — the ids that are found, if the limit cuts nothing off.
* `Service.foundIds_combined` — filters combine by intersection and by union.
-/

namespace HybridSearch

namespace SearchRequest

def under (request : SearchRequest) (combinator : Combinator) : SearchRequest :=
  { request with combinator := combinator }

/-- The request with the same free text and a single filter. -/
def only (request : SearchRequest) (filter : String × Json) : SearchRequest :=
  { request with filters := [filter] }

end SearchRequest

namespace Service

variable {α : Type} {service : Service MemoryStore α} {request : SearchRequest}
  {definition : IndexDefinition} {predicates : List Predicate} {query : Query}

/-- The ids of the hits of a request; none, if it is not answered. -/
def foundIds (service : Service MemoryStore α) (request : SearchRequest) : Set String :=
  {id | ∃ response, service.result request = .ok response ∧ ∃ hit ∈ response.hits, hit.id = id}

/-- The query of the free text of a request. -/
def textQuery (service : Service MemoryStore α) (definition : IndexDefinition)
    (request : SearchRequest) : Except SearchError Query :=
  ((Query.ofText definition.fieldSet request.freeText? request.limit request.parents).runFrom
    service.workspace.intake.gateway).1

/-- The hits of an answer are the documents that the store found. -/
theorem exists_answer_eq_ok {store : MemoryStore} {documents : List StoredDocument}
    (h : store.search request.index query = .ok documents) (fields : FieldSet) :
    ∃ response, answer store request fields (some query) = .ok response ∧ ∀ id,
      (∃ hit ∈ response.hits, hit.id = id) ↔
        ∃ document ∈ documents, document.id (Key.space request.index) = id := by
  have hhits (nearest : Bool) (id : String) :
      (∃ hit ∈ (let hits := documents.map (Hit.ofDocument (Key.space request.index) fields)
        if nearest then Hit.nearestFirst hits else hits), hit.id = id) ↔
        ∃ document ∈ documents, document.id (Key.space request.index) = id := by
    cases nearest
    · simp [Hit.ofDocument]
    · simp [Hit.nearestFirst, Hit.ofDocument]
  rw [answer, Query.runFrom_execute, MemoryStore.runFrom_search, h]
  cases hparents : request.parents with
  | false => exact ⟨_, rfl, hhits query.nearest.isSome⟩
  | true =>
    simp only [Except.mapError, Except.map, if_pos, ParentView.runFrom_expand, bind, Except.bind]
    exact ⟨_, rfl, hhits query.nearest.isSome⟩

/-- The predicates are put into the query of the text, and the store answers that. -/
theorem result_eq (hindex : service.store.indexes.get? request.index = some definition)
    (hpredicates : Predicate.ofFilters definition.fieldSet request.filters = .ok predicates)
    (hsome : predicates ≠ []) :
    service.result request =
      ((service.textQuery definition request).mapError compileFailure).bind fun query =>
        answer service.store request definition.fieldSet
          (some (query.restrict predicates request.combinator)) := by
  rw [result, runFrom_search, MemoryStore.definition_eq_ok_iff.mpr hindex]
  simp only [compiled, Query.compile_eq hpredicates hsome, Attempt.runFrom_recast,
    Attempt.runFrom_map]
  rw [textQuery]
  cases ((Query.ofText definition.fieldSet request.freeText? request.limit
    request.parents).runFrom service.workspace.intake.gateway).1 <;> rfl

theorem answers_iff (service : Service MemoryStore α) (request : SearchRequest)
    (hindex : service.store.indexes.get? request.index = some definition)
    (hdeclared : ∀ filter ∈ request.filters, (definition.fieldSet.get? filter.1).isSome)
    (hfilters : request.filters ≠ []) :
    service.Answers request ↔
      (∀ filter ∈ request.filters, ∃ p, Predicate.ofFilters definition.fieldSet [filter] = .ok [p]) ∧
        ∃ query, service.textQuery definition request = .ok query := by
  rw [← Predicate.exists_ofFilters_eq_ok_iff hdeclared, Answers]
  cases hpredicates : Predicate.ofFilters definition.fieldSet request.filters with
  | error cause =>
    have hresult : service.result request = .error (compileFailure cause) := by
      rw [result, runFrom_search, MemoryStore.definition_eq_ok_iff.mpr hindex]
      simp only [compiled, Attempt.runFrom_recast, Query.compile_of_error hpredicates]
      rfl
    simp [hresult]
  | ok predicates =>
    have hsome := Predicate.ne_nil_of_ofFilters_eq_ok hdeclared hfilters hpredicates
    rw [result_eq hindex hpredicates hsome]
    cases service.textQuery definition request with
    | error cause => simp [Except.mapError, Except.bind]
    | ok query =>
      obtain ⟨response, hresponse, -⟩ := exists_answer_eq_ok
        (MemoryStore.search_of_get? hindex (query.restrict predicates request.combinator))
        definition.fieldSet
      exact iff_of_true ⟨response, hresponse⟩ ⟨⟨predicates, rfl⟩, query, rfl⟩

/-- **The ids that are found** are those of the records that satisfy the query, if the limit cuts
nothing off. -/
theorem mem_foundIds_iff (request : SearchRequest) (id : String)
    (hindex : service.store.indexes.get? request.index = some definition)
    (hspace : definition.keySpace = Key.space request.index)
    (hlimit : service.store.records.entries.length ≤ request.limit)
    (hpredicates : Predicate.ofFilters definition.fieldSet request.filters = .ok predicates)
    (hsome : predicates ≠ []) (htext : service.textQuery definition request = .ok query) :
    id ∈ service.foundIds request ↔
      ∃ hash, service.store.get? (Key.record request.index id) = some hash ∧
        MemoryStore.Satisfied definition (query.restrict predicates request.combinator) hash := by
  obtain ⟨hquery, hk, -⟩ := Query.eq_of_runFrom_ofText (Prod.ext htext rfl)
  obtain ⟨documents, hdocuments, hkeys⟩ := MemoryStore.exists_search_eq_ok hindex
    (query.restrict predicates request.combinator) (hlimit.trans hquery.ge)
    fun clause hclause => (hk clause hclause).trans hquery.symm
  obtain ⟨response, hresponse, hids⟩ := exists_answer_eq_ok hdocuments definition.fieldSet
  have hresult : service.result request = .ok response := by
    rw [result_eq hindex hpredicates hsome, htext]
    exact hresponse
  have hid : (∃ document ∈ documents, document.id (Key.space request.index) = id) ↔
      ∃ document ∈ documents, document.key = Key.record request.index id := by
    refine exists_congr fun document => and_congr_right fun hdocument => ?_
    obtain ⟨_, -, hstart, -⟩ := (hkeys document.key).mp ⟨document, hdocument, rfl⟩
    obtain ⟨rest, hrest⟩ := Key.isSome_startsWith?_space.mp (hspace ▸ hstart)
    rw [StoredDocument.id, Key.startsWith?_space.mpr hrest, hrest, Key.record_inj]
    rfl
  rw [foundIds, Set.mem_ofPred_eq, hresult]
  simp only [Except.ok.injEq, exists_eq_left', hids, hid, hkeys, hspace,
    Key.isSome_startsWith?_space.mpr ⟨id, rfl⟩, true_and]

theorem foundIds_eq_empty (h : ¬service.Answers request) : service.foundIds request = ∅ :=
  Set.eq_empty_of_forall_notMem fun _ ⟨response, hresponse, _⟩ => h ⟨response, hresponse⟩

/-- A literal text is a clause of the query only where the index has no vector. -/
theorem literal_eq_none (htext : service.textQuery definition request = .ok query)
    (h : request.freeText? = none ∨ definition.fieldSet.vectorField?.isSome) :
    query.literal = none := by
  obtain ⟨-, -, hliteral⟩ := Query.eq_of_runFrom_ofText (Prod.ext htext rfl)
  by_contra hsome
  obtain ⟨hfree, hvector⟩ := hliteral (Option.isSome_iff_ne_none.mpr hsome)
  rcases h with h | h
  · rw [h] at hfree
    cases hfree
  · rw [hvector] at h
    cases h

section Combined

variable (hindex : service.store.indexes.get? request.index = some definition)
include hindex

section Declared

variable (hdeclared : ∀ filter ∈ request.filters, (definition.fieldSet.get? filter.1).isSome)
  {filter : String × Json} (hfilter : filter ∈ request.filters)
include hdeclared hfilter

theorem answers_only_iff (combinator : Combinator) :
    service.Answers ((request.only filter).under combinator) ↔
      (∃ p, Predicate.ofFilters definition.fieldSet [filter] = .ok [p]) ∧
        ∃ query, service.textQuery definition request = .ok query := by
  refine (answers_iff service ((request.only filter).under combinator) hindex ?_
    (List.cons_ne_nil filter [])).trans ?_
  · exact List.forall_mem_singleton.mpr (hdeclared filter hfilter)
  · exact and_congr_left' List.forall_mem_singleton

variable (hspace : definition.keySpace = Key.space request.index)
  (hlimit : service.store.records.entries.length ≤ request.limit)
include hspace hlimit

/-- A single filter is combined with nothing but a literal text. -/
theorem foundIds_only_under (h : request.freeText? = none ∨ definition.fieldSet.vectorField?.isSome)
    (left right : Combinator) :
    service.foundIds ((request.only filter).under left) =
      service.foundIds ((request.only filter).under right) := by
  by_cases hanswers : (∃ p, Predicate.ofFilters definition.fieldSet [filter] = .ok [p]) ∧
      ∃ query, service.textQuery definition request = .ok query
  · obtain ⟨⟨p, hp⟩, query, htext⟩ := hanswers
    have hmem (combinator : Combinator) (id : String) :=
      mem_foundIds_iff ((request.only filter).under combinator) id
        hindex hspace hlimit hp (List.cons_ne_nil p []) htext
    ext id
    rw [hmem left id, hmem right id]
    exact exists_congr fun hash => and_congr_right fun _ =>
      MemoryStore.satisfied_restrict_singleton_iff (literal_eq_none htext h) p left right
  · have hnone (combinator : Combinator) := foundIds_eq_empty
      (mt (answers_only_iff hindex hdeclared hfilter combinator).mp hanswers)
    rw [hnone left, hnone right]

end Declared

variable (hspace : definition.keySpace = Key.space request.index)
  (hlimit : service.store.records.entries.length ≤ request.limit)
  (hdeclared : ∀ filter ∈ request.filters, (definition.fieldSet.get? filter.1).isSome)
include hspace hlimit hdeclared

variable (hpredicates : Predicate.ofFilters definition.fieldSet request.filters = .ok predicates)
  (hsome : predicates ≠ []) (htext : service.textQuery definition request = .ok query)
include hpredicates hsome htext

/-- A record is found under all filters if it is found under each. -/
theorem foundIds_under_and :
    service.foundIds (request.under .and) =
      ⋂ filter ∈ request.filters, service.foundIds ((request.only filter).under .and) := by
  have hmem {p : Predicate} : p ∈ predicates ↔ _ :=
    Predicate.mem_of_ofFilters_eq_ok hdeclared hpredicates
  have honly {filter p} (hp : Predicate.ofFilters definition.fieldSet [filter] = .ok [p]) (id) :=
    mem_foundIds_iff ((request.only filter).under .and) id hindex hspace hlimit
      hp (List.cons_ne_nil p []) htext
  ext id
  rw [Set.mem_iInter₂, mem_foundIds_iff (request.under .and) id hindex hspace hlimit
    hpredicates hsome htext]
  simp only [SearchRequest.under, MemoryStore.satisfied_restrict_and_iff hsome]
  constructor
  · rintro ⟨hash, hget, hsatisfied⟩ filter hfilter
    obtain ⟨p, hp⟩ :=
      (Predicate.exists_ofFilters_eq_ok_iff hdeclared).mp ⟨predicates, hpredicates⟩ filter hfilter
    exact (honly hp id).mpr ⟨hash, hget, hsatisfied p (hmem.mpr ⟨filter, hfilter, hp⟩)⟩
  · intro h
    have hrecord (p) (hp : p ∈ predicates) : ∃ hash,
        service.store.get? (Key.record request.index id) = some hash ∧
          MemoryStore.Satisfied definition (query.restrict [p] .and) hash := by
      obtain ⟨filter, hfilter, hp⟩ := hmem.mp hp
      exact (honly hp id).mp (h filter hfilter)
    obtain ⟨first, hfirst⟩ := List.exists_mem_of_ne_nil predicates hsome
    obtain ⟨hash, hget, -⟩ := hrecord first hfirst
    refine ⟨hash, hget, fun p hp => ?_⟩
    obtain ⟨other, hother, hsatisfied⟩ := hrecord p hp
    rwa [← Option.some.inj (hother.symm.trans hget)]

/-- A record is found under one of the filters if it is found under one alone. -/
theorem foundIds_under_or :
    service.foundIds (request.under .or) =
      ⋃ filter ∈ request.filters, service.foundIds ((request.only filter).under .or) := by
  have hmem {p : Predicate} : p ∈ predicates ↔ _ :=
    Predicate.mem_of_ofFilters_eq_ok hdeclared hpredicates
  have honly {filter p} (hp : Predicate.ofFilters definition.fieldSet [filter] = .ok [p]) (id) :=
    mem_foundIds_iff ((request.only filter).under .or) id hindex hspace hlimit
      hp (List.cons_ne_nil p []) htext
  ext id
  rw [Set.mem_iUnion₂, mem_foundIds_iff (request.under .or) id hindex hspace hlimit
    hpredicates hsome htext]
  simp only [SearchRequest.under, MemoryStore.satisfied_restrict_or_iff hsome]
  constructor
  · rintro ⟨hash, hget, p, hp, hsatisfied⟩
    obtain ⟨filter, hfilter, hp⟩ := hmem.mp hp
    exact ⟨filter, hfilter, (honly hp id).mpr ⟨hash, hget, hsatisfied⟩⟩
  · rintro ⟨filter, hfilter, hid⟩
    obtain ⟨p, hp⟩ :=
      (Predicate.exists_ofFilters_eq_ok_iff hdeclared).mp ⟨predicates, hpredicates⟩ filter hfilter
    obtain ⟨hash, hget, hsatisfied⟩ := (honly hp id).mp hid
    exact ⟨hash, hget, p, hmem.mpr ⟨filter, hfilter, hp⟩, hsatisfied⟩

end Combined

/-- An index of two tags with a record that carries both and one that carries the first. -/
private def twoTagged : Service MemoryStore Unit :=
  let definition := IndexDefinition.compile "i" ⟨2, .l2⟩ [⟨"a", .tag, false⟩, ⟨"b", .tag, false⟩]
  let store : MemoryStore := ⟨Dict.empty.insert "i" definition, .empty⟩
  (fresh .standard none Probe.unloaded).withStore <|
    (store.hashSet "vs:i:1" [("a", .text "x"), ("b", .text "y")]).hashSet "vs:i:2" [("a", .text "x")]

private def bothTags : SearchRequest :=
  { SearchRequest.ofIndex "i" with filters := [("a", .str "x"), ("b", .str "y")] }

end Service

end HybridSearch
