import HybridSearch.Proofs.Service.Run

/-!
# Searching in memory

A search compiles its query with the gateway and answers it from the store, which it leaves as it
is.

## Main definitions

* `Service.answer` — what the store answers to a query.
* `Service.withGateway`.

## Main results

* `Service.runFrom_search` — a search as the answer to the query that is compiled for it.
* `Service.keeps_search` — a search changes neither the configuration nor the store.
-/

namespace HybridSearch

/-! ### Steps that read the store -/

theorem Query.isReadOnly_execute (query : Query) (index : String) (fields : FieldSet) :
    (query.execute index fields : Attempt SearchError MemoryStore _).IsReadOnly :=
  .bind (fun _ => rfl) fun _ => .pure _

namespace ParentView

theorem isReadOnly_loadChunk (index id : String) :
    (loadChunk index id : Attempt SearchError MemoryStore _).IsReadOnly := by
  refine .bind (Attempt.Keeps.outcome (MemoryStore.isReadOnly_hashGetAll _)) fun result => ?_
  split <;> exact .pure _

theorem isReadOnly_expand (index : String) (hits : List Hit) (limit : Nat) :
    (expand index hits limit : Attempt SearchError MemoryStore _).IsReadOnly := by
  refine .bind (.mapM (fun uid => ?_) _) fun parents => .bind (.mapM (fun parent => ?_) _)
    fun _ => .pure _
  · exact .bind (.bind (MemoryStore.isReadOnly_hashGet _ _) fun _ => .pure _) fun _ => .pure _
  · exact .bind (.mapM (isReadOnly_loadChunk index) _) fun _ => .pure _

end ParentView

namespace Service

variable {α ε β : Type}

def withGateway (service : Service MemoryStore α) (gateway : Gateway) : Service MemoryStore α :=
  { service with
    workspace := { service.workspace with
      intake := { service.workspace.intake with gateway := gateway } } }

theorem runFrom_onStore_of_isReadOnly {step : Attempt ε MemoryStore β} (h : step.IsReadOnly)
    (service : Service MemoryStore α) :
    (onStore step).runFrom service = ((step.runFrom service.store).1, service) := by
  rw [runFrom_onStore, show (step.runFrom service.store).2 = service.store from h service.store,
    withStore_store]

theorem runFrom_onGateway (step : Attempt ε Gateway β) (service : Service MemoryStore α) :
    (onGateway step).runFrom service =
      ((step.runFrom service.workspace.intake.gateway).1,
        service.withGateway (step.runFrom service.workspace.intake.gateway).2) :=
  rfl

/-- The answer of a store to a query, and to none if there is nothing to search for. -/
def answer (store : MemoryStore) (request : SearchRequest) (fields : FieldSet) :
    Option Query → Except SearchError SearchResponse
  | none => .ok .empty
  | some query => do
    let hits ← ((query.execute request.index fields).runFrom store).1
    let parents ←
      if request.parents then
        ((ParentView.expand request.index hits request.limit).runFrom store).1
      else .ok []
    return ⟨hits, parents⟩

/-- How the query of a request is compiled. -/
def compiled (request : SearchRequest) (fields : FieldSet) :
    Attempt SearchError Gateway (Option Query) :=
  (Query.compile fields request.freeText? request.filters request.combinator request.limit
    request.parents).recast compileFailure

theorem exists_compile_of_compiled {request : SearchRequest} {fields : FieldSet} {gateway : Gateway}
    {query : Option Query} (h : ((compiled request fields).runFrom gateway).1 = .ok query) :
    ∃ after, (Query.compile fields request.freeText? request.filters request.combinator
      request.limit request.parents).runFrom gateway = (.ok query, after) := by
  rw [compiled, Attempt.runFrom_recast] at h
  rcases hcompile : (Query.compile fields request.freeText? request.filters request.combinator
    request.limit request.parents).runFrom gateway with ⟨cause | compiled, after⟩
  · rw [hcompile] at h
    cases h
  · rw [hcompile] at h
    obtain rfl := Except.ok.inj h
    exact ⟨after, rfl⟩

private theorem runFrom_answering (request : SearchRequest) (fields : FieldSet) (query : Query)
    (service : Service MemoryStore α) :
    (do
      let hits ← onStore (query.execute request.index fields)
      let parents ←
        if request.parents then onStore (ParentView.expand request.index hits request.limit)
        else pure []
      return ⟨hits, parents⟩ : Attempt SearchError (Service MemoryStore α) _).runFrom service =
      (answer service.store request fields (some query), service) := by
  have hhits := runFrom_onStore_of_isReadOnly (query.isReadOnly_execute request.index fields)
    service
  rw [answer]
  cases hresult : ((query.execute request.index fields).runFrom service.store).1 with
  | error cause =>
    rw [hresult] at hhits
    exact Attempt.runFrom_bind_of_error hhits
  | ok hits =>
    rw [hresult] at hhits
    refine (Attempt.runFrom_bind_of_ok hhits).trans ?_
    dsimp only [bind, Except.bind]
    split
    · have hparents := runFrom_onStore_of_isReadOnly
        (ParentView.isReadOnly_expand request.index hits request.limit) service
      cases hviews : ((ParentView.expand request.index hits request.limit).runFrom
        service.store).1 with
      | error cause =>
        rw [hviews] at hparents
        exact Attempt.runFrom_bind_of_error hparents
      | ok views =>
        rw [hviews] at hparents
        exact Attempt.runFrom_bind_of_ok hparents
    · rfl

/-- **A search is the answer to its query.** -/
theorem runFrom_search (request : SearchRequest) (service : Service MemoryStore α) :
    (search request).runFrom service =
      match service.store.definition request.index with
      | .error cause => (.error cause, service)
      | .ok definition =>
        let (query, gateway) := (compiled request definition.fieldSet).runFrom
          service.workspace.intake.gateway
        (query.bind (answer service.store request definition.fieldSet),
          service.withGateway gateway) := by
  have hfields := runFrom_indexFields service request.index
  cases hdefinition : service.store.definition request.index with
  | error cause =>
    rw [hdefinition] at hfields
    exact Attempt.runFrom_bind_of_error hfields
  | ok definition =>
    rw [hdefinition] at hfields
    refine (Attempt.runFrom_bind_of_ok hfields).trans ?_
    dsimp only
    have hquery := runFrom_onGateway (compiled request definition.fieldSet) service
    rcases hcompiled : (compiled request definition.fieldSet).runFrom
      service.workspace.intake.gateway with ⟨cause | _ | query, gateway⟩
    · rw [hcompiled] at hquery
      exact Attempt.runFrom_bind_of_error hquery
    · rw [hcompiled] at hquery
      exact Attempt.runFrom_bind_of_ok hquery
    · rw [hcompiled] at hquery
      refine (Attempt.runFrom_bind_of_ok hquery).trans ?_
      exact runFrom_answering request definition.fieldSet query (service.withGateway gateway)

theorem keeps_search (request : SearchRequest) :
    (search request : Attempt SearchError (Service MemoryStore α) _).Keeps
      fun service => (service.config, service.store) := by
  intro service
  rw [runFrom_search]
  split <;> rfl

end Service

end HybridSearch
