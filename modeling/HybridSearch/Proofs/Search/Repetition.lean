import HybridSearch.Proofs.Embedding.Gateway
import HybridSearch.Proofs.Service.Search

/-!
# One search after another

A search may load the model. What it loads is what any later search would have loaded, so the order
of searches makes no difference as long as they are answered.

## Main definitions

* `Service.result` — how a search for a request ends.

## Main results

* `Service.result_after_search` — an answered search leaves the ends of all others as they were.
-/

namespace HybridSearch

namespace Query

variable {fields : FieldSet} {text : Option String} {filters : Json.Members}
  {combinator : Combinator} {limit : Nat} {wantParents : Bool}

/-- A query depends on the gateway through the vector of its text alone. -/
theorem compile_congr {left right : Gateway} (h : left.Agree right) :
    ((compile fields text filters combinator limit wantParents).runFrom left).1 =
      ((compile fields text filters combinator limit wantParents).runFrom right).1 := by
  rw [compile]
  cases Predicate.ofFilters fields filters with
  | error cause => rfl
  | ok predicates =>
    have hbind {α : Type} (next : List Predicate → Attempt SearchError Gateway α) :
      Attempt.ofExcept (.ok predicates) >>= next = next predicates := rfl
    rw [hbind]
    cases freeText? text with
    | none => rfl
    | some text =>
      cases fields.vectorField? with
      | none => rfl
      | some field =>
        have htext := h (.text text)
        simp only [Attempt.runFrom_bind]
        rcases hleft : (Gateway.embed (.text text)).runFrom left with ⟨_ | _, _⟩ <;>
          rcases hright : (Gateway.embed (.text text)).runFrom right with ⟨_ | _, _⟩ <;>
          rw [hleft, hright] at htext <;> cases htext <;> rfl

theorem agree_of_runFrom_compile {gateway after : Gateway} {query : Option Query}
    (h : (compile fields text filters combinator limit wantParents).runFrom gateway =
      (.ok query, after)) : after.Agree gateway := by
  obtain ⟨predicates, start, hpredicates, h⟩ := Attempt.runFrom_bind_eq_ok.mp h
  obtain ⟨-, rfl⟩ := Prod.mk.inj hpredicates
  cases hfree : freeText? text with
  | none =>
    rw [hfree] at h
    cases h
    exact fun _ => rfl
  | some text =>
    cases hfield : fields.vectorField? with
    | none =>
      rw [hfree, hfield] at h
      cases h
      exact fun _ => rfl
    | some field =>
      rw [hfree, hfield] at h
      obtain ⟨vector, loaded, hembed, hend⟩ := Attempt.runFrom_bind_eq_ok.mp h
      obtain ⟨-, rfl⟩ := Prod.mk.inj hend
      exact Gateway.agree_of_runFrom_embed hembed

end Query

namespace Service

variable {α : Type} {service after : Service MemoryStore α}

/-- How a search for a request ends. -/
def result (service : Service MemoryStore α) (request : SearchRequest) :
    Except SearchError SearchResponse :=
  ((search request).runFrom service).1

/-- The request is answered. -/
def Answers (service : Service MemoryStore α) (request : SearchRequest) : Prop :=
  ∃ response, service.result request = .ok response

theorem result_eq_bind (service : Service MemoryStore α) (request : SearchRequest) :
    service.result request =
      (service.store.definition request.index).bind fun definition =>
        ((compiled request definition.fieldSet).runFrom service.workspace.intake.gateway).1.bind
          (answer service.store request definition.fieldSet) := by
  rw [result, runFrom_search]
  cases service.store.definition request.index <;> rfl

theorem result_eq_of_agree (service : Service MemoryStore α) {gateway : Gateway}
    (h : gateway.Agree service.workspace.intake.gateway) (request : SearchRequest) :
    (service.withGateway gateway).result request = service.result request := by
  have hcompiled (fields : FieldSet) :
      ((compiled request fields).runFrom gateway).1 =
        ((compiled request fields).runFrom service.workspace.intake.gateway).1 :=
    congrArg (Except.mapError compileFailure) (Query.compile_congr h)
  rw [result_eq_bind, result_eq_bind]
  simp only [← hcompiled]
  rfl

/-- **An answered search leaves the ends of all others as they were.** -/
theorem result_after_search {request : SearchRequest} {response : SearchResponse}
    (h : (search request).runFrom service = (.ok response, after)) (other : SearchRequest) :
    after.result other = service.result other := by
  rw [runFrom_search] at h
  cases hdefinition : service.store.definition request.index with
  | error cause =>
    rw [hdefinition] at h
    cases h
  | ok definition =>
    rw [hdefinition] at h
    rcases hcompile : (Query.compile definition.fieldSet request.freeText? request.filters
      request.combinator request.limit request.parents).runFrom
        service.workspace.intake.gateway with ⟨cause | query, gateway⟩
    · simp only [compiled, Attempt.runFrom_recast, hcompile] at h
      cases h
    · simp only [compiled, Attempt.runFrom_recast, hcompile] at h
      obtain ⟨-, rfl⟩ := Prod.mk.inj h
      exact service.result_eq_of_agree (Query.agree_of_runFrom_compile hcompile) other

end Service

end HybridSearch
