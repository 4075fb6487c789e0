import HybridSearch.Proofs.Embedding.LifeCycle
import HybridSearch.Proofs.Ingest.Making
import HybridSearch.Proofs.Service.Search
import HybridSearch.Proofs.Text.Trim
import HybridSearch.Store.Faults

/-!
# How a search fails

A search that fails in the gateway or in the store reports the error that it met with, wrapped once
as a failed search. A missing index and an unreachable store are reported as they are. So is what
embedding a text ends with, unless it is said that there is no model.

## Main definitions

* `SearchError.Tells` — an error that wraps the one that was met with, once.
* `SearchError.IsFlat` — the errors that do not wrap a wrapped one.

## Main results

* `Service.search_of_embed_eq_error`, `Service.search_of_search_eq_error` — a search whose gateway
  or whose store fails, on any store.
* `Service.search_failure` — which failures are reported as a failed search.
* `Service.not_tells_of_text` — a failure of the model that is not.
-/

namespace HybridSearch

/-! ### Errors that wrap others -/

namespace SearchError

def isSearchFailed : SearchError → Bool
  | searchFailed _ => true
  | _ => false

def isEmbeddingUnavailable : SearchError → Bool
  | embeddingUnavailable _ => true
  | _ => false

/-- A missing index or an unreachable store. -/
def isReportedAsIs : SearchError → Bool
  | indexMissing _ => true
  | storeUnavailable _ => true
  | _ => false

/-- A failed search around what was met with, or around what that wraps already; what it is around
is no failed search itself. -/
def Tells (met error : SearchError) : Prop :=
  ∃ source, error = searchFailed source ∧ source.isSearchFailed = false ∧
    (source = met ∨ searchFailed source = met)

/-- The error wraps no error that wraps another. -/
def IsFlat (error : SearchError) : Prop :=
  ∀ source, error = searchFailed source → source.isSearchFailed = false

variable {error : SearchError}

theorem not_isSearchFailed_of_isEmbeddingUnavailable (h : error.isEmbeddingUnavailable = true) :
    error.isSearchFailed = false := by
  cases error with
  | searchFailed cause => cases h
  | _ => rfl

theorem isFlat_of_not_isSearchFailed (h : error.isSearchFailed = false) : error.IsFlat := by
  rintro source rfl
  cases h

theorem isFlat_searchFailed_iff : (searchFailed error).IsFlat ↔ error.isSearchFailed = false := by
  constructor
  · exact fun h => h error rfl
  · rintro h _ ⟨⟩
    exact h

theorem searchFailure_of_not_isSearchFailed (h : error.isSearchFailed = false) :
    error.searchFailure = searchFailed error := by
  cases error with
  | searchFailed cause => cases h
  | _ => rfl

theorem tells_searchFailed (h : error.isSearchFailed = false) : error.Tells (searchFailed error) :=
  ⟨error, rfl, h, Or.inl rfl⟩

/-- An error tells of itself if it is a failed search, and wraps once. -/
theorem tells_self_iff : error.Tells error ↔ error.isSearchFailed = true ∧ error.IsFlat := by
  constructor
  · rintro ⟨source, rfl, hsource, -⟩
    exact ⟨rfl, isFlat_searchFailed_iff.mpr hsource⟩
  · rintro ⟨hfailed, hflat⟩
    cases error with
    | searchFailed source => exact ⟨source, rfl, hflat source rfl, Or.inr rfl⟩
    | _ => cases hfailed

/-- Wrapping does not nest, unless an error comes with a nesting of its own. -/
theorem tells_searchFailure_iff : error.Tells error.searchFailure ↔ error.IsFlat := by
  cases hfailed : error.isSearchFailed with
  | false =>
    rw [searchFailure_of_not_isSearchFailed hfailed]
    exact iff_of_true (tells_searchFailed hfailed) (isFlat_of_not_isSearchFailed hfailed)
  | true =>
    cases error with
    | searchFailed source => exact tells_self_iff.trans (and_iff_right rfl)
    | _ => cases hfailed

theorem ofExecution_eq (error : SearchError) :
    error.ofExecution = if error.isReportedAsIs then error else error.searchFailure := by
  cases error <;> rfl

end SearchError

namespace Service

theorem compileFailure_eq (error : SearchError) :
    compileFailure error = if error.isEmbeddingUnavailable then .searchFailed error else error := by
  cases error <;> rfl

theorem tells_compileFailure_iff {error : SearchError} :
    error.Tells (compileFailure error) ↔
      error.isEmbeddingUnavailable = true ∨ error.isSearchFailed = true ∧ error.IsFlat := by
  rw [compileFailure_eq]
  cases hunavailable : error.isEmbeddingUnavailable with
  | true =>
    rw [if_pos rfl]
    have hfailed := SearchError.not_isSearchFailed_of_isEmbeddingUnavailable hunavailable
    exact iff_of_true (SearchError.tells_searchFailed hfailed) (Or.inl rfl)
  | false =>
    rw [if_neg Bool.false_ne_true, SearchError.tells_self_iff]
    exact (or_iff_right Bool.false_ne_true).symm

end Service

theorem freeText?_freeText? (text : Option String) :
    freeText? (freeText? text) = freeText? text := by
  cases text with
  | none => rfl
  | some text =>
    rw [freeText?, freeText?, Option.map_some]
    cases h : (Text.trim text).isEmpty <;> simp [h, Option.filter, Text.trim_trim]

/-- A load that fails is reported as a missing model, whatever is to be embedded. -/
theorem Gateway.embed_of_acquire_eq_error {gateway : Gateway} {cause : SearchError}
    (h : (acquire.runFrom gateway).1 = .error cause) (input : EmbeddingInput) :
    cause.isEmbeddingUnavailable = true ∧
      ((embed input).runFrom gateway).1 = .error cause := by
  have hembed : ((embed input).runFrom gateway).1 = .error cause := by
    rw [runFrom_embed]
    rcases hacquire : acquire.runFrom gateway with ⟨_ | _, after⟩
    · rw [hacquire] at h
      cases h
      rfl
    · rw [hacquire] at h
      cases h
  refine ⟨?_, hembed⟩
  cases hmodel : gateway.model with
  | some model =>
    rw [acquire_of_some hmodel] at h
    cases h
  | none =>
    by_cases hgives : Gives gateway.load gateway.dimensions gateway.loads
    · obtain ⟨model, hload, hdimensions⟩ := hgives
      rw [acquire_of_gives hmodel hload hdimensions] at h
      cases h
    · obtain ⟨details, hacquire⟩ := acquire_of_not_gives hmodel hgives
      rw [hacquire] at h
      cases h
      rfl

/-! ### Searches on any store -/

namespace Service

variable {σ α : Type} [Store σ] {service : Service σ α} {request : SearchRequest}
  {fields : FieldSet} {store : σ}

/-- What a search goes on from when it knows the fields of its index. -/
theorem runFrom_indexFields_of_info
    (hinfo : (Store.indexInfo request.index).runFrom service.workspace.store =
      (.ok fields, store)) :
    (indexFields request.index).runFrom service =
      (.ok fields, { service with workspace := ⟨store, service.workspace.intake⟩ }) := by
  rw [indexFields, onStore, onWorkspace, Workspace.onStore, Attempt.runFrom_within,
    Attempt.runFrom_within, hinfo]

omit [Store σ] in
theorem runFrom_onGateway_of_eq {β : Type} {step : Attempt SearchError Gateway β}
    {result : Except SearchError β} {after : Gateway} {config : Config} {archive : Option α}
    {intake : Intake} (h : step.runFrom intake.gateway = (result, after)) :
    (onGateway step).runFrom (⟨config, archive, ⟨store, intake⟩⟩ : Service σ α) =
      (result, ⟨config, archive, ⟨store, { intake with gateway := after }⟩⟩) := by
  rw [onGateway, onWorkspace, Workspace.onIntake, Attempt.runFrom_within, Attempt.runFrom_within,
    Attempt.runFrom_within, h]

theorem search_of_compiled_eq_error {cause : SearchError} {after : Gateway}
    (hinfo : (Store.indexInfo request.index).runFrom service.workspace.store = (.ok fields, store))
    (hcompiled : (compiled request fields).runFrom service.workspace.intake.gateway =
      (.error cause, after)) : ((search request).runFrom service).1 = .error cause := by
  rw [search, Attempt.runFrom_bind_of_ok (runFrom_indexFields_of_info hinfo)]
  exact congrArg Prod.fst (Attempt.runFrom_bind_of_error (runFrom_onGateway_of_eq hcompiled))

/-- **A search whose gateway fails** reports the error of the gateway, once its filters are read. -/
theorem search_of_embed_eq_error {predicates : List Predicate} {text : String}
    {cause : SearchError}
    (hinfo : (Store.indexInfo request.index).runFrom service.workspace.store = (.ok fields, store))
    (hfilters : Predicate.ofFilters fields request.filters = .ok predicates)
    (htext : request.freeText? = some text) (hvector : fields.vectorField?.isSome = true)
    (hembed : ((Gateway.embed (.text text)).runFrom service.workspace.intake.gateway).1 =
      .error cause) : ((search request).runFrom service).1 = .error (compileFailure cause) := by
  obtain ⟨field, hfield⟩ := Option.isSome_iff_exists.mp hvector
  have hfree : HybridSearch.freeText? request.freeText? = some text :=
    (freeText?_freeText? request.query).trans htext
  rcases hrun : (Gateway.embed (.text text)).runFrom service.workspace.intake.gateway with
    ⟨result, after⟩
  obtain rfl : result = .error cause := (congrArg Prod.fst hrun).symm.trans hembed
  have hcompile : (Query.compile fields request.freeText? request.filters request.combinator
      request.limit request.parents).runFrom service.workspace.intake.gateway =
        (.error cause, after) := by
    rw [Query.compile, hfilters, hfree, hfield]
    exact (Attempt.runFrom_bind_of_ok (Attempt.runFrom_ofExcept (.ok predicates) _)).trans
      (Attempt.runFrom_bind_of_error hrun)
  have hcompiled : (compiled request fields).runFrom service.workspace.intake.gateway =
      (.error (compileFailure cause), after) := by
    rw [compiled, Attempt.runFrom_recast, hcompile]
    rfl
  exact search_of_compiled_eq_error hinfo hcompiled

/-- **A search whose store fails** reports the error of the store. -/
theorem search_of_search_eq_error {query : Query} {cause : SearchError} {after : Gateway}
    {changed : σ}
    (hinfo : (Store.indexInfo request.index).runFrom service.workspace.store = (.ok fields, store))
    (hcompiled : (compiled request fields).runFrom service.workspace.intake.gateway =
      (.ok (some query), after))
    (hsearch : (Store.search request.index query).runFrom store = (.error cause, changed)) :
    ((search request).runFrom service).1 = .error cause.ofExecution := by
  have hexecute : (query.execute request.index fields).runFrom store =
      (.error cause.ofExecution, changed) := by
    refine Attempt.runFrom_bind_of_error ?_
    rw [Attempt.runFrom_recast, hsearch]
    rfl
  have hhits (loaded : Service σ α) (hloaded : loaded.workspace.store = store) :
      ((onStore (query.execute request.index fields)).runFrom loaded).1 =
        .error cause.ofExecution := by
    rw [onStore, onWorkspace, Workspace.onStore, Attempt.runFrom_within, Attempt.runFrom_within,
      hloaded, hexecute]
  rw [search, Attempt.runFrom_bind_of_ok (runFrom_indexFields_of_info hinfo)]
  refine (congrArg Prod.fst
    (Attempt.runFrom_bind_of_ok (runFrom_onGateway_of_eq hcompiled))).trans ?_
  exact congrArg Prod.fst (Attempt.runFrom_bind_of_error (Prod.ext (hhits _ rfl) rfl))

/-- **Which failures are reported as a failed search.** Let the fields of the index be found and the
filters be read. A model that cannot be loaded is told of in a failed search; an error of the model
on the text is so if and only if it says that there is no model or is a failed search already, and
is reported as it is otherwise. A missing index and an unreachable store are reported as the store
raised them, and any other error of the store is told of in a failed search. What is wrapped is
never a failed search itself, unless it was nested when it was raised. -/
theorem search_failure {predicates : List Predicate}
    (hinfo : (Store.indexInfo request.index).runFrom service.workspace.store = (.ok fields, store))
    (hfilters : Predicate.ofFilters fields request.filters = .ok predicates) :
    let gateway := service.workspace.intake.gateway
    let result := ((search request).runFrom service).1
    (∀ text, request.freeText? = some text → fields.vectorField?.isSome = true →
      (∀ cause, (Gateway.acquire.runFrom gateway).1 = .error cause →
        result = .error (.searchFailed cause) ∧ cause.isSearchFailed = false) ∧
      ∀ cause, ((Gateway.embed (.text text)).runFrom gateway).1 = .error cause →
        ∃ error, result = .error error ∧
          (cause.Tells error ↔ cause.isEmbeddingUnavailable = true ∨
            cause.isSearchFailed = true ∧ cause.IsFlat) ∧
          (cause.isEmbeddingUnavailable = false → error = cause)) ∧
    ∀ query loaded cause changed,
      (compiled request fields).runFrom gateway = (.ok (some query), loaded) →
      (Store.search request.index query).runFrom store = (.error cause, changed) →
        (cause.isReportedAsIs = true → result = .error cause) ∧
        (cause.isReportedAsIs = false → result = .error cause.searchFailure ∧
          (cause.Tells cause.searchFailure ↔ cause.IsFlat)) := by
  intro gateway result
  refine ⟨fun text htext hvector => ⟨fun cause hload => ?_, fun cause hembed => ?_⟩,
    fun query loaded cause changed hcompiled hsearch => ⟨fun hkept => ?_, fun hwrapped => ?_⟩⟩
  · obtain ⟨hunavailable, hembed⟩ := Gateway.embed_of_acquire_eq_error hload (.text text)
    have hresult := search_of_embed_eq_error hinfo hfilters htext hvector hembed
    rw [compileFailure_eq, if_pos hunavailable] at hresult
    exact ⟨hresult, SearchError.not_isSearchFailed_of_isEmbeddingUnavailable hunavailable⟩
  · refine ⟨_, search_of_embed_eq_error hinfo hfilters htext hvector hembed, ?_, fun hother => ?_⟩
    · exact tells_compileFailure_iff
    · rw [compileFailure_eq, hother, if_neg Bool.false_ne_true]
  · have hresult := search_of_search_eq_error hinfo hcompiled hsearch
    rwa [SearchError.ofExecution_eq, if_pos hkept] at hresult
  · have hresult := search_of_search_eq_error hinfo hcompiled hsearch
    rw [SearchError.ofExecution_eq, hwrapped, if_neg Bool.false_ne_true] at hresult
    exact ⟨hresult, SearchError.tells_searchFailure_iff⟩

/-- An index of one text in a store that refuses to be searched. -/
private def refusing : Service (Faulty MemoryStore) Unit :=
  ⟨.standard, none, ⟨.ofStore ⟨.insert .empty "i" ⟨"i", "vs:i:", [⟨"e", .text, false⟩]⟩, .empty⟩
    ⟨fun operation _ => if operation = .search then some (.badResponse "redis" "refused") else none,
      none, false⟩, .sample⟩⟩

/-- An index of one vector, with a model that says of every text that an index is missing. -/
private def textless : Service MemoryStore Unit :=
  ⟨.standard, none, ⟨⟨.insert .empty "i" ⟨"i", "vs:i:", [⟨"e", .vector ⟨1, .l2⟩, false⟩]⟩, .empty⟩,
    ⟨.ofLoader (fun _ => .ok ⟨1, fun _ => .error (.indexMissing "injected")⟩) 1, ⟨toString, 0⟩⟩⟩⟩

private def freeTextSearch : SearchRequest := { SearchRequest.ofIndex "i" with query := some "x" }

private def freeTextQuery : Query := { Query.ofPredicates [] .and 10 with literal := some "x" }

/-- A store that refuses to be searched makes the search fail once. -/
theorem search_failure_of_refusing :
    ((search freeTextSearch).runFrom refusing).1 =
      .error (.searchFailed (.badResponse "redis" "refused")) := by
  have hinfo : (Store.indexInfo freeTextSearch.index).runFrom refusing.workspace.store =
      (.ok [⟨"e", .text, false⟩], refusing.workspace.store) := rfl
  have hcompiled : (compiled freeTextSearch [⟨"e", .text, false⟩]).runFrom
      refusing.workspace.intake.gateway =
        (.ok (some freeTextQuery), refusing.workspace.intake.gateway) := rfl
  have hsearch : (Store.search freeTextSearch.index freeTextQuery).runFrom
      refusing.workspace.store =
        (.error (.badResponse "redis" "refused"), refusing.workspace.store) := rfl
  obtain ⟨-, hstore⟩ := search_failure hinfo rfl
  exact ((hstore _ _ _ _ hcompiled hsearch).2 rfl).1

/-- What a model ends with on a text need not be told of in a failed search: a missing index is
reported as if it were the one that is searched. -/
theorem not_tells_of_text :
    ¬∀ (service : Service MemoryStore Unit) (request : SearchRequest) (fields : FieldSet)
        (store : MemoryStore) (predicates : List Predicate) (text : String) (cause : SearchError),
      (Store.indexInfo request.index).runFrom service.workspace.store = (.ok fields, store) →
      Predicate.ofFilters fields request.filters = .ok predicates →
      request.freeText? = some text → fields.vectorField?.isSome = true →
      ((Gateway.embed (.text text)).runFrom service.workspace.intake.gateway).1 = .error cause →
        ∃ error, ((search request).runFrom service).1 = .error error ∧ cause.Tells error := by
  intro hall
  have hinfo : (Store.indexInfo freeTextSearch.index).runFrom textless.workspace.store =
      (.ok [⟨"e", .vector, false⟩], textless.workspace.store) := rfl
  have hembed : ((Gateway.embed (.text "x")).runFrom textless.workspace.intake.gateway).1 =
      .error (.indexMissing "injected") := rfl
  obtain ⟨error, hresult, source, rfl, -⟩ :=
    hall textless freeTextSearch _ _ [] "x" _ hinfo rfl rfl rfl hembed
  have hmissing := search_of_embed_eq_error hinfo rfl rfl rfl hembed
  cases hmissing.symm.trans hresult

end Service

end HybridSearch
