import HybridSearch.Proofs.Attempt
import HybridSearch.Service

/-!
# Uploads

The file of an upload goes to the archive, if there is one, and its rows go to the store. Neither
depends on what becomes of the other.

## Main definitions

* `Service.Lifts` — a step of a service that is a step of its workspace.
* `Service.filing?` — the put of an upload into the archive.
* `Service.ingestUpload` — the ingestion of an upload.

## Main results

* `Service.runFrom_upload` — an upload is the two side by side.
* `Service.upload_without_archive` — the archive makes no difference but for the etag.
-/

namespace HybridSearch.Service

variable {σ α ε β γ δ : Type}

/-! ### Steps of the workspace -/

/-- With a given configuration, the service does what its workspace does, and the result is given
another form. -/
def Lifts (config : Config) (form : β → γ) (step : Attempt ε (Workspace σ) β)
    (whole : Attempt ε (Service σ α) γ) : Prop :=
  ∀ archive workspace, whole.runFrom ⟨config, archive, workspace⟩ =
    ((step.runFrom workspace).1.map form, ⟨config, archive, (step.runFrom workspace).2⟩)

namespace Lifts

variable {config : Config} {form : β → γ} {step : Attempt ε (Workspace σ) β}

theorem onWorkspace (step : Attempt ε (Workspace σ) β) :
    Lifts (α := α) config id step (Service.onWorkspace step) := by
  intro archive workspace
  rw [Service.onWorkspace, Attempt.runFrom_within]
  rcases step.runFrom workspace with ⟨cause | result, after⟩ <;> rfl

theorem recast {whole : Attempt ε (Service σ α) γ} (h : Lifts config form step whole)
    (cast : ε → δ) : Lifts config form (step.recast cast) (whole.recast cast) := by
  intro archive workspace
  rw [Attempt.runFrom_recast, Attempt.runFrom_recast, h archive workspace]
  rcases step.runFrom workspace with ⟨cause | result, after⟩ <;> rfl

theorem ofExcept (result : Except ε β) :
    Lifts (σ := σ) (α := α) config id (Attempt.ofExcept result) (Attempt.ofExcept result) := by
  intro archive workspace
  cases result <;> rfl

/-- The configuration is read off the service. -/
theorem get_bind {next : Service σ α → Attempt ε (Service σ α) γ}
    (h : ∀ archive workspace, Lifts config form step (next ⟨config, archive, workspace⟩)) :
    Lifts config form step (get >>= next) := by
  intro archive workspace
  exact (Attempt.runFrom_bind_of_ok (Attempt.runFrom_get _)).trans
    (h archive workspace archive workspace)

theorem map {whole : Attempt ε (Service σ α) β} (h : Lifts config id step whole) (form : β → γ) :
    Lifts config form step (whole >>= fun result => pure (form result)) := by
  intro archive workspace
  rw [← map_eq_pure_bind, Attempt.runFrom_map, h archive workspace]
  rcases step.runFrom workspace with ⟨cause | result, after⟩ <;> rfl

theorem bind {first : Attempt ε (Workspace σ) δ} {whole : Attempt ε (Service σ α) δ}
    {next : δ → Attempt ε (Workspace σ) β} {wholeNext : δ → Attempt ε (Service σ α) γ}
    (h : Lifts config id first whole)
    (hnext : ∀ result, Lifts config form (next result) (wholeNext result)) :
    Lifts config form (first >>= next) (whole >>= wholeNext) := by
  intro archive workspace
  have hwhole := h archive workspace
  rcases hfirst : first.runFrom workspace with ⟨cause | result, after⟩
  · rw [hfirst] at hwhole
    rw [Attempt.runFrom_bind_of_error hfirst]
    exact Attempt.runFrom_bind_of_error hwhole
  · rw [hfirst] at hwhole
    rw [Attempt.runFrom_bind_of_ok hfirst]
    exact (Attempt.runFrom_bind_of_ok hwhole).trans (hnext result archive after)

end Lifts

/-! ### The archive -/

variable [BlobStore α]

variable (service : Service σ α) (index name : String) (content : Option Bytes)

/-- How the put of an upload ends and what it leaves of the archive, if there is one. -/
def filing? (contentType : String) : Option (Except IngestError String × α) :=
  service.archive.map fun archive =>
    (BlobStore.put service.config.archiveBucket (index ++ "/" ++ name) content
      [("Content-Type", .str contentType)] : Attempt IngestError α String).runFrom archive

theorem runFrom_archiveUpload (contentType : String) :
    (archiveUpload index name content contentType).runFrom service =
      (.ok ((service.filing? index name content contentType).bind fun filed => filed.1.toOption),
        { service with archive :=
            (service.filing? index name content contentType).map Prod.snd }) := by
  rw [archiveUpload, Attempt.runFrom_mk, filing?]
  cases service with
  | mk config archive workspace => cases archive <;> rfl

/-! ### The rows -/

variable [Store σ]

/-- The file is read once the index is known. -/
def ingestUpload (config : Config) : Attempt IngestError (Workspace σ) IngestReport := do
  let fields ← (Workspace.onStore (Store.indexInfo index)).recast IngestError.search
  let bytes ← Attempt.ofExcept (presentBytes content)
  Ingest.csv config.coercion index fields config.ingestConcurrency bytes

/-- **An upload is a put and an ingestion side by side.** How it ends is up to the ingestion, and the
put adds the etag. -/
theorem runFrom_upload (contentType : Option String) :
    (upload index name content contentType).runFrom service =
      let filed := service.filing? index name content (contentType.getD standardContentType)
      let ingested := (ingestUpload index content service.config).runFrom service.workspace
      (ingested.1.map (UploadOutcome.mk (filed.bind fun filed => filed.1.toOption)),
        ⟨service.config, filed.map Prod.snd, ingested.2⟩) := by
  rw [upload, Attempt.runFrom_bind_of_ok (runFrom_archiveUpload service index name content _)]
  refine Lifts.bind ?_ ?_ _ _
  · exact (Lifts.onWorkspace (Workspace.onStore (Store.indexInfo index))).recast _
  · exact fun fields => .bind (.ofExcept _) fun bytes => .get_bind fun _ _ => .map (.onWorkspace _) _

/-- **The archive never stands in the way.** Whatever it does, the report of an upload or its failure
and the workspace after it, the store and the ids that are left included, are as without an archive.
There is an etag just if there is an archive, the put into it succeeds and so does the upload. -/
theorem upload_without_archive (contentType : Option String) :
    let run := (upload index name content contentType).runFrom service
    let bare := (upload index name content contentType).runFrom
      ({ service with archive := none } : Service σ α)
    run.1.map UploadOutcome.report = bare.1.map UploadOutcome.report ∧
      run.2.workspace = bare.2.workspace ∧
      ∀ etag, run.1.toOption.bind UploadOutcome.etag = some etag ↔
        (∃ kept, service.filing? index name content (contentType.getD standardContentType) =
          some (.ok etag, kept)) ∧ ∃ outcome, run.1 = .ok outcome := by
  dsimp only
  rw [runFrom_upload, runFrom_upload]
  dsimp only
  generalize (ingestUpload index content service.config).runFrom service.workspace = ingested
  generalize service.filing? index name content (contentType.getD standardContentType) = filed
  obtain ⟨cause | report, after⟩ := ingested
  · refine ⟨rfl, rfl, fun etag => ?_⟩
    simp [Except.map, Except.toOption]
  · refine ⟨rfl, rfl, fun etag => ?_⟩
    rcases filed with _ | ⟨cause | kept, archive⟩ <;> simp [Except.map, Except.toOption]

end HybridSearch.Service
