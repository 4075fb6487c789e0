import HybridSearch.Config
import HybridSearch.Files.Archive
import HybridSearch.Ingest.Batch
import HybridSearch.Query.Compile
import HybridSearch.Removal.Documents
import HybridSearch.Removal.Sweep
import HybridSearch.Search.Execute
import HybridSearch.Search.Parent

/-!
# The search service

Indexes, ingestion and hybrid search over one store, with one gateway for embeddings and an archive
for uploads if there is one.

## Main definitions

* `Service` — the state of a service.
* `Service.createIndex`, `Service.alterIndex`, `Service.dropIndex`, `Service.listIndexes`,
  `Service.indexFields` — the indexes.
* `Service.ingestDocuments`, `Service.ingestFile`, `Service.upload` — ingestion.
* `Service.search` — a search with the parents of its hits.
* `Service.putParent`, `Service.deleteDocuments`, `Service.sweep`.
-/

namespace HybridSearch

inductive IndexOutcome where
  | created
  | alreadyExists
  deriving DecidableEq, Repr

def IndexOutcome.name : IndexOutcome → String
  | created => "created"
  | alreadyExists => "already_exists"

structure SearchResponse where
  hits : List Hit
  parents : List ParentView

namespace SearchResponse

def empty : SearchResponse := ⟨[], []⟩

/-- Without parents there is no member for them. -/
def toJson (response : SearchResponse) : Json :=
  let hits := response.hits.map fun hit => .object [("id", .str hit.id), ("value", .obj hit.value)]
  let parents :=
    if response.parents.isEmpty then []
    else [("parents", .arr (response.parents.map ParentView.toJson))]
  .object (("hits", .arr hits) :: parents)

end SearchResponse

/-- What became of an upload: its etag if it was archived, and its rows. -/
structure UploadOutcome where
  etag : Option String
  report : IngestReport

def UploadOutcome.toJson (outcome : UploadOutcome) : Json :=
  .object
    [("etag", match outcome.etag with | some etag => .str etag | none => .null),
      ("written", .strings outcome.report.written),
      ("failed", .arr (outcome.report.failed.map fun failure =>
        .arr [.nat failure.row, .str failure.reason]))]

structure Service (σ α : Type) where
  config : Config
  archive : Option α
  workspace : Workspace σ

namespace Service

variable {σ α ε β : Type}

def onWorkspace (step : Attempt ε (Workspace σ) β) : Attempt ε (Service σ α) β :=
  step.within Service.workspace fun service workspace => { service with workspace := workspace }

def onStore (step : Attempt ε σ β) : Attempt ε (Service σ α) β :=
  onWorkspace (Workspace.onStore step)

def onGateway (step : Attempt ε Gateway β) : Attempt ε (Service σ α) β :=
  onWorkspace <| Workspace.onIntake <|
    step.within Intake.gateway fun intake gateway => { intake with gateway := gateway }

variable [Store σ] [BlobStore α]

/-! ### Indexes -/

/-- An index that is there already is no failure. -/
def createIndex (name : String) (fields : List Field) :
    Attempt SearchError (Service σ α) IndexOutcome := do
  let definition := IndexDefinition.compile name (← get).config.vector fields
  match ← onStore (Store.createIndex definition).outcome with
  | .ok () => return .created
  | .error cause => if cause.isSchemaConflict then return .alreadyExists else throw cause

def alterIndex (name : String) (fields : List Field) : Attempt SearchError (Service σ α) Unit := do
  let attributes := Attribute.compile (← get).config.vector fields
  onStore (Store.alterIndex name attributes)

def sweep (cancelled : σ → Bool) (pattern : String) :
    Attempt SearchError (Service σ α) SweepReport :=
  onStore (Sweep.run cancelled pattern)

/-- Removes the definition and, if that is wanted, sweeps the records. -/
def dropIndex (cancelled : σ → Bool) (name : String) (deleteRecords : Bool) :
    Attempt SearchError (Service σ α) (Option SweepReport) := do
  onStore (Store.dropIndex name)
  if deleteRecords then some <$> sweep cancelled (Key.pattern name) else return none

def listIndexes : Attempt SearchError (Service σ α) (List String) := onStore Store.listIndexes

def indexFields (name : String) : Attempt SearchError (Service σ α) FieldSet :=
  onStore (Store.indexInfo name)

/-! ### Search -/

/-- A model that is missing makes the search fail. -/
def compileFailure : SearchError → SearchError
  | .embeddingUnavailable details => .searchFailure (.embeddingUnavailable details)
  | cause => cause

def search (request : SearchRequest) : Attempt SearchError (Service σ α) SearchResponse := do
  let fields ← indexFields request.index
  let query ← onGateway <| (Query.compile fields request.freeText? request.filters
    request.combinator request.limit request.parents).recast compileFailure
  match query with
  | none => return .empty
  | some query =>
    let hits ← onStore (query.execute request.index fields)
    let parents ←
      if request.parents then onStore (ParentView.expand request.index hits request.limit)
      else pure []
    return ⟨hits, parents⟩

/-! ### Ingestion -/

def ingestDocuments (index : String) (documents : Json) :
    Attempt IngestError (Service σ α) IngestReport := do
  let fields ← (indexFields index).recast IngestError.search
  let config := (← get).config
  onWorkspace (Ingest.documents config.coercion index fields config.ingestConcurrency documents)

/-- The content of a file that was to be read. -/
def presentBytes (content : Option Bytes) : Except IngestError Bytes :=
  match content with
  | some bytes => .ok bytes
  | none => .error (.io "No such file or directory (os error 2)")

def readJson (content : Option Bytes) : Except IngestError Json := do
  let bytes ← presentBytes content
  match (Text.decode? bytes).bind Json.parse? with
  | some json => return json
  | none => .error (.json "malformed document")

/-- Reads a file in a format and ingests what it holds. -/
def ingestAs (format : Path.Format) (options : CoercionOptions) (index : String)
    (fields : FieldSet) (limit : Nat) (content : Option Bytes) :
    Attempt IngestError (Workspace σ) IngestReport :=
  match format with
  | .csv => do
    let bytes ← Attempt.ofExcept (presentBytes content)
    Ingest.csv options index fields limit bytes
  | .json => do
    let documents ← Attempt.ofExcept (readJson content)
    Ingest.documents options index fields limit documents

/-- Ingests a file in the format that the extension of its name tells. -/
def ingestByExtension (options : CoercionOptions) (index : String) (fields : FieldSet)
    (limit : Nat) (path : String) (content : Option Bytes) :
    Attempt IngestError (Workspace σ) IngestReport :=
  match (Path.fileName? path).bind Path.format? with
  | some format => ingestAs format options index fields limit content
  | none => throw (.invalidArgument ("unsupported data file: " ++ path))

def ingestFile (index path : String) (content : Option Bytes) :
    Attempt IngestError (Service σ α) IngestReport := do
  let fields ← (indexFields index).recast IngestError.search
  let config := (← get).config
  onWorkspace
    (ingestByExtension config.coercion index fields config.ingestConcurrency path content)

/-- Puts an upload into the archive. An upload that cannot be archived has no etag. -/
def archiveUpload (index name : String) (content : Option Bytes) (contentType : String) :
    Attempt IngestError (Service σ α) (Option String) :=
  ExceptT.mk fun service =>
    match service.archive with
    | none => (.ok none, service)
    | some archive =>
      let metadata : Json.Members := [("Content-Type", .str contentType)]
      let step : Attempt IngestError α String :=
        BlobStore.put service.config.archiveBucket (index ++ "/" ++ name) content metadata
      let (result, archive) := step.runFrom archive
      (.ok result.toOption, { service with archive := some archive })

def standardContentType : String := "text/csv"

/-- Archives a CSV file and ingests its rows, whether it could be archived or not. -/
def upload (index name : String) (content : Option Bytes) (contentType : Option String) :
    Attempt IngestError (Service σ α) UploadOutcome := do
  let etag ← archiveUpload index name content (contentType.getD standardContentType)
  let fields ← (indexFields index).recast IngestError.search
  let bytes ← Attempt.ofExcept (presentBytes content)
  let config := (← get).config
  let report ← onWorkspace (Ingest.csv config.coercion index fields config.ingestConcurrency bytes)
  return ⟨etag, report⟩

/-! ### Parents and removal -/

def putParent (index : String) (parent : ParentDocument) : Attempt SearchError (Service σ α) Unit :=
  onStore (parent.put index)

def deleteDocuments (index : String) (uids : List String) : StateM (Service σ α) DeleteReport := do
  let service ← get
  let (report, store) := StateT.run (DeleteReport.run index uids) service.workspace.store
  set { service with workspace := { service.workspace with store := store } }
  return report

end Service

end HybridSearch
