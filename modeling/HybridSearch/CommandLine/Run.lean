import HybridSearch.CommandLine.Arguments
import HybridSearch.CommandLine.Spec
import HybridSearch.Embedding.Remote
import HybridSearch.Files.Tree
import HybridSearch.Present.InstantSearch
import HybridSearch.Schema.Declaration
import HybridSearch.Server.Store
import HybridSearch.Service

/-!
# Running a command line

A task is carried out by a service over the store that the settings name, and prints a document.

## Main definitions

* `Surroundings` — the files, the links and the ids that a run finds.
* `CommandLine.carryOut` — a task on a service.
* `CommandLine.run` — exit code and output of a command line.
-/

namespace HybridSearch

namespace CommandLine

/-- The folder that a program runs in. -/
structure WorkingFolder where
  tree : Tree
  content : String → Option Bytes

structure Surroundings (κ : Type) where
  folder : WorkingFolder
  connect : (url : String) → Except String κ
  transport : Remote.Transport
  newId : Nat → String
  /-- The milliseconds that a search takes. -/
  elapsed : Nat

variable {σ κ α : Type}

/-! ### Fields -/

def declaredFields (folder : WorkingFolder) : Option String → Except String (List Field)
  | none => .ok []
  | some path =>
    match folder.content path with
    | none => .error ("reading " ++ path)
    | some bytes =>
      match ((Text.decode? bytes).bind Json.parse?).bind Json.obj? with
      | some declarations => .ok (Field.ofDeclarations declarations)
      | none => .error "malformed field declarations"

/-- Declared fields come before those on the command line. -/
def loadFields (folder : WorkingFolder) (specs : List String) (schema : Option String) :
    Except String (List Field) := do
  let declared ← declaredFields folder schema
  let given ← specs.mapM Field.ofSpec?
  if declared.isEmpty && given.isEmpty then
    throw "no fields declared; pass --field or --schema"
  return declared ++ given

/-! ### Tasks -/

def searchText {β : Type} (step : Attempt SearchError (Service σ α) β) :
    Attempt String (Service σ α) β :=
  step.recast SearchError.message

def ingestText {β : Type} (step : Attempt IngestError (Service σ α) β) :
    Attempt String (Service σ α) β :=
  step.recast IngestError.message

/-- Ingests files one after the other; one that cannot be ingested is passed over. -/
def ingestFiles [Store σ] [BlobStore α] (folder : WorkingFolder) (index : String) :
    List String → IngestReport → Attempt String (Service σ α) IngestReport
  | [], report => pure report
  | path :: rest, report => do
    match ← (Service.ingestFile index path (folder.content path)).outcome with
    | .ok more => ingestFiles folder index rest (report.merge more)
    | .error _ => ingestFiles folder index rest report

/-- The data files below a folder, by paths that begin with the folder. -/
def folderFiles (folder : WorkingFolder) (path : String) : Except String (List String) :=
  let above := Path.names path
  let start := if path.endsWith "/" then path else path ++ "/"
  match folder.tree.dataFiles above with
  | [] => .error ("no .csv or .json files found in " ++ path)
  | files => .ok (files.map fun file => start ++ Text.joined "/" (file.drop above.length))

def fieldsJson (fields : FieldSet) : Json := .object [("fields", .arr (fields.map Field.toJson))]

def doneJson (index : String) : Json := .object [("index", .str index), ("status", .str "OK")]

def carryOut [Store σ] [BlobStore α] (folder : WorkingFolder) (elapsed : Nat) :
    Task → Attempt String (Service σ α) Json
  | .createIndex name specs schema => do
    let fields ← Attempt.ofExcept (loadFields folder specs schema)
    let outcome ← searchText (Service.createIndex name fields)
    return .object [("index", .str name), ("outcome", .str outcome.name)]
  | .alterIndex name specs schema => do
    let fields ← Attempt.ofExcept (loadFields folder specs schema)
    searchText (Service.alterIndex name fields)
    return doneJson name
  | .dropIndex name deleteRecords => do
    match ← searchText (Service.dropIndex (fun _ => false) name deleteRecords) with
    | some report => return report.toJson
    | none => return doneJson name
  | .listIndexes => Json.strings <$> searchText Service.listIndexes
  | .info name => fieldsJson <$> searchText (Service.indexFields name)
  | .upload index file contentType =>
    match Path.fileName? file with
    | none => throw ("path missing filename: " ++ file)
    | some name =>
      UploadOutcome.toJson <$>
        ingestText (Service.upload index name (folder.content file) (some contentType))
  | .ingestFile index file =>
    IngestReport.toJson <$> ingestFiles folder index [file] .empty
  | .ingestFolder index path => do
    let files ← Attempt.ofExcept (folderFiles folder path)
    IngestReport.toJson <$> ingestFiles folder index files .empty
  | .putParent index uid items => do
    let parent : ParentDocument := ⟨uid, items⟩
    searchText (Service.putParent index parent)
    return parent.toJson
  | .search index query filters combinator limit parents format mappings => do
    let filters ← Attempt.ofExcept (Filter.ofSpecs? filters)
    let request : SearchRequest := ⟨index, query, filters, combinator, limit, parents⟩
    let response ← searchText (Service.search request)
    match format with
    | .json => return response.toJson
    | .instantSearch =>
      let mapping ← ingestText (Attempt.ofExcept (HitMapping.ofPairs? mappings))
      let text := request.freeText?.getD ""
      return .object [("results",
        .arr [InstantSearch.response text response.hits mapping elapsed])]
  | .delete index uids => do
    let report ← ExceptT.lift (Service.deleteDocuments index uids)
    return report.toJson
  | .sweep pattern => SweepReport.toJson <$> searchText (Service.sweep (fun _ => false) pattern)

/-! ### Runs -/

structure Outcome where
  code : Nat
  output : String
  /-- What went wrong. -/
  error : Option String
  deriving Repr

def versionText : String := "vecsearch 0.1.0\n"

def helpText : String :=
  "Usage: vecsearch [OPTIONS] <COMMAND>\n\nCommands:\n"
    ++ String.join (tasks.map fun form => "  " ++ form.name ++ "\n")

def Stop.outcome : Stop → Outcome
  | .version => ⟨0, versionText, none⟩
  | .help => ⟨0, helpText, none⟩
  | .usage => ⟨2, "", none⟩

def modelSource (settings : Settings) : ModelSource :=
  match settings.embeddingUrl with
  | some url => .remote url settings.embeddingKey settings.config.vector.dimension
  | none => .trigram settings.config.vector.dimension

/-- The service of some settings over a link. -/
def service (surroundings : Surroundings κ) (settings : Settings) (link : κ) :
    Service (ServerStore κ) Archive where
  config := settings.config
  archive := settings.archiveRoot.map Archive.empty
  workspace :=
    { store := ⟨link⟩
      intake :=
        { gateway := .ofLoader
            (fun _ => (modelSource settings).load surroundings.transport)
            settings.config.vector.dimension
          ids := ⟨surroundings.newId, 0⟩ } }

def Outcome.ofResult : Except String Json → Outcome
  | .ok json => ⟨0, json.pretty ++ "\n", none⟩
  | .error cause => ⟨1, "", some cause⟩

/-- The link is made before anything else is done. -/
def run [Link κ] (surroundings : Surroundings κ) (words : List String)
    (environment : List (String × String)) :
    Outcome × Option (Service (ServerStore κ) Archive) :=
  match parse words environment with
  | .error stop => (stop.outcome, none)
  | .ok (settings, task) =>
    match surroundings.connect settings.storeUrl with
    | .error cause => (⟨1, "", some (SearchError.storeUnavailable cause).message⟩, none)
    | .ok link =>
      let step := carryOut surroundings.folder surroundings.elapsed task
      let (result, service) := step.runFrom (service surroundings settings link)
      (.ofResult result, some service)

end CommandLine

end HybridSearch
