import HybridSearch.CommandLine.Words
import HybridSearch.Config
import HybridSearch.Decimal.Reader
import HybridSearch.Query.Request

/-!
# Settings and tasks

What a command line asks for: settings, which may also come from the environment, and one task.

## Main definitions

* `Settings`, `Settings.config`.
* `Task` — what is to be done.
* `CommandLine.parse` — the settings and the task of a command line.
-/

namespace HybridSearch

namespace CommandLine

structure Settings where
  storeUrl : String
  embeddingUrl : Option String
  embeddingKey : Option String
  config : Config
  archiveRoot : Option String

inductive OutputFormat where
  | json
  | instantSearch
  deriving DecidableEq, Repr

inductive Task where
  | createIndex (name : String) (fields : List String) (schema : Option String)
  | alterIndex (name : String) (fields : List String) (schema : Option String)
  | dropIndex (name : String) (deleteRecords : Bool)
  | listIndexes
  | info (name : String)
  | upload (index file contentType : String)
  | ingestFile (index file : String)
  | ingestFolder (index folder : String)
  | putParent (index uid : String) (items : List String)
  | search (index : String) (query : Option String) (filters : List String)
      (combinator : Combinator) (limit : Nat) (parents : Bool) (format : OutputFormat)
      (mappings : List String)
  | delete (index : String) (uids : List String)
  | sweep (pattern : String)
  deriving DecidableEq, Repr

/-! ### Values -/

/-- A count of 64 bits, with an optional plus sign. -/
def count? (text : String) : Option Nat :=
  if text.startsWith "-" then none
  else
    (Decimal.integer? text.toList).bind fun value =>
      if value < 0x10000000000000000 then some value.toNat else none

def metric? (text : String) : Option Metric := (Metric.ofText? text).toOption

def format? (text : String) : Option OutputFormat :=
  if text = "json" then some .json
  else if text = "instantsearch" then some .instantSearch
  else none

def anyText (_ : String) : Bool := true

/-- A path is not empty. -/
def isPath (text : String) : Bool := !text.isEmpty

/-! ### Settings -/

/-- The settings with the variables that they are otherwise taken from. -/
def settingSwitches : List (Switch × Option String) :=
  [(⟨"redis-url", .one, anyText⟩, some "REDIS_URL"),
   (⟨"embedding-url", .one, anyText⟩, some "EMBEDDING_URL"),
   (⟨"embedding-api-key", .one, anyText⟩, some "EMBEDDING_API_KEY"),
   (⟨"dimensions", .one, fun text => (count? text).isSome⟩, some "EMBEDDING_DIMENSIONS"),
   (⟨"metric", .one, fun text => (metric? text).isSome⟩, some "DISTANCE_METRIC"),
   (⟨"ingest-concurrency", .one, fun text => (count? text).isSome⟩, some "INGEST_CONCURRENCY"),
   (⟨"embedding-concurrency", .one, fun text => (count? text).isSome⟩,
    some "EMBEDDING_CONCURRENCY"),
   (⟨"file-bucket", .one, anyText⟩, some "FILE_BUCKET"),
   (⟨"archive-root", .one, isPath⟩, some "ARCHIVE_ROOT"),
   (⟨"strict-numeric", .nothing, anyText⟩, none),
   (⟨"sanitize-text", .nothing, anyText⟩, none)]

def settingGrammar : Grammar := ⟨settingSwitches.map Prod.fst, none, anyText, true⟩

/-- A setting that is not given is taken from its variable, which must then be acceptable. -/
def addVariable (environment : List (String × String)) (given : Given)
    (setting : Switch × Option String) : Except Stop Given :=
  match given.has setting.1.name, setting.2.bind (List.lookup · environment) with
  | false, some value => Grammar.record given setting.1 value
  | _, _ => .ok given

def settings (given : Given) : Settings :=
  let standard := Config.standard
  { storeUrl := (given.value? "redis-url").getD "redis://127.0.0.1:6379"
    embeddingUrl := given.value? "embedding-url"
    embeddingKey := given.value? "embedding-api-key"
    archiveRoot := given.value? "archive-root"
    config :=
      { vector :=
          ⟨((given.value? "dimensions").bind count?).getD standard.vector.dimension,
            ((given.value? "metric").bind metric?).getD standard.vector.metric⟩
        coercion :=
          ⟨if given.has "strict-numeric" then .strict else .lenient, given.has "sanitize-text"⟩
        ingestConcurrency :=
          ((given.value? "ingest-concurrency").bind count?).getD standard.ingestConcurrency
        embeddingConcurrency :=
          ((given.value? "embedding-concurrency").bind count?).getD standard.embeddingConcurrency
        archiveBucket := (given.value? "file-bucket").getD standard.archiveBucket } }

/-! ### Tasks -/

/-- A command: its switches, how many operands it takes, and the task that it stands for. -/
structure TaskForm where
  name : String
  grammar : Grammar
  task? : Given → Option Task

def schemaSwitches : List Switch := [⟨"field", .several, anyText⟩, ⟨"schema", .one, isPath⟩]

/-- A task of one operand. -/
def oneOperand (make : Given → String → Task) (given : Given) : Option Task :=
  match given.operands with
  | [operand] => some (make given operand)
  | _ => none

def ingestTask? (given : Given) : Option Task :=
  match given.operands, given.value? "file", given.value? "folder" with
  | [index], some file, none => some (.ingestFile index file)
  | [index], none, some folder => some (.ingestFolder index folder)
  | _, _, _ => none

def splitItems (given : Given) : List String :=
  (given.values "items").flatMap (Text.split ',')

def searchTask (given : Given) (index : String) : Task :=
  .search index (given.value? "query") (given.values "filter")
    (if given.has "or" then .or else .and)
    (((given.value? "limit").bind count?).getD SearchRequest.standardLimit) (given.has "parents")
    (((given.value? "format").bind format?).getD .json) (given.values "map")

def searchSwitches : List Switch :=
  [⟨"query", .one, anyText⟩, ⟨"filter", .several, anyText⟩, ⟨"or", .nothing, anyText⟩,
   ⟨"limit", .one, fun text => (count? text).isSome⟩, ⟨"parents", .nothing, anyText⟩,
   ⟨"format", .one, fun text => (format? text).isSome⟩, ⟨"map", .several, anyText⟩]

def tasks : List TaskForm :=
  [⟨"create-index", ⟨schemaSwitches, some 1, anyText, false⟩,
    oneOperand fun given name => .createIndex name (given.values "field") (given.value? "schema")⟩,
   ⟨"alter-index", ⟨schemaSwitches, some 1, anyText, false⟩,
    oneOperand fun given name => .alterIndex name (given.values "field") (given.value? "schema")⟩,
   ⟨"drop-index", ⟨[⟨"delete-records", .nothing, anyText⟩], some 1, anyText, false⟩,
    oneOperand fun given name => .dropIndex name (given.has "delete-records")⟩,
   ⟨"list-indexes", ⟨[], some 0, anyText, false⟩, fun _ => some .listIndexes⟩,
   ⟨"info", ⟨[], some 1, anyText, false⟩, oneOperand fun _ name => .info name⟩,
   ⟨"upload", ⟨[⟨"content-type", .one, anyText⟩], some 2, anyText, false⟩,
    fun given =>
      match given.operands with
      | [index, file] =>
        if isPath file then
          some (.upload index file ((given.value? "content-type").getD "text/csv"))
        else none
      | _ => none⟩,
   ⟨"ingest", ⟨[⟨"file", .one, isPath⟩, ⟨"folder", .one, isPath⟩], some 1, anyText, false⟩,
    ingestTask?⟩,
   ⟨"put-parent", ⟨[⟨"items", .several, anyText⟩], some 2, anyText, false⟩,
    fun given =>
      match given.operands with
      | [index, uid] => some (.putParent index uid (splitItems given))
      | _ => none⟩,
   ⟨"search", ⟨searchSwitches, some 1, anyText, false⟩, oneOperand searchTask⟩,
   ⟨"delete", ⟨[], none, anyText, false⟩,
    fun given =>
      match given.operands with
      | index :: uid :: uids => some (.delete index (uid :: uids))
      | _ => none⟩,
   ⟨"sweep", ⟨[], some 1, anyText, false⟩, oneOperand fun _ pattern => .sweep pattern⟩]

def task? (name : String) (words : List String) : Except Stop Task :=
  match tasks.find? fun form => form.name == name with
  | some form => do
    let (given, _) ← form.grammar.read .nothing words
    match form.task? given with
    | some task => return task
    | none => throw .usage
  | none => .error .usage

/-- Help on a command that there is, or on all of them. -/
def helpOn : List String → Stop
  | [] => .help
  | [name] => if name = "help" || tasks.any fun form => form.name == name then .help else .usage
  | _ => .usage

/-- Variables are looked at after the words. -/
def parse (words : List String) (environment : List (String × String)) :
    Except Stop (Settings × Task) := do
  match ← settingGrammar.read .nothing words with
  | (_, []) => throw .usage
  | (given, name :: rest) =>
    if name = "help" then throw (helpOn rest)
    let task ← task? name rest
    let given ← settingSwitches.foldlM (addVariable environment) given
    return (settings given, task)

end CommandLine

end HybridSearch
