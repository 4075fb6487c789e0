import HybridSearch.Server.ErrorLine
import HybridSearch.Text.Quoted

/-!
# Errors

What can go wrong in a search and in ingestion, and the text that tells it.

## Main definitions

* `SearchError`, `SearchError.message`.
* `SearchError.searchFailure` — the one error that a failed search reports.
* `SearchError.ofErrorLine` — what an error line of the server means.
* `IngestError`, `IngestError.message`.
-/

namespace HybridSearch

inductive SearchError where
  | schemaConflict (details : String)
  | indexMissing (details : String)
  | embeddingUnavailable (details : String)
  | queryCompile (details : String)
  | searchFailed (cause : SearchError)
  | storeUnavailable (details : String)
  | badResponse (backend details : String)
  /-- The server refused a command. -/
  | refused (line : ErrorLine)
  /-- The server answered with a value of another kind than the command has. -/
  | unexpectedReply (details : String)
  | badUrl (details : String)
  | background (details : String)
  deriving DecidableEq, Repr

namespace SearchError

def message : SearchError → String
  | schemaConflict details => "index already exists: " ++ details
  | indexMissing details => "unknown index: " ++ details
  | embeddingUnavailable details => "embedding model unavailable: " ++ details
  | queryCompile details => "query compile failure: " ++ details
  | searchFailed cause => "search failed: " ++ cause.message
  | storeUnavailable details => "store unavailable: " ++ details
  | badResponse backend details => "invalid response from " ++ backend ++ ": " ++ details
  | refused line => "redis error: " ++ line.message
  | unexpectedReply details => "redis error: " ++ details
  | badUrl details => "url parse error: " ++ details
  | background details => "background task failed: " ++ details

/-- A failed search wraps its cause once. -/
def searchFailure : SearchError → SearchError
  | searchFailed cause => searchFailed cause
  | cause => searchFailed cause

def isSchemaConflict : SearchError → Bool
  | schemaConflict _ => true
  | _ => false

/-- An error line is known by what it mentions. -/
def ofErrorLine (line : ErrorLine) : SearchError :=
  if line.mentions "index already exists" then schemaConflict line.message
  else if line.mentions "unknown index name" || line.mentions "no such index" then
    indexMissing line.message
  else refused line

end SearchError

inductive IngestError where
  | io (details : String)
  | csv (details : String)
  | json (details : String)
  | invalidValue (field value : String)
  | invalidArgument (details : String)
  | search (cause : SearchError)
  deriving DecidableEq, Repr

def IngestError.message : IngestError → String
  | io details => "io error: " ++ details
  | csv details => "csv error: " ++ details
  | json details => "json error: " ++ details
  | invalidValue field value =>
    "field \x60" ++ field ++ "\x60 rejected value " ++ Text.quoted value
  | invalidArgument details => "invalid argument: " ++ details
  | search cause => cause.message

end HybridSearch
