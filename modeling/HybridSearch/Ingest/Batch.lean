import HybridSearch.Ingest.Csv
import HybridSearch.Ingest.Report
import HybridSearch.Ingest.Source
import HybridSearch.Json.Reader
import HybridSearch.Store.Basic

/-!
# Ingesting batches

The rows of a batch are made into records and written, whatever becomes of the others. They are
begun in order, a limited number at a time. A row that needs the model waits as long as the model is
not loaded, while rows that need none are finished. The report follows the rows.

## Main definitions

* `Workspace` — a store with what new records are made from.
* `Ingest.row` — one row.
* `Ingest.inOrder` — numbered rows, in the order in which they end.
* `Ingest.scheduled` — the rows of a batch, in the order in which they come to their end.
* `Ingest.table` — the rows of a table, some of which cannot be read.
* `Ingest.documents`, `Ingest.csv` — the rows of a JSON document and of a CSV file.
-/

namespace HybridSearch

structure Workspace (σ : Type) where
  store : σ
  intake : Intake

namespace Workspace

variable {σ ε α : Type}

def onStore (step : Attempt ε σ α) : Attempt ε (Workspace σ) α :=
  step.within Workspace.store fun workspace store => { workspace with store := store }

def onIntake (step : Attempt ε Intake α) : Attempt ε (Workspace σ) α :=
  step.within Workspace.intake fun workspace intake => { workspace with intake := intake }

end Workspace

namespace Ingest

open Workspace

/-- A row with its number, or what made it unreadable. -/
abbrev NumberedRow := Nat × Except IngestError Json

variable {σ : Type} [Store σ] (options : CoercionOptions) (index : String) (fields : FieldSet)

/-- Writes the record of an object. -/
def record (source : Json.Members) : Attempt IngestError (Workspace σ) Record := do
  let record ← onIntake (Record.ofSource options index fields source)
  onStore ((Store.hashSet record.key record.fields).recast IngestError.search)
  return record

def row : Except IngestError Json → Attempt IngestError (Workspace σ) Record
  | .ok (.obj source) => record options index fields source
  | .ok other => throw (.invalidArgument ("expected a JSON object, got " ++ other.compact))
  | .error cause => throw cause

def inOrder : List NumberedRow → StateM (Workspace σ) (List IngestReport.Outcome)
  | [] => return []
  | (number, content) :: rest => do
    let result ← (row options index fields content).run
    return (number, result) :: (← inOrder rest)

/-- Whether a row waits for the model. -/
def waits : NumberedRow → Bool
  | (_, .ok (.obj source)) => Source.needsModel options source fields
  | _ => false

/-- The rows that wait, in order, and those that are not begun. There is room for one waiting row
more than `spare`. When no other row can go on, the model is loaded for the first that waits; if
that fails, the row fails. -/
def scheduled (spare : Nat) (waiting fresh : List NumberedRow) :
    StateM (Workspace σ) (List IngestReport.Outcome) := do
  if (← get).intake.gateway.isLoaded then inOrder options index fields (waiting ++ fresh)
  else
    match fresh, waiting with
    | [], [] => return []
    | next :: rest, waiting =>
      if waiting.length ≤ spare then
        if waits options fields next then scheduled spare (waiting ++ [next]) rest
        else do
          let result ← (row options index fields next.2).run
          return (next.1, result) :: (← scheduled spare waiting rest)
      else
        match waiting with
        | [] => inOrder options index fields (next :: rest)
        | first :: others => do
          let result ← (row options index fields first.2).run
          return (first.1, result) :: (← scheduled spare others (next :: rest))
    | [], first :: others => do
      let result ← (row options index fields first.2).run
      return (first.1, result) :: (← scheduled spare others [])
termination_by 2 * fresh.length + waiting.length

def numbered (rows : List Json) : List NumberedRow :=
  (rows.zipIdx 1).map fun (content, number) => (number, .ok content)

/-- Ingests at most `limit` rows at a time, and one if the limit is zero. -/
def rows (limit : Nat) (rows : List NumberedRow) : StateM (Workspace σ) IngestReport := do
  return IngestReport.ofOutcomes (← scheduled options index fields (limit - 1) [] rows)

/-- The rows of a table that can be read, with their places. -/
def readable (entries : List NumberedRow) : List (Nat × Json) :=
  entries.filterMap fun (place, content) => content.toOption.map (place, ·)

/-- The rows of a table that cannot be read. -/
def unreadable (entries : List NumberedRow) : List FailedRow :=
  entries.filterMap fun
    | (_, .ok _) => none
    | (place, .error cause) => some ⟨place, cause.message⟩

/-- The report on a table, from that on its readable rows as a batch of their own. -/
def tableReport (entries : List NumberedRow) (report : IngestReport) : IngestReport :=
  (report.relocate ((readable entries).map Prod.fst)).addFailed (unreadable entries)

/-- Ingests the rows of a table that can be read. -/
def table (limit : Nat) (entries : List NumberedRow) : StateM (Workspace σ) IngestReport := do
  let report ← rows options index fields limit (numbered ((readable entries).map Prod.snd))
  return tableReport entries report

/-- An array of documents, or a single one. -/
def documents? : Json → Except IngestError (List Json)
  | .arr rows => .ok rows
  | .obj members => .ok [.obj members]
  | other =>
    .error (.invalidArgument ("expected a document or an array of documents, got "
      ++ other.compact))

def documents (limit : Nat) (content : Json) : Attempt IngestError (Workspace σ) IngestReport := do
  let content ← Attempt.ofExcept (documents? content)
  ExceptT.lift (rows options index fields limit (numbered content))

def csv (limit : Nat) (bytes : Bytes) : Attempt IngestError (Workspace σ) IngestReport := do
  let entries ← Attempt.ofExcept (Csv.table? bytes)
  ExceptT.lift (table options index fields limit entries)

end Ingest

end HybridSearch
