import HybridSearch.Error
import HybridSearch.Json.Basic
import HybridSearch.Ranking
import HybridSearch.Record

/-!
# Reports of ingestion

A report tells for every row whether its record was written.

## Main definitions

* `FailedRow`, `IngestReport`.
* `IngestReport.ofOutcomes` — the report of rows that ended in any order.
* `IngestReport.relocate`, `IngestReport.addFailed` — a report on rows of a larger whole.
* `IngestReport.merge`, `IngestReport.isComplete`.
-/

namespace HybridSearch

structure FailedRow where
  /-- The place of the row in its batch, counted from one. -/
  row : Nat
  reason : String
  deriving DecidableEq, Repr

structure IngestReport where
  written : List String
  failed : List FailedRow
  deriving DecidableEq, Repr

namespace IngestReport

def empty : IngestReport := ⟨[], []⟩

/-- How a row ended. -/
abbrev Outcome := Nat × Except IngestError Record

def byRow (outcomes : List Outcome) : List Outcome :=
  ranked (fun left right => left.1 < right.1) outcomes

def writtenId? : Outcome → Option String
  | (_, .ok record) => some record.id
  | (_, .error _) => none

def failedRow? : Outcome → Option FailedRow
  | (_, .ok _) => none
  | (row, .error cause) => some ⟨row, cause.message⟩

/-- Both lists follow the rows. -/
def ofOutcomes (outcomes : List Outcome) : IngestReport :=
  ⟨(byRow outcomes).filterMap writtenId?, (byRow outcomes).filterMap failedRow?⟩

/-- The report with the failed rows at other places: each at the one that is listed at its number. -/
def relocate (places : List Nat) (report : IngestReport) : IngestReport :=
  { report with
    failed := report.failed.map fun failure => { failure with row := places[failure.row - 1]! } }

/-- The report with more failed rows, all of them in order. -/
def addFailed (failed : List FailedRow) (report : IngestReport) : IngestReport :=
  { report with
    failed := ranked (fun left right => left.row < right.row) (report.failed ++ failed) }

def merge (first second : IngestReport) : IngestReport :=
  ⟨first.written ++ second.written, first.failed ++ second.failed⟩

def isComplete (report : IngestReport) : Bool := report.failed.isEmpty

def toJson (report : IngestReport) : Json :=
  .object
    [("written", .strings report.written),
      ("failed", .arr (report.failed.map fun failure =>
        .object [("row", .nat failure.row), ("reason", .str failure.reason)]))]

end IngestReport

end HybridSearch
