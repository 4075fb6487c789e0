import HybridSearch.Store.Basic

/-!
# Sweeps

A sweep deletes all keys that match a pattern, page by page. It can be cancelled before any key and
any page.

## Main definitions

* `SweepReport`.
* `Sweep.run` — the sweep of a pattern.
-/

namespace HybridSearch

structure SweepReport where
  pattern : String
  scanned : Nat
  deleted : Nat
  failed : Nat
  cancelled : Bool
  deriving DecidableEq, Repr

namespace SweepReport

def start (pattern : String) : SweepReport := ⟨pattern, 0, 0, 0, false⟩

/-- The report after the deletion of one more key. -/
def count (report : SweepReport) (result : Except SearchError Bool) : SweepReport :=
  let report := { report with scanned := report.scanned + 1 }
  match result with
  | .ok true => { report with deleted := report.deleted + 1 }
  | .ok false => report
  | .error _ => { report with failed := report.failed + 1 }

def toJson (report : SweepReport) : Json :=
  .object
    [("pattern", .str report.pattern), ("scanned", .nat report.scanned),
      ("deleted", .nat report.deleted), ("failed", .nat report.failed),
      ("cancelled", .bool report.cancelled)]

end SweepReport

namespace Sweep

variable {σ : Type} [Store σ] (cancelled : σ → Bool)

def deleteKeys : List String → SweepReport → Attempt SearchError σ SweepReport
  | [], report => pure report
  | key :: rest, report => do
    if cancelled (← get) then return { report with cancelled := true }
    let result ← (Store.delete key).outcome
    deleteKeys rest (report.count result)

/-- The pages from a cursor on, of which there are at most `fuel`. -/
def pages (pattern : String) : (fuel cursor : Nat) → SweepReport →
    Attempt SearchError σ SweepReport
  | 0, _, report => pure report
  | fuel + 1, cursor, report => do
    if cancelled (← get) then return { report with cancelled := true }
    let page ← Store.scan pattern cursor
    let report ← deleteKeys cancelled page.keys report
    if report.cancelled || page.cursor = 0 then return report
    pages pattern fuel page.cursor report

/-- A failed scan ends the sweep, a failed deletion is counted. -/
def run (pattern : String) : Attempt SearchError σ SweepReport := do
  pages cancelled pattern (Store.pageBound (← get)) 0 (SweepReport.start pattern)

end Sweep

end HybridSearch
