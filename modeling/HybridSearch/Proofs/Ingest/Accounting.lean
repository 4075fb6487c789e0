import HybridSearch.Proofs.Ingest.Watched
import Mathlib.Data.List.Zip

/-!
# Reports that account for every row

A report is made from the rows in the order in which they ended, and a report on a table from one on
its readable rows alone, whose numbers are brought back to places in the table. In whatever order the
rows end, every row of a batch or a table is reported once, as written or as failed, where it stands;
and the store has accepted the records of the rows that are not reported as failed.

## Main definitions

* `Ingest.placed` — entries with their places.
* `IngestReport.ofResults` — the report on results that stand in the order of their rows.
* `IngestReport.Accounts` — a report that accounts for the results of all rows.
* `Ingest.interleaved` — the results of a table from those of its readable rows.
* `Ingest.IsAccountedFor` — what is known of rows after their report.

## Main results

* `IngestReport.accounts_ofResults` — such a report accounts for its results.
* `Ingest.exists_results` — whatever its course, a batch has one result for each row.
* `Ingest.tableReport_ofResults` — the report on a table from that on its readable rows.
* `Ingest.every_row_is_accounted_for` — batches and tables, over every store and in every course.
-/

namespace HybridSearch

open IngestReport (Outcome)

/-! ### Places -/

namespace Ingest

/-- Entries with their places, counted from a given number. -/
def placed {α : Type} (start : Nat) (entries : List α) : List (Nat × α) :=
  (entries.zipIdx start).map Prod.swap

section Placed

variable {α β : Type} {start place : Nat} {entry : α} {entries : List α}

theorem placed_cons (start : Nat) (entry : α) (entries : List α) :
    placed start (entry :: entries) = (start, entry) :: placed (start + 1) entries := rfl

theorem map_fst_placed (start : Nat) (entries : List α) :
    (placed start entries).map Prod.fst = List.range' start entries.length := by
  rw [placed, List.map_map]
  exact List.zipIdx_map_snd start entries

theorem map_snd_placed (start : Nat) (entries : List α) :
    (placed start entries).map Prod.snd = entries := by
  rw [placed, List.map_map]
  exact List.zipIdx_map_fst start entries

theorem mem_placed : (place, entry) ∈ placed 1 entries ↔
    ∃ before, place = before + 1 ∧ entries[before]? = some entry := by
  have hswap : (place, entry) ∈ placed 1 entries ↔ (entry, place) ∈ entries.zipIdx 1 := by
    rw [placed, List.mem_map]
    exact ⟨fun ⟨_, hmem, heq⟩ => by obtain ⟨rfl, rfl⟩ := Prod.mk.inj heq; exact hmem,
      fun hmem => ⟨_, hmem, rfl⟩⟩
  rw [hswap, List.mk_mem_zipIdx_iff_le_and_getElem?_sub]
  constructor
  · rintro ⟨hle, hget⟩
    exact ⟨place - 1, (Nat.sub_add_cancel hle).symm, hget⟩
  · rintro ⟨before, rfl, hget⟩
    exact ⟨Nat.le_add_left 1 before, hget⟩

/-- Entries that are numbered one after the other are in their places. -/
theorem eq_placed {numbered : List (Nat × α)}
    (h : numbered.map Prod.fst = List.range' start numbered.length) :
    numbered = placed start (numbered.map Prod.snd) := by
  refine (List.zip_of_prod h rfl).trans ?_
  rw [placed, List.zipIdx_eq_zip_range', List.zip_swap, List.length_map]

theorem pairwise_placed (start : Nat) (entries : List α) :
    ((placed start entries).map Prod.fst).Pairwise (· < ·) := by
  rw [map_fst_placed]
  exact List.pairwise_lt_range' 1

theorem numbered_eq_placed (rows : List Json) : numbered rows = placed 1 (rows.map .ok) := by
  rw [numbered, placed, List.zipIdx_map, List.map_map]
  rfl

end Placed

end Ingest

/-! ### Reports on results -/

namespace IngestReport

open Ingest (placed)

/-- The report on results that stand in the order of their rows. -/
def ofResults (results : List (Except IngestError Record)) : IngestReport :=
  ⟨(placed 1 results).filterMap writtenId?, (placed 1 results).filterMap failedRow?⟩

/-- A report that accounts for the results of all rows. -/
structure Accounts (results : List (Except IngestError Record)) (report : IngestReport) : Prop where
  /-- Every row is reported once. -/
  total : report.written.length + report.failed.length = results.length
  increasing : (report.failed.map FailedRow.row).Pairwise (· < ·)
  /-- The rows that failed are reported at their places, with their errors. -/
  failed : ∀ failure, failure ∈ report.failed ↔ ∃ before cause,
    results[before]? = some (.error cause) ∧ failure = ⟨before + 1, cause.message⟩
  /-- The rows that are not reported as failed are written, in order. -/
  written : report.written.map some =
    ((placed 1 results).filter fun outcome =>
      outcome.1 ∉ report.failed.map FailedRow.row).map writtenId?

variable {outcomes : List Outcome}

theorem length_filterMap_add (outcomes : List Outcome) :
    (outcomes.filterMap writtenId?).length + (outcomes.filterMap failedRow?).length =
      outcomes.length := by
  induction outcomes with
  | nil => rfl
  | cons outcome outcomes ih =>
    obtain ⟨number, cause | record⟩ := outcome
    · exact congrArg (· + 1) ih
    · refine Eq.trans ?_ (congrArg (· + 1) ih)
      exact Nat.add_right_comm _ 1 _

theorem map_row_sublist (outcomes : List Outcome) :
    ((outcomes.filterMap failedRow?).map FailedRow.row).Sublist (outcomes.map Prod.fst) := by
  induction outcomes with
  | nil => exact .slnil
  | cons outcome outcomes ih =>
    obtain ⟨number, cause | record⟩ := outcome
    · exact ih.cons_cons number
    · exact ih.cons number

theorem mem_filterMap_failedRow? {failure : FailedRow} :
    failure ∈ outcomes.filterMap failedRow? ↔
      ∃ number cause, (number, .error cause) ∈ outcomes ∧ failure = ⟨number, cause.message⟩ := by
  rw [List.mem_filterMap]
  constructor
  · rintro ⟨⟨number, cause | record⟩, hmem, hrow⟩
    · exact ⟨number, cause, hmem, (Option.some.inj hrow).symm⟩
    · cases hrow
  · rintro ⟨number, cause, hmem, rfl⟩
    exact ⟨_, hmem, rfl⟩

/-- Where numbers are different, a row is among the failed ones unless it has a record. -/
theorem notMem_map_row_iff (h : (outcomes.map Prod.fst).Nodup) {outcome : Outcome}
    (hmem : outcome ∈ outcomes) :
    outcome.1 ∉ (outcomes.filterMap failedRow?).map FailedRow.row ↔
      (writtenId? outcome).isSome = true := by
  have hrow {number : Nat} : number ∈ (outcomes.filterMap failedRow?).map FailedRow.row ↔
      ∃ cause, (number, .error cause) ∈ outcomes := by
    rw [List.mem_map]
    constructor
    · rintro ⟨_, hfailure, rfl⟩
      obtain ⟨number, cause, hcause, rfl⟩ := mem_filterMap_failedRow?.mp hfailure
      exact ⟨cause, hcause⟩
    · rintro ⟨cause, hcause⟩
      exact ⟨_, mem_filterMap_failedRow?.mpr ⟨number, cause, hcause, rfl⟩, rfl⟩
  obtain ⟨number, cause | record⟩ := outcome
  · exact iff_of_false (fun hnot => hnot (hrow.mpr ⟨cause, hmem⟩)) nofun
  · refine iff_of_true (fun hfailed => ?_) rfl
    obtain ⟨cause, hcause⟩ := hrow.mp hfailed
    cases List.inj_on_of_nodup_map h hmem hcause rfl

/-- The rows that are not among the failed ones are the written ones, in order. -/
theorem map_some_filterMap_writtenId? (h : (outcomes.map Prod.fst).Nodup) :
    (outcomes.filterMap writtenId?).map some =
      (outcomes.filter fun outcome =>
        outcome.1 ∉ (outcomes.filterMap failedRow?).map FailedRow.row).map writtenId? := by
  have hfilter : (outcomes.filter fun outcome =>
      outcome.1 ∉ (outcomes.filterMap failedRow?).map FailedRow.row) =
        outcomes.filter fun outcome => (writtenId? outcome).isSome :=
    List.filter_congr fun outcome hmem => by
      rw [Bool.eq_iff_iff, decide_eq_true_iff]
      exact notMem_map_row_iff h hmem
  rw [hfilter]
  clear h hfilter
  induction outcomes with
  | nil => rfl
  | cons outcome outcomes ih =>
    obtain ⟨number, cause | record⟩ := outcome
    · exact ih
    · exact congrArg (some record.id :: ·) ih

theorem accounts_ofResults (results : List (Except IngestError Record)) :
    (ofResults results).Accounts results where
  total := (length_filterMap_add _).trans (by rw [placed, List.length_map, List.length_zipIdx])
  increasing := (Ingest.pairwise_placed 1 results).sublist (map_row_sublist _)
  failed failure := by
    refine mem_filterMap_failedRow?.trans ?_
    constructor
    · rintro ⟨number, cause, hmem, rfl⟩
      obtain ⟨before, rfl, hget⟩ := Ingest.mem_placed.mp hmem
      exact ⟨before, cause, hget, rfl⟩
    · rintro ⟨before, cause, hget, rfl⟩
      exact ⟨before + 1, cause, Ingest.mem_placed.mpr ⟨before, rfl, hget⟩, rfl⟩
  written := map_some_filterMap_writtenId? (Ingest.pairwise_placed 1 results).nodup

/-- Rows that are numbered one after the other are put in their places. -/
theorem byRow_eq_placed (h : (outcomes.map Prod.fst).Perm (List.range' 1 outcomes.length)) :
    byRow outcomes = placed 1 ((byRow outcomes).map Prod.snd) := by
  have hperm : (byRow outcomes).Perm outcomes := ranked_perm _ outcomes
  refine Ingest.eq_placed ?_
  rw [hperm.length_eq]
  refine List.Perm.eq_of_pairwise (fun _ _ _ _ => le_antisymm) ?_
    ((List.pairwise_lt_range' 1).imp le_of_lt) ((hperm.map Prod.fst).trans h)
  exact List.pairwise_map.mpr (ranked_pairwise fun _ _ _ _ => rfl)

end IngestReport

/-! ### Results of a batch -/

namespace Ingest

open IngestReport (acceptedOf acceptedBy byRow ofOutcomes ofResults failedRow? writtenId?)

section Results

variable {σ : Type} {options : CoercionOptions} {index : String} {fields : FieldSet}
  {entries : List (Except IngestError Json)} {outcomes : List Outcome}

/-- **Whatever its course, a batch has one result for each row**, and its report is on these in the
order of the rows. -/
theorem exists_results [Store σ] {workspace after : Workspace σ}
    (h : Finishes options index fields workspace (placed 1 entries) outcomes after) :
    ∃ results, List.Forall₂ (Gives options index fields) entries results ∧
      byRow outcomes = placed 1 results := by
  have htallies := (tallies_start workspace (placed 1 entries)).moves h
  have hnumbers : (outcomes.map Prod.fst).Perm (List.range' 1 entries.length) := by
    have := htallies.numbers
    rwa [List.map_nil, List.map_nil, List.append_nil, List.append_nil, map_fst_placed] at this
  have hlength : outcomes.length = entries.length := by
    have := hnumbers.length_eq
    rwa [List.length_map, List.length_range'] at this
  have hplaced := IngestReport.byRow_eq_placed (hlength ▸ hnumbers)
  refine ⟨_, List.forall₂_iff_get.mpr ⟨?_, fun place hentry hresult => ?_⟩, hplaced⟩
  · rw [List.length_map, byRow, (ranked_perm _ outcomes).length_eq, hlength]
  · generalize (byRow outcomes).map Prod.snd = results at hplaced hresult
    have hmem : (place + 1, results[place]) ∈ outcomes := by
      rw [← mem_ranked, ← byRow, hplaced]
      exact mem_placed.mpr ⟨place, rfl, List.getElem?_eq_getElem hresult⟩
    obtain ⟨content, hcontent, hgives⟩ := htallies.ended _ hmem
    obtain ⟨before, hbefore, hget⟩ := mem_placed.mp hcontent
    obtain rfl : place = before := Nat.succ.inj hbefore
    obtain ⟨_, rfl⟩ := List.getElem?_eq_some_iff.mp hget
    exact hgives

theorem ofOutcomes_eq_ofResults {results : List (Except IngestError Record)}
    (h : byRow outcomes = placed 1 results) : ofOutcomes outcomes = ofResults results := by
  rw [ofOutcomes, h, ofResults]

/-- The records of the outcomes are those of the results. -/
theorem acceptedBy_perm {results : List (Except IngestError Record)}
    (h : byRow outcomes = placed 1 results) :
    (acceptedBy outcomes).Perm (results.filterMap acceptedOf) := by
  have hperm : outcomes.Perm (placed 1 results) := h ▸ (ranked_perm _ outcomes).symm
  refine (hperm.filterMap _).trans ?_
  rw [← map_snd_placed 1 results, List.filterMap_map, map_snd_placed]
  exact List.Perm.refl _

end Results

/-! ### Tables -/

/-- The results of a table: those of its readable rows where these stand, and the errors of the
others. -/
def interleaved : List (Except IngestError Json) → List (Except IngestError Record) →
    List (Except IngestError Record)
  | .error cause :: entries, results => .error cause :: interleaved entries results
  | .ok _ :: entries, result :: results => result :: interleaved entries results
  | .ok _ :: _, [] => []
  | [], _ => []

section Tables

variable {options : CoercionOptions} {index : String} {fields : FieldSet}

theorem map_snd_readable (start : Nat) (entries : List (Except IngestError Json)) :
    (readable (placed start entries)).map Prod.snd = entries.filterMap Except.toOption := by
  induction entries generalizing start with
  | nil => rfl
  | cons entry entries ih =>
    cases entry with
    | error cause => exact ih (start + 1)
    | ok content => exact congrArg (content :: ·) (ih (start + 1))

/-- A row that cannot be read fails as it is. -/
theorem gives_error (cause : IngestError) :
    Gives options index fields (.error cause) (.error cause) :=
  .inl ⟨⟨.ofLoader (fun _ => .error (.embeddingUnavailable "")) 0, ⟨toString, 0⟩⟩, rfl⟩

/-- Every row of a table has a result of its own. -/
theorem forall₂_interleaved {entries : List (Except IngestError Json)}
    {results : List (Except IngestError Record)}
    (h : List.Forall₂ (Gives options index fields)
      ((entries.filterMap Except.toOption).map .ok) results) :
    List.Forall₂ (Gives options index fields) entries (interleaved entries results) := by
  induction entries generalizing results with
  | nil => exact .nil
  | cons entry entries ih =>
    cases entry with
    | error cause => exact .cons (gives_error cause) (ih h)
    | ok content =>
      cases h with
      | cons hfirst hrest => exact .cons hfirst (ih hrest)

/-- The rows of a table that are written are written as a batch of their own. -/
theorem filterMap_interleaved {β : Type} {f : Except IngestError Record → Option β}
    (hf : ∀ cause, f (.error cause) = none) {entries : List (Except IngestError Json)}
    {results : List (Except IngestError Record)}
    (h : results.length = (entries.filterMap Except.toOption).length) :
    (interleaved entries results).filterMap f = results.filterMap f := by
  induction entries generalizing results with
  | nil =>
    obtain rfl := List.length_eq_zero_iff.mp h
    rfl
  | cons entry entries ih =>
    cases entry with
    | error cause =>
      rw [interleaved, List.filterMap_cons, hf]
      exact ih h
    | ok content =>
      cases results with
      | nil => cases h
      | cons result results =>
        rw [interleaved, List.filterMap_cons, List.filterMap_cons, ih (Nat.succ.inj h)]

/-- The rows of a table that fail are those of the batch and those that cannot be read. -/
theorem failed_interleaved (start : Nat) {entries : List (Except IngestError Json)}
    {results : List (Except IngestError Record)}
    (h : results.length = (entries.filterMap Except.toOption).length) :
    ((placed start (interleaved entries results)).filterMap failedRow?).Perm
      ((((readable (placed start entries)).map Prod.fst).zip results).filterMap failedRow? ++
        unreadable (placed start entries)) := by
  induction entries generalizing start results with
  | nil =>
    obtain rfl := List.length_eq_zero_iff.mp h
    exact .refl _
  | cons entry entries ih =>
    cases entry with
    | error cause =>
      exact ((ih (start + 1) h).cons ⟨start, cause.message⟩).trans List.perm_middle.symm
    | ok content =>
      cases results with
      | nil => cases h
      | cons result results =>
        have hrest := ih (start + 1) (Nat.succ.inj h)
        cases result with
        | error cause => exact hrest.cons ⟨start, cause.message⟩
        | ok record => exact hrest

/-- The ids that are reported do not depend on places. -/
theorem filterMap_writtenId?_placed (start : Nat) (results : List (Except IngestError Record)) :
    (placed start results).filterMap writtenId? =
      results.filterMap fun result => result.toOption.map Record.id := by
  induction results generalizing start with
  | nil => rfl
  | cons result results ih =>
    rw [placed_cons, List.filterMap_cons, List.filterMap_cons, ih]
    cases result <;> rfl

/-- Every failed row is brought to the place that is listed at its number. -/
theorem relocate_ofResults {places : List Nat} {results : List (Except IngestError Record)}
    (h : places.length = results.length) :
    ((ofResults results).relocate places).failed = (places.zip results).filterMap failedRow? := by
  have hzip : places.zip results =
      (placed 1 results).map fun outcome => (places[outcome.1 - 1]!, outcome.2) := by
    refine List.ext_getElem (by simp [placed, h]) fun place hzip hplaced => ?_
    have hplace : place < places.length := (List.length_zip ▸ hzip).trans_le (min_le_left _ _)
    simp [placed, Nat.add_comm 1, hplace]
  rw [hzip, List.filterMap_map, IngestReport.relocate, ofResults, List.map_filterMap]
  refine List.filterMap_congr fun outcome _ => ?_
  obtain ⟨number, cause | record⟩ := outcome <;> rfl

/-- **The report on a table** is that on the results of all its rows, where they stand. -/
theorem tableReport_ofResults {entries : List (Except IngestError Json)}
    {results : List (Except IngestError Record)}
    (h : results.length = (entries.filterMap Except.toOption).length) :
    tableReport (placed 1 entries) (ofResults results) =
      ofResults (interleaved entries results) := by
  have hplaces : ((readable (placed 1 entries)).map Prod.fst).length = results.length := by
    rw [h, ← map_snd_readable 1, List.length_map, List.length_map]
  have hwritten : (tableReport (placed 1 entries) (ofResults results)).written =
      (ofResults (interleaved entries results)).written := by
    refine (filterMap_writtenId?_placed 1 results).trans ?_
    rw [ofResults, filterMap_writtenId?_placed, filterMap_interleaved (fun _ => rfl) h]
  have hfailed : (tableReport (placed 1 entries) (ofResults results)).failed =
      (ofResults (interleaved entries results)).failed := by
    have hperm := failed_interleaved 1 h
    rw [← relocate_ofResults hplaces] at hperm
    have hincreasing := (IngestReport.accounts_ofResults (interleaved entries results)).increasing
    have hranked := @ranked_eq_of_perm _ _ _ _ FailedRow.row _ _ hperm (fun _ _ _ _ => rfl)
      fun first hfirst last hlast => List.inj_on_of_nodup_map hincreasing.nodup hfirst hlast
    refine hranked.symm.trans (ranked_eq_self ?_)
    exact (List.pairwise_map.mp hincreasing).imp fun hlt => decide_eq_false hlt.not_gt
  exact congrArg₂ IngestReport.mk hwritten hfailed

end Tables

/-! ### Every row is accounted for -/

variable {σ : Type} [Store σ] (options : CoercionOptions) (index : String) (fields : FieldSet)

/-- The report accounts for one result of each row, which is a result of that row; and besides what
it had, the store has accepted the records among the results. -/
def IsAccountedFor (entries : List (Except IngestError Json)) (workspace : Workspace (Watched σ))
    (report : IngestReport) (after : Workspace (Watched σ)) : Prop :=
  ∃ results accepted, List.Forall₂ (Gives options index fields) entries results ∧
    report.Accounts results ∧
    after.store.accepted = workspace.store.accepted ++ accepted ∧
    accepted.Perm (results.filterMap acceptedOf)

variable {options index fields} {workspace after : Workspace (Watched σ)}

theorem Finishes.isAccountedFor {entries : List (Except IngestError Json)} {outcomes : List Outcome}
    (h : Finishes options index fields workspace (placed 1 entries) outcomes after) :
    IsAccountedFor options index fields entries workspace (.ofOutcomes outcomes) after := by
  obtain ⟨results, hresults, hrows⟩ := exists_results h
  refine ⟨results, acceptedBy outcomes, hresults, ?_, h.accepted_eq, acceptedBy_perm hrows⟩
  rw [ofOutcomes_eq_ofResults hrows]
  exact IngestReport.accounts_ofResults results

theorem Finishes.isAccountedFor_table {entries : List (Except IngestError Json)}
    {outcomes : List Outcome}
    (h : Finishes options index fields workspace
      (numbered ((readable (placed 1 entries)).map Prod.snd)) outcomes after) :
    (∀ failure ∈ (ofOutcomes outcomes).failed,
      1 ≤ failure.row ∧ failure.row ≤ ((readable (placed 1 entries)).map Prod.fst).length) ∧
    IsAccountedFor options index fields entries workspace
      (tableReport (placed 1 entries) (.ofOutcomes outcomes)) after := by
  rw [numbered_eq_placed, map_snd_readable] at h
  obtain ⟨results, hresults, hrows⟩ := exists_results h
  have hlength : results.length = (entries.filterMap Except.toOption).length := by
    rw [← hresults.length_eq, List.length_map]
  rw [ofOutcomes_eq_ofResults hrows]
  constructor
  · intro failure hfailure
    obtain ⟨before, cause, hget, rfl⟩ :=
      ((IngestReport.accounts_ofResults results).failed failure).mp hfailure
    obtain ⟨hbefore, -⟩ := List.getElem?_eq_some_iff.mp hget
    rw [List.length_map, ← List.length_map Prod.snd, map_snd_readable, ← hlength]
    exact ⟨Nat.le_add_left 1 before, hbefore⟩
  · refine ⟨interleaved entries results, acceptedBy outcomes, forall₂_interleaved hresults, ?_,
      h.accepted_eq, ?_⟩
    · rw [tableReport_ofResults hlength]
      exact IngestReport.accounts_ofResults _
    · rw [filterMap_interleaved (fun _ => rfl) hlength]
      exact acceptedBy_perm hrows

variable (options index fields)

/-- A batch is reported as in one of its courses, and as over a store that nobody watches. -/
theorem exists_finishes_rows (limit : Nat) (batch : List NumberedRow)
    (workspace : Workspace (Watched σ)) :
    ∃ outcomes after, Finishes options index fields workspace batch outcomes after ∧
      (rows options index fields limit batch).run workspace = (.ofOutcomes outcomes, after) ∧
      (rows options index fields limit batch).run workspace.unwatched =
        (.ofOutcomes outcomes, after.unwatched) :=
  ⟨_, _, finishes_scheduled options index fields (limit - 1) workspace batch, rfl,
    mirrors_rows options index fields limit batch workspace⟩

/-- The rows after the header stand in the places that they are given. -/
theorem exists_table?_eq (bytes : Bytes) :
    (∃ cause, Csv.table? bytes = .error cause) ∨
      ∃ entries, Csv.table? bytes = .ok (placed 1 entries) := by
  rw [Csv.table?]
  split
  · exact .inr ⟨[], rfl⟩
  · rename_i first rest _
    cases hheader : Csv.row? first with
    | error cause => exact .inl ⟨cause, rfl⟩
    | ok header =>
      refine .inr ⟨rest.map fun record => (Csv.row? record).map (Csv.object header), ?_⟩
      rw [placed, List.zipIdx_map, List.map_map]
      rfl

/-- **Every row of a batch and of a table is accounted for**, over every store and in every course.

A batch is reported as in one of its courses, every course comes to its end, and whatever the course,
the report accounts for one result of each row. On a table the readable rows are such a batch; every
place is found among theirs, and the report accounts for all rows of the table. A file without a
readable header changes nothing; any other one is such a table. -/
theorem every_row_is_accounted_for (limit : Nat) (workspace : Workspace (Watched σ)) :
    (∀ batch : List Json,
      (∃ outcomes after,
        Finishes options index fields workspace (numbered batch) outcomes after ∧
        (rows options index fields limit (numbered batch)).run workspace =
          (.ofOutcomes outcomes, after) ∧
        (rows options index fields limit (numbered batch)).run workspace.unwatched =
          (.ofOutcomes outcomes, after.unwatched)) ∧
      (∀ course, Moves options index fields ⟨workspace, numbered batch, [], []⟩ course →
        ∃ after outcomes, Moves options index fields course ⟨after, [], [], outcomes⟩) ∧
      ∀ outcomes after,
        Finishes options index fields workspace (numbered batch) outcomes after →
        IsAccountedFor options index fields (batch.map .ok) workspace (.ofOutcomes outcomes)
          after) ∧
    (∀ entries : List (Except IngestError Json),
      let found := readable (placed 1 entries)
      let batch := numbered (found.map Prod.snd)
      let report := fun outcomes => tableReport (placed 1 entries) (.ofOutcomes outcomes)
      (∃ outcomes after, Finishes options index fields workspace batch outcomes after ∧
        (table options index fields limit (placed 1 entries)).run workspace =
          (report outcomes, after) ∧
        (table options index fields limit (placed 1 entries)).run workspace.unwatched =
          (report outcomes, after.unwatched)) ∧
      ∀ outcomes after, Finishes options index fields workspace batch outcomes after →
        (∀ failure ∈ (ofOutcomes outcomes).failed,
          1 ≤ failure.row ∧ failure.row ≤ (found.map Prod.fst).length) ∧
        IsAccountedFor options index fields entries workspace (report outcomes) after) ∧
    ∀ bytes,
      (∃ cause, (csv options index fields limit bytes).runFrom workspace =
        (.error cause, workspace)) ∨
      ∃ entries, Csv.table? bytes = .ok (placed 1 entries) ∧
        let run := (table options index fields limit (placed 1 entries)).run workspace
        (csv options index fields limit bytes).runFrom workspace = (.ok run.1, run.2) := by
  refine ⟨fun batch => ⟨exists_finishes_rows options index fields limit _ workspace,
    fun course _ => exists_finish options index fields course, fun outcomes after h => ?_⟩,
    fun entries => ⟨?_, fun outcomes after h => h.isAccountedFor_table⟩, fun bytes => ?_⟩
  · rw [numbered_eq_placed] at h
    exact h.isAccountedFor
  · obtain ⟨outcomes, after, h, hrun, -⟩ := exists_finishes_rows options index fields limit
      (numbered ((readable (placed 1 entries)).map Prod.snd)) workspace
    have htable : (table options index fields limit (placed 1 entries)).run workspace =
        (tableReport (placed 1 entries) (.ofOutcomes outcomes), after) := by
      rw [table, Attempt.run_bind_of_eq hrun]
      rfl
    refine ⟨outcomes, after, h, htable, ?_⟩
    rw [mirrors_table, htable]
  · rcases exists_table?_eq bytes with ⟨cause, htable⟩ | ⟨entries, htable⟩
    · left
      refine ⟨cause, ?_⟩
      rw [csv, htable]
      rfl
    · right
      refine ⟨entries, htable, ?_⟩
      rw [csv, htable]
      rfl

end Ingest

end HybridSearch
