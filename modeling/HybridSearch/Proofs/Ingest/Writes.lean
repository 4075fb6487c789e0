import HybridSearch.Proofs.Ingest.Schedule
import HybridSearch.Proofs.Ranking
import HybridSearch.Proofs.Store.Fields
import HybridSearch.Proofs.Store.Records

/-!
# What ingestion writes

Whatever order the rows of a batch are taken in, the store in memory changes by the records that the
batch reports as written and by nothing else, each under the key of its id in the index.

## Main definitions

* `MemoryStore.accept` — the store after a row has ended.
* `Ingest.Ends` — rows that come to their ends one after the other.

## Main results

* `Ingest.ends_scheduled` — the rows of a batch.
* `Ingest.runFrom_documents_of_ok`, `Ingest.runFrom_documents_of_error` — a batch of documents.
* `Ingest.isSome_get?_iff_mem_written` — the keys that there are afterwards.
-/

namespace HybridSearch

open IngestReport (Outcome)

/-- The store after a row has ended. -/
def MemoryStore.accept (store : MemoryStore) : Outcome → MemoryStore
  | (_, .ok record) => store.hashSet record.key record.fields
  | (_, .error _) => store

@[simp] theorem MemoryStore.indexes_foldl_accept (outcomes : List Outcome) (store : MemoryStore) :
    (outcomes.foldl accept store).indexes = store.indexes := by
  induction outcomes generalizing store with
  | nil => rfl
  | cons outcome outcomes ih =>
    refine (ih (store.accept outcome)).trans ?_
    obtain ⟨_, _ | _⟩ := outcome <;> rfl

theorem MemoryStore.HasDistinctFields.foldl_accept {store : MemoryStore}
    (h : store.HasDistinctFields) (outcomes : List Outcome) :
    (outcomes.foldl accept store).HasDistinctFields := by
  induction outcomes generalizing store with
  | nil => exact h
  | cons outcome outcomes ih =>
    obtain ⟨_, _ | record⟩ := outcome
    · exact ih h
    · exact ih (h.hashSet record.key record.fields)

namespace Ingest

variable (options : CoercionOptions) (index : String) (fields : FieldSet)

/-! ### One row -/

/-- A record that ended a row stands under the key of its id. -/
def IsAddressed (index : String) (outcome : Outcome) : Prop :=
  ∀ record, outcome.2 = .ok record → record.key = Key.record index record.id

theorem exists_eq_ofValues {source : Json.Members} {intake after : Intake} {result : Record}
    (h : (Record.ofSource options index fields source).runFrom intake = (.ok result, after)) :
    ∃ id values, result = .ofValues index id values := by
  obtain ⟨values, _, -, h⟩ := Attempt.runFrom_bind_eq_ok.mp h
  split at h
  · obtain ⟨id, _, -, h⟩ := Attempt.runFrom_bind_eq_ok.mp h
    cases h
    exact ⟨id, values, rfl⟩
  · obtain ⟨id, _, -, h⟩ := Attempt.runFrom_bind_eq_ok.mp h
    cases h
    exact ⟨id, values, rfl⟩

theorem key_of_ofSource {source : Json.Members} {intake after : Intake} {result : Record}
    (h : (Record.ofSource options index fields source).runFrom intake = (.ok result, after)) :
    result.key = Key.record index result.id := by
  obtain ⟨id, values, rfl⟩ := exists_eq_ofValues options index fields h
  rfl

/-- A row is an object, or it is refused before anything is done. -/
theorem row_cases (content : Except IngestError Json) :
    (∃ source, content = .ok (.obj source)) ∨
      ∃ cause, (row options index fields content : Attempt _ (Workspace MemoryStore) _) =
        throw cause := by
  rcases content with cause | json
  · exact Or.inr ⟨cause, rfl⟩
  · cases json with
    | obj source => exact Or.inl ⟨source, rfl⟩
    | null => exact Or.inr ⟨_, rfl⟩
    | bool value => exact Or.inr ⟨_, rfl⟩
    | num value => exact Or.inr ⟨_, rfl⟩
    | str value => exact Or.inr ⟨_, rfl⟩
    | arr items => exact Or.inr ⟨_, rfl⟩

/-- A row writes its record, or fails and writes nothing. -/
theorem runFrom_row (content : Except IngestError Json) (workspace : Workspace MemoryStore)
    (number : Nat) :
    ((row options index fields content).runFrom workspace).2.store =
        workspace.store.accept (number, ((row options index fields content).runFrom workspace).1) ∧
      IsAddressed index (number, ((row options index fields content).runFrom workspace).1) := by
  rcases row_cases options index fields content with ⟨source, rfl⟩ | ⟨cause, hrow⟩
  · rw [row, record, Attempt.runFrom_bind, Workspace.onIntake, Attempt.runFrom_within]
    rcases hsource : (Record.ofSource options index fields source).runFrom workspace.intake with
      ⟨cause | record, intake⟩
    · exact ⟨rfl, nofun⟩
    · refine ⟨rfl, ?_⟩
      rintro _ ⟨⟩
      exact key_of_ofSource options index fields hsource
  · rw [hrow]
    exact ⟨rfl, nofun⟩

/-- An object is made into a record, and that is written. -/
theorem runFrom_record_eq_ok {σ : Type} [Store σ] {source : Json.Members}
    {workspace after : Workspace σ} {result : Record}
    (h : (record options index fields source).runFrom workspace = (.ok result, after)) :
    (Record.ofSource options index fields source).runFrom workspace.intake =
        (.ok result, after.intake) ∧
      ((Store.hashSet result.key result.fields).recast IngestError.search).runFrom workspace.store =
        (.ok (), after.store) := by
  obtain ⟨_, _, hmake, h⟩ := Attempt.runFrom_bind_eq_ok.mp h
  obtain ⟨_, _, hwrite, hend⟩ := Attempt.runFrom_bind_eq_ok.mp h
  obtain ⟨⟨⟩, rfl⟩ := Prod.mk.inj hend
  obtain ⟨_, hmade, rfl⟩ := Attempt.runFrom_within_eq_iff.mp hmake
  obtain ⟨_, hwritten, rfl⟩ := Attempt.runFrom_within_eq_iff.mp hwrite
  exact ⟨hmade, hwritten⟩

/-- The record of a row is made from its source. -/
theorem exists_ofSource_of_row {content : Except IngestError Json}
    {workspace after : Workspace MemoryStore} {result : Record}
    (h : (row options index fields content).runFrom workspace = (.ok result, after)) :
    ∃ source before since,
      (Record.ofSource options index fields source).runFrom before = (.ok result, since) := by
  rcases row_cases options index fields content with ⟨source, rfl⟩ | ⟨cause, hrow⟩
  · exact ⟨source, _, _, (runFrom_record_eq_ok options index fields h).1⟩
  · rw [hrow] at h
    cases h

/-- A row that is an object is written as the record that is made from it. -/
theorem runFrom_record_of_ok {source : Json.Members} {workspace after : Workspace MemoryStore}
    {result : Record}
    (h : (record options index fields source).runFrom workspace = (.ok result, after)) :
    (∃ since, (Record.ofSource options index fields source).runFrom workspace.intake =
        (.ok result, since)) ∧
      after.store = workspace.store.hashSet result.key result.fields := by
  obtain ⟨hmade, hwritten⟩ := runFrom_record_eq_ok options index fields h
  exact ⟨⟨_, hmade⟩, (congrArg Prod.snd hwritten).symm⟩

/-! ### Rows in any order -/

/-- Rows that come to their ends one after the other, each as a row alone. -/
inductive Ends : Workspace MemoryStore → List Outcome → Workspace MemoryStore → Prop
  | nil (workspace : Workspace MemoryStore) : Ends workspace [] workspace
  | cons {workspace between after : Workspace MemoryStore} {outcomes : List Outcome}
      {result : Except IngestError Record} (number : Nat) (content : Except IngestError Json)
      (hrow : (row options index fields content).runFrom workspace = (result, between))
      (hrest : Ends between outcomes after) : Ends workspace ((number, result) :: outcomes) after

theorem ends_inOrder (rows : List NumberedRow) (workspace : Workspace MemoryStore) :
    Ends options index fields workspace
      ((inOrder options index fields rows).run workspace).1
      ((inOrder options index fields rows).run workspace).2 := by
  induction rows generalizing workspace with
  | nil => exact .nil workspace
  | cons next rest ih =>
    rcases hrow : (row options index fields next.2).runFrom workspace with ⟨result, between⟩
    rcases hrest : (inOrder options index fields rest).run between with ⟨outcomes, after⟩
    have hends := ih between
    rw [hrest] at hends
    rw [run_inOrder_cons hrow hrest]
    exact .cons next.1 next.2 hrow hends

variable {options index fields} in
/-- Rows that wait and rows that are begun come to their ends in an order of their own, yet each of
them as a row alone. -/
theorem Schedules.ends {spare : Nat} {waiting fresh : List NumberedRow}
    {workspace after : Workspace MemoryStore} {outcomes : List Outcome}
    (h : Schedules options index fields spare waiting fresh workspace outcomes after) :
    Ends options index fields workspace outcomes after := by
  induction h with
  | @loaded waiting fresh workspace after outcomes h hrun =>
    have hends := ends_inOrder options index fields (waiting ++ fresh) workspace
    rwa [hrun] at hends
  | nil workspace => exact .nil workspace
  | wait _ _ _ _ ih => exact ih
  | begin _ _ _ hrow _ ih => exact .cons _ _ hrow ih
  | first _ _ hrow _ ih => exact .cons _ _ hrow ih

theorem ends_scheduled (spare : Nat) (waiting fresh : List NumberedRow)
    (workspace : Workspace MemoryStore) :
    Ends options index fields workspace
      ((scheduled options index fields spare waiting fresh).run workspace).1
      ((scheduled options index fields spare waiting fresh).run workspace).2 :=
  (run_scheduled_eq_iff.mp rfl).ends

namespace Ends

variable {options index fields} {workspace after : Workspace MemoryStore} {outcomes : List Outcome}

/-- The records are written and nothing else in the store is changed. -/
theorem store_eq (h : Ends options index fields workspace outcomes after) :
    after.store = outcomes.foldl MemoryStore.accept workspace.store := by
  induction h with
  | nil workspace => rfl
  | @cons workspace between after outcomes result number content hrow hrest ih =>
    have hstore := (runFrom_row options index fields content workspace number).1
    rw [hrow] at hstore
    rw [ih, hstore]
    rfl

theorem isAddressed (h : Ends options index fields workspace outcomes after) :
    ∀ outcome ∈ outcomes, IsAddressed index outcome := by
  induction h with
  | nil workspace => exact nofun
  | @cons workspace between after outcomes result number content hrow hrest ih =>
    have haddressed := (runFrom_row options index fields content workspace number).2
    rw [hrow] at haddressed
    exact List.forall_mem_cons.mpr ⟨haddressed, ih⟩

/-- Every record is made from a source row. -/
theorem exists_ofSource (h : Ends options index fields workspace outcomes after) :
    ∀ outcome ∈ outcomes, ∀ record, outcome.2 = .ok record → ∃ source before since,
      (Record.ofSource options index fields source).runFrom before = (.ok record, since) := by
  induction h with
  | nil workspace => exact nofun
  | cons number content hrow hrest ih =>
    refine List.forall_mem_cons.mpr ⟨?_, ih⟩
    rintro record rfl
    exact exists_ofSource_of_row options index fields hrow

end Ends

/-! ### Whole batches -/

/-- The rows of a batch come to their ends, and the report tells how. -/
theorem exists_ends_rows (limit : Nat) (batch : List NumberedRow)
    (workspace : Workspace MemoryStore) :
    ∃ outcomes after, (rows options index fields limit batch).run workspace =
        (.ofOutcomes outcomes, after) ∧ Ends options index fields workspace outcomes after := by
  have hends := ends_scheduled options index fields (limit - 1) [] batch workspace
  rcases hrun : (scheduled options index fields (limit - 1) [] batch).run workspace with
    ⟨outcomes, after⟩
  rw [hrun] at hends
  refine ⟨outcomes, after, ?_, hends⟩
  rw [rows, Attempt.run_bind_of_eq hrun]
  rfl

theorem run_rows (limit : Nat) (batch : List NumberedRow) (workspace : Workspace MemoryStore) :
    ∃ outcomes after, (rows options index fields limit batch).run workspace =
        (.ofOutcomes outcomes, after) ∧
      after.store = outcomes.foldl MemoryStore.accept workspace.store ∧
      ∀ outcome ∈ outcomes, IsAddressed index outcome := by
  obtain ⟨outcomes, after, hrun, hends⟩ :=
    exists_ends_rows options index fields limit batch workspace
  exact ⟨outcomes, after, hrun, hends.store_eq, hends.isAddressed⟩

/-- Documents that are no list of rows change nothing. -/
theorem runFrom_documents_of_error {limit : Nat} {content : Json} {cause : IngestError}
    {workspace after : Workspace MemoryStore}
    (h : (documents options index fields limit content).runFrom workspace = (.error cause, after)) :
    after = workspace := by
  have hread := Attempt.runFrom_ofExcept (documents? content) workspace
  rcases hcontent : documents? content with _ | batch
  · rw [hcontent] at hread
    rw [documents, hcontent, Attempt.runFrom_bind_of_error hread] at h
    cases h
    rfl
  · rw [hcontent] at hread
    rw [documents, hcontent, Attempt.runFrom_bind_of_ok hread, Attempt.runFrom_lift] at h
    cases h

theorem runFrom_documents_of_ok {limit : Nat} {content : Json} {report : IngestReport}
    {workspace after : Workspace MemoryStore}
    (h : (documents options index fields limit content).runFrom workspace = (.ok report, after)) :
    ∃ outcomes, report = .ofOutcomes outcomes ∧
      after.store = outcomes.foldl MemoryStore.accept workspace.store ∧
      ∀ outcome ∈ outcomes, IsAddressed index outcome := by
  obtain ⟨batch, _, hbatch, h⟩ := Attempt.runFrom_bind_eq_ok.mp h
  obtain ⟨-, rfl⟩ := Prod.mk.inj hbatch
  obtain ⟨outcomes, final, hrun, hstore⟩ :=
    run_rows options index fields limit (numbered batch) workspace
  rw [Attempt.runFrom_lift, hrun] at h
  cases h
  exact ⟨outcomes, rfl, hstore⟩

end Ingest

/-! ### The keys of a report -/

theorem IngestReport.mem_written_ofOutcomes {outcomes : List Outcome} {id : String} :
    id ∈ (ofOutcomes outcomes).written ↔
      ∃ outcome ∈ outcomes, ∃ record, outcome.2 = .ok record ∧ record.id = id := by
  rw [ofOutcomes, List.mem_filterMap]
  constructor
  · rintro ⟨⟨number, _ | record⟩, hmem, hid⟩
    · exact absurd hid nofun
    · exact ⟨_, mem_ranked.mp hmem, record, rfl, Option.some.inj hid⟩
  · rintro ⟨⟨number, _⟩, hmem, record, rfl, rfl⟩
    exact ⟨_, mem_ranked.mpr hmem, rfl⟩

theorem MemoryStore.isSome_get?_accept (store : MemoryStore) (outcome : Outcome) (key : String) :
    ((store.accept outcome).get? key).isSome ↔
      (store.get? key).isSome ∨ ∃ record, outcome.2 = .ok record ∧ record.key = key := by
  obtain ⟨number, _ | record⟩ := outcome
  · simp [accept]
  · rw [accept, get?_hashSet]
    by_cases hkey : key = record.key
    · rw [if_pos hkey]
      exact iff_of_true rfl (Or.inr ⟨record, rfl, hkey.symm⟩)
    · rw [if_neg hkey]
      refine (or_iff_left ?_).symm
      rintro ⟨_, ⟨⟩, h⟩
      exact hkey h.symm

theorem MemoryStore.isSome_get?_foldl_accept (outcomes : List Outcome) (store : MemoryStore)
    (key : String) :
    ((outcomes.foldl accept store).get? key).isSome ↔
      (store.get? key).isSome ∨
        ∃ outcome ∈ outcomes, ∃ record, outcome.2 = .ok record ∧ record.key = key := by
  induction outcomes generalizing store with
  | nil => simp
  | cons outcome outcomes ih =>
    rw [List.foldl_cons, ih, isSome_get?_accept, or_assoc]
    simp only [List.mem_cons, or_and_right, exists_or, exists_eq_left]

/-- Records that stand under the keys of their ids are found by the ids of the report. -/
theorem Ingest.isSome_get?_iff_mem_written {index : String} {outcomes : List Outcome}
    (haddressed : ∀ outcome ∈ outcomes, IsAddressed index outcome) (store : MemoryStore)
    (key : String) :
    ((outcomes.foldl MemoryStore.accept store).get? key).isSome ↔
      (store.get? key).isSome ∨
        ∃ id ∈ (IngestReport.ofOutcomes outcomes).written, key = Key.record index id := by
  rw [MemoryStore.isSome_get?_foldl_accept]
  refine or_congr_right ⟨?_, ?_⟩
  · rintro ⟨outcome, hmem, record, hok, rfl⟩
    exact ⟨record.id, IngestReport.mem_written_ofOutcomes.mpr ⟨outcome, hmem, record, hok, rfl⟩,
      haddressed outcome hmem record hok⟩
  · rintro ⟨id, hid, rfl⟩
    obtain ⟨outcome, hmem, record, hok, rfl⟩ := IngestReport.mem_written_ofOutcomes.mp hid
    exact ⟨outcome, hmem, record, hok, haddressed outcome hmem record hok⟩

end HybridSearch
