import HybridSearch.Proofs.Log
import HybridSearch.Removal.Documents

/-!
# Deleting records by id, whatever fails

Every id is tried, and the report splits the ids by how it went, each part in the order in which the
ids were given.

## Main definitions

* `DeleteReport.Tries` — the deletion for an id, by how it ends.
* `DeleteReport.Splits` — a report that has every id in its place.

## Main results

* `DeleteReport.splits_ofResults` — the report splits the ids.
* `DeleteReport.mem_failed_iff_of_splits`, `DeleteReport.eq_of_splits` — which ids have failed, and
  the report when none has.
* `DeleteReport.exists_log_run` — every id is tried, one after the other.
-/

namespace HybridSearch.DeleteReport

/-- The deletion for an id leads from one state to the other, and ends as it is noted. -/
abbrev Tries {σ : Type} [Store σ] (index : String) :
    String × Except SearchError Bool → σ → σ → Prop :=
  Attempt.Tries fun uid => Store.delete (Key.record index uid)

/-! ### Reports -/

/-- Each note stands in one of the two lists of the report, before all that come after it. -/
inductive Splits : List (String × Except SearchError Bool) → DeleteReport → Prop
  | nil : Splits [] ⟨[], []⟩
  | deleted {notes report} (uid : String) (existed : Bool) (h : Splits notes report) :
      Splits ((uid, .ok existed) :: notes) { report with deleted := uid :: report.deleted }
  | failed {notes report} (uid : String) (cause : SearchError) (h : Splits notes report) :
      Splits ((uid, .error cause) :: notes)
        { report with failed := ⟨uid, cause.message⟩ :: report.failed }

variable {notes : List (String × Except SearchError Bool)} {report : DeleteReport} {uid : String}

theorem splits_ofResults (notes : List (String × Except SearchError Bool)) :
    Splits notes (ofResults notes) := by
  induction notes with
  | nil => exact .nil
  | cons note notes ih =>
    rcases note with ⟨uid, cause | existed⟩
    · exact .failed uid cause ih
    · exact .deleted uid existed ih

theorem mem_deleted_iff_of_splits (h : Splits notes report) :
    uid ∈ report.deleted ↔ ∃ existed, (uid, .ok existed) ∈ notes := by
  induction h with
  | nil => simp
  | deleted other existed _ ih => simp [ih, exists_or]
  | failed other cause _ ih => simp [ih]

theorem mem_failed_iff_of_splits (h : Splits notes report) :
    uid ∈ report.failed.map FailedDelete.uid ↔ ∃ cause, (uid, .error cause) ∈ notes := by
  induction h with
  | nil => simp
  | deleted other existed _ ih => simpa using ih
  | failed other cause _ ih =>
    simp only [List.map_cons, List.mem_cons, ih, Prod.mk.injEq, exists_or]
    simp

/-- Where no deletion failed, all ids count as deleted. -/
theorem eq_of_splits (h : Splits notes report)
    (hok : ∀ note ∈ notes, ∃ existed, note.2 = .ok existed) :
    report = ⟨notes.map Prod.fst, []⟩ := by
  induction h with
  | nil => rfl
  | deleted uid existed _ ih =>
    rw [ih fun note hnote => hok note (List.mem_cons_of_mem _ hnote), List.map_cons]
  | failed uid cause _ _ =>
    obtain ⟨existed, hnote⟩ := hok _ List.mem_cons_self
    cases hnote

/-! ### Runs -/

variable {σ : Type} [Store σ]

theorem exists_log_deleteEach (index : String) (uids : List String) (s : σ) :
    ∃ notes t, Log (Tries index) s notes t ∧ notes.map Prod.fst = uids ∧
      (deleteEach index uids).run s = (notes, t) := by
  induction uids generalizing s with
  | nil => exact ⟨[], s, .nil s, rfl, rfl⟩
  | cons uid uids ih =>
    obtain ⟨notes, t, hlog, huids, hrun⟩ := ih ((Store.delete (Key.record index uid)).runFrom s).2
    refine ⟨(uid, ((Store.delete (Key.record index uid)).runFrom s).1) :: notes, t,
      .cons rfl hlog, congrArg (uid :: ·) huids, ?_⟩
    have hdelete : (Store.delete (Key.record index uid)).run.run s =
        (Store.delete (Key.record index uid)).runFrom s := rfl
    rw [deleteEach]
    refine (Attempt.run_bind_of_eq hdelete).trans ?_
    refine (Attempt.run_bind_of_eq hrun).trans ?_
    rfl

/-- Every id is tried, whatever became of those before it. -/
theorem exists_log_run (index : String) (uids : List String) (s : σ) :
    ∃ notes t, Log (Tries index) s notes t ∧ notes.map Prod.fst = uids ∧
      (run index uids).run s = (ofResults notes, t) := by
  obtain ⟨notes, t, hlog, huids, hrun⟩ := exists_log_deleteEach index uids s
  refine ⟨notes, t, hlog, huids, ?_⟩
  rw [run, Attempt.run_bind_of_eq hrun]
  rfl

end HybridSearch.DeleteReport
