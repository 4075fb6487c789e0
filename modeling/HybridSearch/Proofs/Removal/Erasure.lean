import HybridSearch.Proofs.Removal.Documents
import HybridSearch.Proofs.Removal.Sweep
import HybridSearch.Proofs.Store.Records

/-!
# What removal leaves in memory

In memory no scan and no deletion fails, so a sweep that is not cancelled removes the records whose
keys match, and the removal of documents those with the given ids.

## Main results

* `Sweep.eq_eraseAll_of_log`, `DeleteReport.eq_eraseAll_of_log` — the keys that were tried are gone.
* `Sweep.runFrom_run` — a sweep from the first page to the last.
* `DeleteReport.run_run` — the removal of documents.
-/

namespace HybridSearch

namespace Sweep

variable {cancelled : MemoryStore → Bool} {pattern : String} {store after : MemoryStore}

/-- A scan leaves the store as it is, and a deletion removes its key. -/
theorem eq_eraseAll_of_log {events : List Event}
    (h : Log (Proceeds cancelled pattern) store events after) :
    after = store.eraseAll ((deletions events).map Prod.fst) := by
  induction h with
  | nil => rfl
  | @cons event events store _ _ h _ ih =>
    cases event with
    | scanned cursor answer =>
      obtain ⟨-, rfl⟩ :=
        Prod.mk.inj ((MemoryStore.runFrom_scan store pattern cursor).symm.trans h.2)
      exact ih
    | deleted key answer =>
      obtain ⟨-, rfl⟩ :=
        Prod.mk.inj ((MemoryStore.runFrom_delete store key).symm.trans h.2)
      exact ih

/-- All keys come on one page, so a sweep is the deletion of the keys that match. -/
theorem runFrom_run (cancelled : MemoryStore → Bool) (pattern : String) (store : MemoryStore) :
    ∃ done report, (run cancelled pattern).runFrom store = (.ok report, store.eraseAll done) ∧
      (∀ key ∈ done, key ∈ store.keysMatching pattern) ∧
      (report.cancelled = false → done = store.keysMatching pattern) := by
  have hscript := Store.Pages.last (MemoryStore.runFrom_scan store pattern 0) rfl
  obtain ⟨events, ending, after, hlog, hend, hrun⟩ :=
    hasCourse_run cancelled hscript (Nat.le_refl 1)
  obtain rfl := eq_eraseAll_of_log hlog
  have hall : [⟨0, store.keysMatching pattern⟩].flatMap ScanPage.keys =
      store.keysMatching pattern := List.flatMap_singleton ..
  cases hend with
  | finished _ hkeys _ =>
    rw [hall] at hkeys
    exact ⟨_, _, hrun, fun key hkey => hkeys ▸ hkey, fun _ => hkeys⟩
  | cancelled _ hkeys _ =>
    rw [hall] at hkeys
    exact ⟨_, _, hrun, fun key hkey => hkeys.subset hkey, nofun⟩
  | failed hfault _ _ _ => cases hfault

end Sweep

namespace DeleteReport

variable {index : String} {store after : MemoryStore}
  {notes : List (String × Except SearchError Bool)}

theorem eq_eraseAll_of_log (h : Log (Tries index) store notes after) :
    (∀ note ∈ notes, ∃ existed, note.2 = .ok existed) ∧
      after = store.eraseAll ((notes.map Prod.fst).map (Key.record index)) := by
  induction h with
  | nil => exact ⟨nofun, rfl⟩
  | @cons note notes store _ _ h _ ih =>
    obtain ⟨hresult, rfl⟩ :=
      Prod.mk.inj ((MemoryStore.runFrom_delete store (Key.record index note.1)).symm.trans h)
    exact ⟨List.forall_mem_cons.mpr ⟨⟨_, hresult.symm⟩, ih.1⟩, ih.2⟩

/-- Every id counts as deleted, whether there was a record or not. -/
theorem run_run (index : String) (uids : List String) (store : MemoryStore) :
    (run index uids).run store = (⟨uids, []⟩, store.eraseAll (uids.map (Key.record index))) := by
  obtain ⟨notes, after, hlog, rfl, hrun⟩ := exists_log_run index uids store
  obtain ⟨hok, rfl⟩ := eq_eraseAll_of_log hlog
  rw [hrun, eq_of_splits (splits_ofResults notes) hok]

end DeleteReport

end HybridSearch
