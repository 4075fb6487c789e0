import HybridSearch.Proofs.Removal.Erasure
import HybridSearch.Store.Faults

/-!
# What a sweep answers for

## Main results

* `Sweep.accounts_for_keys` — the keys that a sweep tries and what its report says of them, for
  every store and every time of cancellation.
-/

namespace HybridSearch.Sweep

/-- **A sweep accounts for the keys of its pages.** Whatever becomes of each deletion and whenever
the sweep is cancelled, it tries the keys of the pages in their order and once for each time that
they come, as long as it is not cancelled. The report counts them, by what has become of them: all
keys if it was not cancelled, and otherwise those before a state in which it was. A scan that fails
is the last that is done, and the answer. This needs nothing of a store but that it is right about
how many pages a scan has at most. In memory a sweep that is not cancelled removes the keys that
match and no other. -/
theorem accounts_for_keys :
    (∀ {σ : Type} [Store σ] (cancelled : σ → Bool) (pattern : String) (s : σ)
      (script : List ScanPage) (fault : Option SearchError),
      Store.Pages pattern 0 s script fault →
      script.length + fault.toList.length ≤ Store.pageBound s →
      ∃ events result t, Log (Proceeds cancelled pattern) s events t ∧
        (run cancelled pattern).runFrom s = (result, t) ∧
        (deletions events).map Prod.fst <+: script.flatMap ScanPage.keys ∧
        (∀ report, result = .ok report →
          failures events = [] ∧ report.pattern = pattern ∧ report.Counts (deletions events) ∧
          (report.cancelled = false →
            fault = none ∧ (deletions events).map Prod.fst = script.flatMap ScanPage.keys) ∧
          (report.cancelled = true → cancelled t = true)) ∧
        ∀ cause, result = .error cause →
          fault = some cause ∧ failures events = [cause] ∧
            ∃ cursor, events.getLast? = some (.scanned cursor (.error cause))) ∧
    ∀ (cancelled : MemoryStore → Bool) (pattern : String) (store : MemoryStore),
      ∃ report after, (run cancelled pattern).runFrom store = (.ok report, after) ∧
        (report.cancelled = false →
          after.indexes = store.indexes ∧
            ∀ key, after.get? key =
              if Glob.isMatch pattern key = true then none else store.get? key) := by
  constructor
  · intro σ _ cancelled pattern s script fault hscript hbound
    obtain ⟨events, ending, t, hlog, hend, hrun⟩ := hasCourse_run cancelled hscript hbound
    have hcounts := SweepReport.counts_start (deletions events) pattern
    have hpattern := (SweepReport.start pattern).pattern_counting (deletions events)
    have hcancelled := (SweepReport.start pattern).cancelled_counting (deletions events)
    refine ⟨events, _, t, hlog, hrun, ?_⟩
    cases hend with
    | finished hfault hkeys hscans =>
      refine ⟨hkeys ▸ List.prefix_rfl, ?_, nofun⟩
      rintro report ⟨⟩
      refine ⟨hscans, hpattern, hcounts, fun _ => ⟨hfault, hkeys⟩, fun hreport => ?_⟩
      rw [hcancelled] at hreport
      cases hreport
    | cancelled ht hkeys hscans =>
      refine ⟨hkeys, ?_, nofun⟩
      rintro report ⟨⟩
      exact ⟨hscans, hpattern, hcounts.cancel, nofun, fun _ => ht⟩
    | failed hfault hkeys hscans hlast =>
      refine ⟨hkeys ▸ List.prefix_rfl, nofun, ?_⟩
      rintro cause ⟨⟩
      exact ⟨hfault, hscans, _, hlast⟩
  · intro cancelled pattern store
    obtain ⟨done, report, hrun, -, hdone⟩ := runFrom_run cancelled pattern store
    refine ⟨report, _, hrun, fun hreport => ⟨store.indexes_eraseAll done, fun key => ?_⟩⟩
    rw [hdone hreport, MemoryStore.get?_eraseAll_keysMatching]

/-- The last key of the first page comes again on the second one, and the first key stays. -/
private abbrev overlapping : Faulty MemoryStore :=
  .ofStore (["a", "b", "c"].foldl (fun store key => store.hashSet key []) .empty)
    { refuse operation key :=
        if operation = .delete ∧ key = "a" then some (.storeUnavailable "read only") else none
      page := some 2
      overlap := true }

private theorem pages_overlapping :
    Store.Pages "*" 0 overlapping [⟨2, ["a", "b"]⟩, ⟨0, ["b", "c"]⟩] none := by
  have hlog : Log (Attempt.Tries Store.delete) ((Store.scan "*" 0).runFrom overlapping).2
      [("a", .error (.storeUnavailable "read only")), ("b", .ok true)] _ :=
    .cons (Prod.ext (by decide +kernel) rfl) (.cons (Prod.ext (by decide +kernel) rfl) (.nil _))
  exact .next (Prod.ext (by decide +kernel) rfl) (by decide) hlog rfl
    (.last (Prod.ext (by decide +kernel) rfl) rfl)

/-- Of four keys one is refused and one is gone when it comes again. -/
theorem accounts_for_keys_of_overlap :
    ∃ events t, Log (Proceeds (fun _ => false) "*") overlapping events t ∧
      (run (fun _ => false) "*").runFrom overlapping = (.ok ⟨"*", 4, 2, 1, false⟩, t) ∧
      (deletions events).map Prod.fst = ["a", "b", "b", "c"] := by
  have hreport : ((run (fun _ => false) "*").runFrom overlapping).1 =
      .ok ⟨"*", 4, 2, 1, false⟩ := by decide +kernel
  obtain ⟨events, result, t, hlog, hrun, -, hanswer, -⟩ :=
    accounts_for_keys.1 (fun _ => false) "*" overlapping _ none pages_overlapping
      (by decide +kernel)
  rw [hrun] at hreport
  exact ⟨events, t, hlog, hrun.trans (congrArg (·, t) hreport),
    ((hanswer _ hreport).2.2.2.1 rfl).2⟩

end HybridSearch.Sweep
