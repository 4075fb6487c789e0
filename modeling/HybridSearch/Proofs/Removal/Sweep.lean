import HybridSearch.Proofs.Log
import HybridSearch.Removal.Sweep
import Mathlib.Data.List.Infix

/-!
# The course of a sweep

What a sweep does to a store is told by its events: scans that were answered and keys whose deletion
was tried. Whatever the store answers and whenever the sweep is cancelled, the keys come in the
order of the pages, and the report counts the deletions.

## Main definitions

* `Store.Pages` — what the scans of a store have to give.
* `Fate`, `SweepReport.Counts` — what becomes of keys, and a report that tells how often.
* `Sweep.Event`, `Sweep.Proceeds` — what a sweep does while it is not cancelled.
* `Sweep.deletions` — the keys that it tries to delete, by how their deletion ends.
* `Sweep.Ending`, `Sweep.Ends` — how a sweep ends, and what its events have been by then.
* `Sweep.HasCourse` — a sweep with its events, its end and its answer.

## Main results

* `Sweep.exists_deletions` — the keys of a page.
* `Sweep.exists_step` — one page.
* `Sweep.hasCourse_pages`, `Sweep.hasCourse_run` — all pages from a cursor on, and a whole sweep.
* `SweepReport.counts_start` — what the report of a sweep counts.
-/

namespace HybridSearch

/-- The pages that the scans of a pattern give from a cursor on, if the keys of each page are
deleted before the next one is asked for. They end with the first page whose cursor is zero, or with
a scan that fails. -/
inductive Store.Pages {σ : Type} [Store σ] (pattern : String) :
    (cursor : Nat) → σ → List ScanPage → Option SearchError → Prop
  | last {cursor s page t} (hscan : (Store.scan pattern cursor).runFrom s = (.ok page, t))
      (hcursor : page.cursor = 0) : Pages pattern cursor s [page] none
  | failed {cursor s cause t}
      (hscan : (Store.scan pattern cursor).runFrom s = (.error cause, t)) :
      Pages pattern cursor s [] (some cause)
  | next {cursor s page t deletions u pages fault}
      (hscan : (Store.scan pattern cursor).runFrom s = (.ok page, t)) (hcursor : page.cursor ≠ 0)
      (hlog : Log (Attempt.Tries Store.delete) t deletions u)
      (hkeys : deletions.map Prod.fst = page.keys)
      (hrest : Pages pattern page.cursor u pages fault) :
      Pages pattern cursor s (page :: pages) fault

/-! ### Counting -/

/-- What has become of a key that was to be deleted. -/
inductive Fate where
  | deleted
  | gone
  | failed
  deriving DecidableEq

def Fate.of : Except SearchError Bool → Fate
  | .ok true => deleted
  | .ok false => gone
  | .error _ => failed

namespace SweepReport

variable (report : SweepReport) (deletions : List (String × Except SearchError Bool))

/-- The report after some more deletions. -/
def counting : SweepReport :=
  deletions.foldl (fun report deletion => report.count deletion.2) report

@[simp] theorem cancelled_count (result : Except SearchError Bool) :
    (report.count result).cancelled = report.cancelled := by
  rcases result with _ | _ | _ <;> rfl

@[simp] theorem pattern_count (result : Except SearchError Bool) :
    (report.count result).pattern = report.pattern := by
  rcases result with _ | _ | _ <;> rfl

@[simp] theorem pattern_counting : (report.counting deletions).pattern = report.pattern := by
  induction deletions generalizing report with
  | nil => rfl
  | cons deletion deletions ih => exact (ih _).trans (report.pattern_count deletion.2)

@[simp] theorem cancelled_counting : (report.counting deletions).cancelled = report.cancelled := by
  induction deletions generalizing report with
  | nil => rfl
  | cons deletion deletions ih => exact (ih _).trans (report.cancelled_count deletion.2)

theorem counting_append (more : List (String × Except SearchError Bool)) :
    report.counting (deletions ++ more) = (report.counting deletions).counting more :=
  List.foldl_append

/-- How often the deletions have come out in one way. -/
def tally (fate : Fate) : Nat := (deletions.map fun deletion => Fate.of deletion.2).count fate

/-- A report has counted every deletion once, and told those apart that removed a key and those that
failed. The other keys were gone already. -/
structure Counts : Prop where
  scanned_eq : report.scanned = deletions.length
  deleted_eq : report.deleted = tally deletions .deleted
  failed_eq : report.failed = tally deletions .failed
  total : report.scanned = report.deleted + report.failed + tally deletions .gone

theorem tally_cons (deletion : String × Except SearchError Bool) (fate : Fate) :
    tally (deletion :: deletions) fate =
      tally deletions fate + if Fate.of deletion.2 = fate then 1 else 0 := by
  rw [tally, List.map_cons, List.count_cons, tally]
  simp only [beq_iff_eq]

theorem length_eq_tally :
    deletions.length =
      tally deletions .deleted + tally deletions .failed + tally deletions .gone := by
  induction deletions with
  | nil => rfl
  | cons deletion deletions ih =>
    rw [List.length_cons, ih, tally_cons, tally_cons, tally_cons]
    rcases deletion with ⟨key, _ | _ | _⟩ <;> simp [Fate.of] <;> omega

/-- Counting goes on from what was counted before. -/
theorem counters_counting :
    (report.counting deletions).scanned = report.scanned + deletions.length ∧
      (report.counting deletions).deleted = report.deleted + tally deletions .deleted ∧
      (report.counting deletions).failed = report.failed + tally deletions .failed := by
  induction deletions generalizing report with
  | nil => exact ⟨rfl, rfl, rfl⟩
  | cons deletion deletions ih =>
    obtain ⟨hscanned, hdeleted, hfailed⟩ := ih (report.count deletion.2)
    rw [counting, List.foldl_cons, ← counting, hscanned, hdeleted, hfailed, List.length_cons,
      tally_cons, tally_cons]
    rcases deletion with ⟨key, _ | _ | _⟩ <;> simp [count, Fate.of] <;> omega

theorem counts_start (pattern : String) :
    ((start pattern).counting deletions).Counts deletions := by
  obtain ⟨hscanned, hdeleted, hfailed⟩ := (start pattern).counters_counting deletions
  rw [start, Nat.zero_add] at hscanned hdeleted hfailed
  refine ⟨hscanned, hdeleted, hfailed, ?_⟩
  rw [start, hscanned, hdeleted, hfailed]
  exact length_eq_tally deletions

/-- That a sweep was cancelled takes nothing from what it has counted. -/
theorem Counts.cancel {report : SweepReport}
    {deletions : List (String × Except SearchError Bool)} (h : report.Counts deletions) :
    Counts { report with cancelled := true } deletions :=
  ⟨h.scanned_eq, h.deleted_eq, h.failed_eq, h.total⟩

end SweepReport

namespace Sweep

variable {σ : Type}

/-! ### Events -/

/-- What a sweep does: a page is asked for, or the deletion of a key. -/
inductive Event where
  | scanned (cursor : Nat) (answer : Except SearchError ScanPage)
  | deleted (key : String) (answer : Except SearchError Bool)

namespace Event

def ofDeletion (deletion : String × Except SearchError Bool) : Event :=
  deleted deletion.1 deletion.2

def deletion? : Event → Option (String × Except SearchError Bool)
  | scanned _ _ => none
  | deleted key answer => some (key, answer)

/-- Why a page was not given. -/
def failure? : Event → Option SearchError
  | scanned _ (.error cause) => some cause
  | scanned _ (.ok _) => none
  | deleted _ _ => none

/-- The event leads from one state of a store to the other. -/
def Happens [Store σ] (pattern : String) (event : Event) (s t : σ) : Prop :=
  match event with
  | scanned cursor answer => (Store.scan pattern cursor).runFrom s = (answer, t)
  | deleted key answer => (Store.delete key).runFrom s = (answer, t)

end Event

/-- The keys whose deletion was tried, with how each deletion has ended. -/
def deletions (events : List Event) : List (String × Except SearchError Bool) :=
  events.filterMap Event.deletion?

/-- Why scans have failed. -/
def failures (events : List Event) : List SearchError := events.filterMap Event.failure?

/-- The events of one page. -/
def pageEvents (cursor : Nat) (page : ScanPage) (tried : List (String × Except SearchError Bool)) :
    List Event :=
  .scanned cursor (.ok page) :: tried.map Event.ofDeletion

theorem deletions_append (first last : List Event) :
    deletions (first ++ last) = deletions first ++ deletions last :=
  List.filterMap_append

theorem failures_append (first last : List Event) :
    failures (first ++ last) = failures first ++ failures last :=
  List.filterMap_append

section PageEvents

variable (cursor : Nat) (page : ScanPage) (tried : List (String × Except SearchError Bool))

theorem deletions_pageEvents : deletions (pageEvents cursor page tried) = tried := by
  rw [pageEvents, deletions, List.filterMap_cons_none rfl, List.filterMap_map]
  exact List.filterMap_some

theorem failures_pageEvents : failures (pageEvents cursor page tried) = [] := by
  rw [pageEvents, failures, List.filterMap_cons_none rfl, List.filterMap_map,
    List.filterMap_eq_nil_iff]
  exact fun _ _ => rfl

end PageEvents

/-- An event of a sweep that is not cancelled when it begins. -/
def Proceeds [Store σ] (cancelled : σ → Bool) (pattern : String) (event : Event) (s t : σ) : Prop :=
  cancelled s = false ∧ event.Happens pattern s t

/-! ### Ends -/

inductive Ending where
  | finished
  | cancelled
  | failed (cause : SearchError)

/-- What the caller is told. -/
def Ending.answer (report : SweepReport) : Ending → Except SearchError SweepReport
  | finished => .ok report
  | cancelled => .ok { report with cancelled := true }
  | failed cause => .error cause

/-- The end of a sweep in a state after some events, by the pages that there were to be had. A sweep
that is not cancelled comes to all keys, and only the last scan may fail. -/
inductive Ends (cancelled : σ → Bool) (pages : List ScanPage) (fault : Option SearchError)
    (events : List Event) (t : σ) : Ending → Prop
  | finished (hfault : fault = none)
      (hkeys : (deletions events).map Prod.fst = pages.flatMap ScanPage.keys)
      (hscans : failures events = []) : Ends cancelled pages fault events t .finished
  | cancelled (hcancelled : cancelled t = true)
      (hkeys : (deletions events).map Prod.fst <+: pages.flatMap ScanPage.keys)
      (hscans : failures events = []) : Ends cancelled pages fault events t .cancelled
  | failed {cause : SearchError} {cursor : Nat} (hfault : fault = some cause)
      (hkeys : (deletions events).map Prod.fst = pages.flatMap ScanPage.keys)
      (hscans : failures events = [cause])
      (hlast : events.getLast? = some (.scanned cursor (.error cause))) :
      Ends cancelled pages fault events t (.failed cause)

section Page

variable {cancelled : σ → Bool} {cursor : Nat} {page : ScanPage}
  {tried : List (String × Except SearchError Bool)} {script : List ScanPage}
  {fault : Option SearchError} {t : σ}

theorem Ends.of_page (hkeys : tried.map Prod.fst = page.keys) :
    Ends cancelled [page] none (pageEvents cursor page tried) t .finished := by
  refine .finished rfl ?_ (failures_pageEvents ..)
  rw [deletions_pageEvents, hkeys, List.flatMap_singleton]

theorem Ends.within_page (hkeys : tried.map Prod.fst <+: page.keys)
    (hcancelled : cancelled t = true) :
    Ends cancelled (page :: script) fault (pageEvents cursor page tried) t .cancelled := by
  refine .cancelled hcancelled ?_ (failures_pageEvents ..)
  rw [deletions_pageEvents, List.flatMap_cons]
  exact hkeys.trans (List.prefix_append _ _)

/-- After a page whose keys were all tried, the sweep ends as it does by what comes then. -/
theorem Ends.after_page {events : List Event} {ending : Ending}
    (hkeys : tried.map Prod.fst = page.keys) (h : Ends cancelled script fault events t ending) :
    Ends cancelled (page :: script) fault (pageEvents cursor page tried ++ events) t ending := by
  have hfailures : failures (pageEvents cursor page tried ++ events) = failures events := by
    rw [failures_append, failures_pageEvents, List.nil_append]
  have htried : (deletions (pageEvents cursor page tried ++ events)).map Prod.fst =
      page.keys ++ (deletions events).map Prod.fst := by
    rw [deletions_append, deletions_pageEvents, List.map_append, hkeys]
  cases h with
  | finished hfault hrest hscans =>
    refine .finished hfault ?_ (hfailures.trans hscans)
    rw [htried, hrest, List.flatMap_cons]
  | cancelled hcancelled hrest hscans =>
    refine .cancelled hcancelled ?_ (hfailures.trans hscans)
    rw [htried, List.flatMap_cons]
    exact (List.prefix_append_right_inj _).mpr hrest
  | @failed cause last hfault hrest hscans hlast =>
    have hend : (pageEvents cursor page tried ++ events).getLast? =
        some (.scanned last (.error cause)) := by
      rw [List.getLast?_append, hlast, Option.some_or]
    refine .failed hfault ?_ (hfailures.trans hscans) hend
    rw [htried, hrest, List.flatMap_cons]

end Page

/-! ### The keys of a page -/

variable [Store σ] (cancelled : σ → Bool) {pattern : String}

/-- A sweep tries the keys of a page in their order, and stops before one only if it is cancelled
there. -/
theorem exists_deletions (keys : List String) (report : SweepReport) (s : σ) :
    ∃ tried t, Log (fun note s t => cancelled s = false ∧ Attempt.Tries Store.delete note s t)
        s tried t ∧
      (tried.map Prod.fst = keys ∧
          (deleteKeys cancelled keys report).runFrom s = (.ok (report.counting tried), t) ∨
        tried.map Prod.fst <+: keys ∧ cancelled t = true ∧
          (deleteKeys cancelled keys report).runFrom s =
            (.ok { report.counting tried with cancelled := true }, t)) := by
  induction keys generalizing report s with
  | nil => exact ⟨[], s, .nil s, .inl ⟨rfl, rfl⟩⟩
  | cons key keys ih =>
    rw [deleteKeys, Attempt.runFrom_bind_of_ok (Attempt.runFrom_get s)]
    cases hcancelled : cancelled s with
    | true => exact ⟨[], s, .nil s, .inr ⟨List.nil_prefix, hcancelled, rfl⟩⟩
    | false =>
      have hdelete := Attempt.runFrom_outcome (δ := SearchError) (Store.delete key) s
      obtain ⟨tried, t, hlog, hend⟩ :=
        ih (report.count ((Store.delete key).runFrom s).1) ((Store.delete key).runFrom s).2
      refine ⟨(key, ((Store.delete key).runFrom s).1) :: tried, t,
        .cons ⟨hcancelled, rfl⟩ hlog, ?_⟩
      rw [if_neg Bool.false_ne_true, Attempt.runFrom_bind_of_ok hdelete, List.map_cons]
      rcases hend with ⟨hkeys, hrun⟩ | ⟨hkeys, hlast, hrun⟩
      · exact .inl ⟨congrArg (key :: ·) hkeys, hrun⟩
      · exact .inr ⟨List.cons_prefix_cons.mpr ⟨rfl, hkeys⟩, hlast, hrun⟩

/-! ### One page -/

variable {cancelled}

/-- **One page.** The page is asked for, its keys are tried, and the sweep goes on with the cursor
of the page, unless it is cancelled before one of the keys. -/
theorem exists_step {cursor : Nat} {s t : σ} {page : ScanPage} {report : SweepReport}
    (hready : cancelled s = false)
    (hscan : (Store.scan pattern cursor).runFrom s = (.ok page, t))
    (hreport : report.cancelled = false) (fuel : Nat) :
    ∃ tried u, Log (Attempt.Tries Store.delete) t tried u ∧
      Log (Proceeds cancelled pattern) s (pageEvents cursor page tried) u ∧
      (tried.map Prod.fst = page.keys ∧
          (pages cancelled pattern (fuel + 1) cursor report).runFrom s =
            (if page.cursor = 0 then pure (report.counting tried)
              else pages cancelled pattern fuel page.cursor (report.counting tried)).runFrom u ∨
        tried.map Prod.fst <+: page.keys ∧ cancelled u = true ∧
          (pages cancelled pattern (fuel + 1) cursor report).runFrom s =
            (.ok { report.counting tried with cancelled := true }, u)) := by
  obtain ⟨tried, u, hlog, hend⟩ := exists_deletions cancelled page.keys report t
  refine ⟨tried, u, ?_, .cons ⟨hready, hscan⟩ (hlog.map fun _ _ _ h => h), ?_⟩
  · rw [← List.map_id tried]
    exact hlog.map fun _ _ _ h => h.2
  · rw [pages, Attempt.runFrom_bind_of_ok (Attempt.runFrom_get s), hready,
      if_neg Bool.false_ne_true, Attempt.runFrom_bind_of_ok hscan]
    rcases hend with ⟨hkeys, hrun⟩ | ⟨hkeys, hlast, hrun⟩
    · refine .inl ⟨hkeys, ?_⟩
      rw [Attempt.runFrom_bind_of_ok hrun, SweepReport.cancelled_counting, hreport,
        Bool.false_or]
      simp only [decide_eq_true_eq]
    · refine .inr ⟨hkeys, hlast, ?_⟩
      rw [Attempt.runFrom_bind_of_ok hrun]
      rfl

/-! ### All pages -/

/-- The course of a sweep from a state, where there are these pages to be had: what it does, how it
ends and what it answers after what the report has counted so far. -/
def HasCourse (cancelled : σ → Bool) (pattern : String) (script : List ScanPage)
    (fault : Option SearchError) (report : SweepReport) (s : σ)
    (sweep : Attempt SearchError σ SweepReport) : Prop :=
  ∃ events ending t, Log (Proceeds cancelled pattern) s events t ∧
    Ends cancelled script fault events t ending ∧
    sweep.runFrom s = (ending.answer (report.counting (deletions events)), t)

section Course

variable {script : List ScanPage} {fault : Option SearchError} {report : SweepReport}
  {cursor fuel : Nat} {s t : σ} {page : ScanPage}

/-- A sweep that is cancelled before it begins has done nothing. -/
theorem hasCourse_of_ready
    (h : cancelled s = false → HasCourse cancelled pattern script fault report s
      (pages cancelled pattern (fuel + 1) cursor report)) :
    HasCourse cancelled pattern script fault report s
      (pages cancelled pattern (fuel + 1) cursor report) := by
  cases hready : cancelled s with
  | false => exact h hready
  | true =>
    refine ⟨[], .cancelled, s, .nil s, .cancelled hready List.nil_prefix rfl, ?_⟩
    rw [pages, Attempt.runFrom_bind_of_ok (Attempt.runFrom_get s), hready]
    rfl

theorem hasCourse_of_failed {cause : SearchError} (hready : cancelled s = false)
    (hscan : (Store.scan pattern cursor).runFrom s = (.error cause, t)) :
    HasCourse cancelled pattern [] (some cause) report s
      (pages cancelled pattern (fuel + 1) cursor report) := by
  refine ⟨[.scanned cursor (.error cause)], .failed cause, t, .cons ⟨hready, hscan⟩ (.nil t),
    .failed rfl rfl rfl rfl, ?_⟩
  rw [pages, Attempt.runFrom_bind_of_ok (Attempt.runFrom_get s), hready,
    if_neg Bool.false_ne_true, Attempt.runFrom_bind_of_error hscan]
  rfl

theorem hasCourse_of_last (hready : cancelled s = false) (hreport : report.cancelled = false)
    (hscan : (Store.scan pattern cursor).runFrom s = (.ok page, t)) (hcursor : page.cursor = 0) :
    HasCourse cancelled pattern [page] none report s
      (pages cancelled pattern (fuel + 1) cursor report) := by
  obtain ⟨tried, u, -, hlog, ⟨hkeys, hrun⟩ | ⟨hkeys, hlast, hrun⟩⟩ :=
    exists_step hready hscan hreport fuel
  · refine ⟨_, .finished, u, hlog, .of_page hkeys, ?_⟩
    rw [hrun, if_pos hcursor, deletions_pageEvents]
    rfl
  · refine ⟨_, .cancelled, u, hlog, .within_page hkeys hlast, ?_⟩
    rw [hrun, deletions_pageEvents]
    rfl

/-- After a page that is not the last one, the sweep goes on from the state in which the keys of the
page were tried. -/
theorem hasCourse_of_next {gone : List (String × Except SearchError Bool)} {u : σ}
    (hready : cancelled s = false) (hreport : report.cancelled = false)
    (hscan : (Store.scan pattern cursor).runFrom s = (.ok page, t)) (hcursor : page.cursor ≠ 0)
    (hgone : Log (Attempt.Tries Store.delete) t gone u) (hall : gone.map Prod.fst = page.keys)
    (hrest : ∀ report : SweepReport, report.cancelled = false →
      HasCourse cancelled pattern script fault report u
        (pages cancelled pattern fuel page.cursor report)) :
    HasCourse cancelled pattern (page :: script) fault report s
      (pages cancelled pattern (fuel + 1) cursor report) := by
  obtain ⟨tried, v, htries, hlog, ⟨hkeys, hrun⟩ | ⟨hkeys, hlast, hrun⟩⟩ :=
    exists_step hready hscan hreport fuel
  · -- All keys of the page were tried, so the scans go on from the state that they expect.
    obtain ⟨rfl, rfl⟩ := Log.unique htries hgone (hkeys.trans hall.symm)
    obtain ⟨events, ending, w, hmore, hend, hrunrest⟩ :=
      hrest _ ((report.cancelled_counting tried).trans hreport)
    refine ⟨_, ending, w, hlog.append hmore, .after_page hkeys hend, ?_⟩
    rw [hrun, if_neg hcursor, hrunrest, deletions_append, deletions_pageEvents,
      SweepReport.counting_append]
  · refine ⟨_, .cancelled, v, hlog, .within_page hkeys hlast, ?_⟩
    rw [hrun, deletions_pageEvents]
    rfl

end Course

/-- **All pages from a cursor on.** If the scans of a store come to an end within the bound, the
sweep does so too: by itself, with a scan that fails, or in a state in which it is cancelled. -/
theorem hasCourse_pages {cursor : Nat} {s : σ} {script : List ScanPage} {fault : Option SearchError}
    (hscript : Store.Pages pattern cursor s script fault) {fuel : Nat}
    (hfuel : script.length + fault.toList.length ≤ fuel) {report : SweepReport}
    (hreport : report.cancelled = false) :
    HasCourse cancelled pattern script fault report s
      (pages cancelled pattern fuel cursor report) := by
  induction hscript generalizing fuel report with
  | last hscan hcursor =>
    obtain ⟨fuel, rfl⟩ := Nat.exists_eq_add_of_le' hfuel
    exact hasCourse_of_ready fun hready => hasCourse_of_last hready hreport hscan hcursor
  | failed hscan =>
    obtain ⟨fuel, rfl⟩ := Nat.exists_eq_add_of_le' hfuel
    exact hasCourse_of_ready fun hready => hasCourse_of_failed hready hscan
  | @next cursor s page t gone u script fault hscan hcursor hgone hall _ ih =>
    cases fuel with
    | zero => simp at hfuel
    | succ fuel =>
      have hrest : script.length + fault.toList.length ≤ fuel := by
        rw [List.length_cons] at hfuel
        omega
      exact hasCourse_of_ready fun hready => hasCourse_of_next hready hreport hscan hcursor hgone
        hall fun _ hcounted => ih hrest hcounted

variable (cancelled)

/-- **A whole sweep** of a store whose scans come to an end within the bound of the store. -/
theorem hasCourse_run {s : σ} {script : List ScanPage} {fault : Option SearchError}
    (hscript : Store.Pages pattern 0 s script fault)
    (hbound : script.length + fault.toList.length ≤ Store.pageBound s) :
    HasCourse cancelled pattern script fault (.start pattern) s (run cancelled pattern) := by
  have hpages : HasCourse cancelled pattern script fault (.start pattern) s
      (pages cancelled pattern (Store.pageBound s) 0 (.start pattern)) :=
    hasCourse_pages hscript hbound rfl
  obtain ⟨events, ending, t, hlog, hend, hrun⟩ := hpages
  refine ⟨events, ending, t, hlog, hend, ?_⟩
  rw [run, Attempt.runFrom_bind_of_ok (Attempt.runFrom_get s)]
  exact hrun

end Sweep

end HybridSearch
