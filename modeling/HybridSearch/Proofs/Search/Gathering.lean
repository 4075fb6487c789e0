import HybridSearch.Proofs.Search.References
import HybridSearch.Store.Faults

/-!
# Parents put together from what can be read

## Main results

* `ParentView.expand_gathers` — what an expansion reads and what it gives, for every store in which
  the look-up of parents does not fail.
-/

namespace HybridSearch.ParentView

/-- The views stand in the order in which their parents were looked up. -/
theorem uids_sublist {lookups : List (String × Except SearchError (Option Bytes))}
    {gathered : List Gathered} (h : gathered.map Gathered.listing = lookups.filterMap listing?)
    (limit : Nat) :
    (((gathered.map Gathered.view).take limit).map ParentView.uid).Sublist
      (lookups.map Prod.fst) := by
  have huids : (gathered.map Gathered.view).map ParentView.uid =
      (lookups.filterMap listing?).map Prod.fst := by
    rw [← h, List.map_map, List.map_map]
    rfl
  rw [List.map_take, huids]
  exact (List.take_sublist limit _).trans (fst_listings_sublist lookups)

/-- **An expansion gives what can be read.** As long as the look-up of a parent does not fail, an
expansion does not fail either, whatever becomes of the records. The parents that hits name are
looked up once each, where they are first named, and those that are there give one view each, with
what could be read of their records in the order in which they list them. Where the store reads
alike every time, these are the views of what it holds. -/
theorem expand_gathers :
    (∀ {σ : Type} [Store σ] {region : σ → Prop} (index : String) (hits : List Hit) (limit : Nat)
      (s : σ), (∀ key field, (Store.hashGet key field).Succeeds region) → region s →
      ∃ (lookups : List (String × Except SearchError (Option Bytes))) (m : σ)
        (gathered : List Gathered) (t : σ),
        Log (LooksUp index) s lookups m ∧
        lookups.map Prod.fst = (hits.flatMap Hit.parents).eraseDups ∧
        Log (Reads index) m (gathered.flatMap Gathered.reads) t ∧
        gathered.map Gathered.listing = lookups.filterMap listing? ∧
        (expand index hits limit).runFrom s =
          (.ok ((gathered.map Gathered.view).take limit), t) ∧
        (((gathered.map Gathered.view).take limit).map ParentView.uid).Sublist
          (hits.flatMap Hit.parents).eraseDups ∧
        (((gathered.map Gathered.view).take limit).map ParentView.uid).Nodup) ∧
    ∀ {σ : Type} [Store σ] {region : σ → Prop} {field? : String → String → Option Bytes}
      {record : String → Except SearchError StoredHash} (index : String) (hits : List Hit)
      (limit : Nat), Store.Answers region field? record →
      (expand index hits limit).Settles region
        (.ok ((((hits.flatMap Hit.parents).eraseDups).filterMap
          (viewBy? field? record index)).take limit)) := by
  constructor
  · intro σ _ region index hits limit s hget hs
    obtain ⟨lookups, m, gathered, t, hlookups, huids, -, hreads, hlistings, hrun⟩ :=
      exists_log_expand index hget hits limit hs
    have hsublist := uids_sublist hlistings limit
    rw [huids] at hsublist
    have hnodup := (nodup_references hits).sublist hsublist
    rw [references_eq] at huids hsublist
    exact ⟨lookups, m, gathered, t, hlookups, huids, hreads, hlistings, hrun, hsublist, hnodup⟩
  · intro σ _ region field? record index hits limit h
    rw [← references_eq]
    exact settles_expand index h hits limit

/-- Of the records that a parent lists, the second cannot be read and the third is not there. -/
private abbrev halfRead : Faulty MemoryStore :=
  .ofStore ((MemoryStore.empty.hashSet "vs:i:1" [("title", .text "one")]).hashSet "vs:i:parent:p"
      (ParentDocument.fields ⟨"p", ["1", "2", "3", "1"]⟩))
    { refuse operation key :=
        if operation = .hashGetAll ∧ key = "vs:i:2" then some (.storeUnavailable "read") else none
      page := none
      overlap := false }

private abbrev halfReadRecord (key : String) : Except SearchError StoredHash :=
  if key = "vs:i:2" then .error (.storeUnavailable "read") else .ok (halfRead.inner.hash key)

private theorem answers_halfRead :
    Store.Answers (· = halfRead) (fun key field => StoredHash.get? (halfRead.inner.hash key) field)
      halfReadRecord where
  hashGet _ _ := by
    rintro _ rfl
    exact ⟨rfl, rfl⟩
  hashGetAll key := by
    rintro _ rfl
    by_cases hkey : key = "vs:i:2"
    · subst hkey
      exact ⟨rfl, rfl⟩
    · have hplan : halfRead.plan.refuse .hashGetAll key = none := if_neg fun h => hkey h.2
      have hread : (Store.hashGetAll key).runFrom halfRead =
          (.ok (halfRead.inner.hash key), halfRead) := by
        change (Faulty.guarded .hashGetAll key _).runFrom halfRead = _
        rw [Faulty.guarded, Attempt.runFrom_bind_of_ok (Attempt.runFrom_get _), hplan]
        rfl
      rw [hread, halfReadRecord, if_neg hkey]
      exact ⟨rfl, rfl⟩

/-- Two hits that name a parent twice and one that is not there. -/
private abbrev naming : List Hit :=
  [⟨"1", [(Query.parentField, .str "q,p")]⟩, ⟨"4", [(Query.parentField, .str "p")]⟩]

/-- The record that could be read stands in the view as often as it is listed. -/
theorem expand_gathers_of_gaps :
    ∃ lookups m views t, Log (LooksUp "i") halfRead lookups m ∧
      lookups.map Prod.fst = ["q", "p"] ∧
      (expand "i" naming 5).runFrom halfRead = (.ok views, t) ∧
      views.map (fun view => (view.uid, view.chunks.length)) = [("p", 2)] := by
  have hsteady := (expand_gathers.2 "i" naming 5 answers_halfRead).runFrom_eq
  obtain ⟨lookups, m, _, _, hlookups, huids, -⟩ := expand_gathers.1 "i" naming 5 halfRead
    (fun key field => (answers_halfRead.hashGet key field).succeeds) rfl
  have hnamed : (naming.flatMap Hit.parents).eraseDups = ["q", "p"] := by decide +kernel
  refine ⟨lookups, m, _, _, hlookups, huids.trans hnamed, hsteady, ?_⟩
  rw [hnamed]
  decide +kernel

end HybridSearch.ParentView
