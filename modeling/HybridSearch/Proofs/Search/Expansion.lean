import HybridSearch.Proofs.Log
import HybridSearch.Search.Parent
import Mathlib.Data.List.Basic

/-!
# Expanding parents in any store

The parents that hits name are looked up in their order, and then the records of those that are
there. What could not be read leaves a gap and does not stop the others.

## Main definitions

* `ParentView.LooksUp`, `ParentView.Reads` — the parent and the record under an id, as they are
  read.
* `ParentView.idsOf?`, `ParentView.chunkOf?` — what is made of what was read.
* `ParentView.Gathered` — a parent whose records were read.
* `Store.Answers` — a store that reads alike every time.
* `ParentView.viewBy?` — the view of a parent by what such a store answers.

## Main results

* `ParentView.exists_log_expand` — an expansion, read by read.
* `ParentView.settles_expand` — an expansion in a store that reads alike every time.
-/

namespace HybridSearch

/-- From every state of a region the store answers the same for a field and for a record, and stays
in the region. -/
structure Store.Answers {σ : Type} [Store σ] (region : σ → Prop)
    (field? : (key field : String) → Option Bytes)
    (record : (key : String) → Except SearchError StoredHash) : Prop where
  hashGet (key field : String) : (Store.hashGet key field).Settles region (.ok (field? key field))
  hashGetAll (key : String) : (Store.hashGetAll key).Settles region (record key)

namespace ParentView

/-! ### What was read -/

/-- The ids that a parent lists, unless it was not there. -/
def idsOf? : Except SearchError (Option Bytes) → Option (List String)
  | .ok (some bytes) => some (splitList (Text.decodeLossy bytes))
  | .ok none => none
  | .error _ => none

/-- The readable values of a record, unless it was not there. -/
def chunkOf? : Except SearchError StoredHash → Option Json.Members
  | .ok [] => none
  | .ok hash => some (Hit.readFields none hash)
  | .error _ => none

/-- A parent that was found, with the ids that it lists. -/
def listing? (lookup : String × Except SearchError (Option Bytes)) :
    Option (String × List String) :=
  (idsOf? lookup.2).map fun ids => (lookup.1, ids)

theorem fst_listings_sublist (lookups : List (String × Except SearchError (Option Bytes))) :
    ((lookups.filterMap listing?).map Prod.fst).Sublist (lookups.map Prod.fst) := by
  induction lookups with
  | nil => exact .slnil
  | cons lookup lookups ih =>
    cases hids : idsOf? lookup.2 with
    | none =>
      rw [List.filterMap_cons_none (by rw [listing?, hids]; rfl)]
      exact ih.cons lookup.1
    | some ids =>
      rw [List.filterMap_cons_some (by rw [listing?, hids]; rfl)]
      exact ih.cons_cons lookup.1

/-- A parent whose records were read. -/
structure Gathered where
  uid : String
  reads : List (String × Except SearchError StoredHash)

namespace Gathered

def listing (gathered : Gathered) : String × List String :=
  (gathered.uid, gathered.reads.map Prod.fst)

def view (gathered : Gathered) : ParentView :=
  ⟨gathered.uid, gathered.reads.filterMap fun read => chunkOf? read.2⟩

end Gathered

variable {σ : Type} [Store σ] (index : String)

/-- The look-up of a parent leads from one state to the other, and ends as it is noted. -/
abbrev LooksUp : String × Except SearchError (Option Bytes) → σ → σ → Prop :=
  Attempt.Tries fun uid => Store.hashGet (Key.parent index uid) ParentDocument.itemsField

/-- The reading of a record leads from one state to the other, and ends as it is noted. -/
abbrev Reads : String × Except SearchError StoredHash → σ → σ → Prop :=
  Attempt.Tries fun id => Store.hashGetAll (Key.record index id)

/-! ### Read by read -/

/-- A record that cannot be read is taken for one that is not there. -/
theorem runFrom_loadChunk_eq (id : String) (s : σ) :
    (loadChunk index id).runFrom s =
      (.ok (chunkOf? ((Store.hashGetAll (Key.record index id)).runFrom s).1),
        ((Store.hashGetAll (Key.record index id)).runFrom s).2) := by
  rw [loadChunk, Attempt.runFrom_bind_of_ok (Attempt.runFrom_outcome _ s)]
  rcases ((Store.hashGetAll (Key.record index id)).runFrom s).1 with cause | _ | _ <;> rfl

theorem exists_log_load (uid : String) (ids : List String) (s : σ) :
    ∃ reads t, Log (Reads index) s reads t ∧ reads.map Prod.fst = ids ∧
      (load index uid ids).runFrom s = (.ok (Gathered.view ⟨uid, reads⟩), t) := by
  have hchunk (id : String) (s : σ) (hs : True) : ∃ result t,
      (Store.hashGetAll (Key.record index id)).runFrom s = (result, t) ∧ True ∧
        (loadChunk index id).runFrom s = (.ok (chunkOf? result), t) :=
    ⟨_, _, rfl, hs, runFrom_loadChunk_eq index id s⟩
  obtain ⟨reads, t, hlog, hids, -, hrun⟩ :=
    Attempt.exists_log_mapM (fun read => chunkOf? read.2) hchunk ids trivial
  refine ⟨reads, t, hlog, hids, ?_⟩
  rw [load, Attempt.runFrom_bind_of_ok hrun, List.filterMap_map]
  rfl

/-- The records of one parent are read after those of the parents before it. -/
theorem exists_log_loads (listed : List (String × List String)) (s : σ) :
    ∃ (gathered : List Gathered) (t : σ), Log (Reads index) s (gathered.flatMap Gathered.reads) t ∧
      gathered.map Gathered.listing = listed ∧
      (listed.mapM fun (uid, ids) => load index uid ids).runFrom s =
        (.ok (gathered.map Gathered.view), t) := by
  induction listed generalizing s with
  | nil => exact ⟨[], s, .nil s, rfl, rfl⟩
  | cons parent listed ih =>
    obtain ⟨uid, ids⟩ := parent
    obtain ⟨reads, m, hlog, rfl, hload⟩ := exists_log_load index uid ids s
    obtain ⟨gathered, t, hrest, rfl, hrun⟩ := ih m
    refine ⟨⟨uid, reads⟩ :: gathered, t, hlog.append hrest, rfl, ?_⟩
    rw [List.mapM_cons, Attempt.runFrom_bind_of_ok hload, Attempt.runFrom_bind_of_ok hrun]
    rfl

theorem runFrom_items?_of_ok {uid : String} {s t : σ} {value : Option Bytes}
    (h : (Store.hashGet (Key.parent index uid) ParentDocument.itemsField).runFrom s =
      (.ok value, t)) :
    (items? index uid).runFrom s = (.ok (idsOf? (.ok value)), t) := by
  rw [items?, Attempt.runFrom_bind_of_ok h]
  cases value <;> rfl

/-- **An expansion, read by read.** If every look-up tells whether the parent is there, the parents
are looked up in their order, and then the records of those that are there. -/
theorem exists_log_expand {region : σ → Prop}
    (hget : ∀ key field, (Store.hashGet key field).Succeeds region) (hits : List Hit) (limit : Nat)
    {s : σ} (hs : region s) :
    ∃ (lookups : List (String × Except SearchError (Option Bytes))) (m : σ)
      (gathered : List Gathered) (t : σ),
      Log (LooksUp index) s lookups m ∧ lookups.map Prod.fst = references hits ∧ region m ∧
      Log (Reads index) m (gathered.flatMap Gathered.reads) t ∧
      gathered.map Gathered.listing = lookups.filterMap listing? ∧
      (expand index hits limit).runFrom s =
        (.ok ((gathered.map Gathered.view).take limit), t) := by
  have hlookup (uid : String) (s : σ) (hs : region s) : ∃ result t,
      (Store.hashGet (Key.parent index uid) ParentDocument.itemsField).runFrom s = (result, t) ∧
        region t ∧ (do return (uid, ← items? index uid) : Attempt SearchError σ _).runFrom s =
          (.ok (uid, idsOf? result), t) := by
    obtain ⟨value, t, hvalue, ht⟩ := hget (Key.parent index uid) ParentDocument.itemsField s hs
    exact ⟨.ok value, t, hvalue, ht,
      Attempt.runFrom_bind_of_ok (runFrom_items?_of_ok index hvalue)⟩
  obtain ⟨lookups, m, hlog, huids, hm, hlookups⟩ :=
    Attempt.exists_log_mapM (fun lookup => (lookup.1, idsOf? lookup.2)) hlookup (references hits) hs
  obtain ⟨gathered, t, hreads, hgathered, hrun⟩ :=
    exists_log_loads index (lookups.filterMap listing?) m
  refine ⟨lookups, m, gathered, t, hlog, huids, hm, hreads, hgathered, ?_⟩
  rw [expand, Attempt.runFrom_bind_of_ok hlookups, List.filterMap_map]
  exact Attempt.runFrom_bind_of_ok hrun

/-! ### Stores that read alike every time -/

section Answers

variable {region : σ → Prop} {field? : String → String → Option Bytes}
  {record : String → Except SearchError StoredHash}

/-- The view of a parent that lists the given ids. -/
def viewBy (record : String → Except SearchError StoredHash) (index : String)
    (listing : String × List String) : ParentView :=
  ⟨listing.1, listing.2.filterMap fun id => chunkOf? (record (Key.record index id))⟩

/-- The view of a parent, if the parent is there. -/
def viewBy? (field? : String → String → Option Bytes)
    (record : String → Except SearchError StoredHash) (index uid : String) : Option ParentView :=
  (field? (Key.parent index uid) ParentDocument.itemsField).map fun bytes =>
    viewBy record index (uid, splitList (Text.decodeLossy bytes))

theorem Gathered.view_eq_viewBy {gathered : Gathered}
    (h : ∀ read ∈ gathered.reads, read.2 = record (Key.record index read.1)) :
    gathered.view = viewBy record index gathered.listing := by
  have hchunks : (gathered.reads.filterMap fun read => chunkOf? read.2) =
      (gathered.reads.map Prod.fst).filterMap fun id =>
        chunkOf? (record (Key.record index id)) := by
    rw [List.filterMap_map]
    exact List.filterMap_congr fun read hread => congrArg chunkOf? (h read hread)
  rw [view, hchunks]
  rfl

theorem viewBy?_eq_listing? {lookup : String × Except SearchError (Option Bytes)}
    (h : lookup.2 = .ok (field? (Key.parent index lookup.1) ParentDocument.itemsField)) :
    (listing? lookup).map (viewBy record index) = viewBy? field? record index lookup.1 := by
  rw [listing?, h, viewBy?]
  cases field? (Key.parent index lookup.1) ParentDocument.itemsField <;> rfl

/-- **An expansion in a store that reads alike every time** gives the views of the parents that are
there. -/
theorem settles_expand (h : Store.Answers region field? record) (hits : List Hit) (limit : Nat) :
    (expand index hits limit).Settles region
      (.ok (((references hits).filterMap (viewBy? field? record index)).take limit)) := by
  intro s hs
  obtain ⟨lookups, m, gathered, t, hlookups, huids, hm, hreads, hlisted, hrun⟩ :=
    exists_log_expand index (fun key field => (h.hashGet key field).succeeds) hits limit hs
  -- The look-ups leave the region as little as the readings, so both logs hold the steady answers.
  obtain ⟨hfields, -⟩ := Log.of_settles (fun uid => h.hashGet _ _) hlookups hs
  obtain ⟨hrecords, ht⟩ := Log.of_settles (fun id => h.hashGetAll _) hreads hm
  have hviews : gathered.map Gathered.view =
      (references hits).filterMap (viewBy? field? record index) :=
    calc gathered.map Gathered.view
      _ = gathered.map fun parent => viewBy record index parent.listing :=
        List.map_congr_left fun parent hparent => Gathered.view_eq_viewBy index fun read hread =>
          hrecords read (List.mem_flatMap_of_mem hparent hread)
      _ = (lookups.filterMap listing?).map (viewBy record index) := by
        rw [← hlisted, List.map_map]
        rfl
      _ = lookups.filterMap fun lookup => viewBy? field? record index lookup.1 := by
        rw [List.map_filterMap]
        exact List.filterMap_congr fun lookup hlookup =>
          viewBy?_eq_listing? index (hfields lookup hlookup)
      _ = (references hits).filterMap (viewBy? field? record index) := by
        rw [← huids, List.filterMap_map]
        rfl
  rw [hrun, hviews]
  exact ⟨rfl, ht⟩

end Answers

end ParentView

end HybridSearch
