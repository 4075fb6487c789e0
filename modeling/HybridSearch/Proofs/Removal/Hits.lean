import HybridSearch.Proofs.Removal.Erasure
import HybridSearch.Proofs.Search.Probe

/-!
# Removing what was found

The id of a hit is what its key has after the start that the keys of the index have, so the removal
of that id is the removal of the record that was found.

## Main results

* `StoredDocument.record_id` — the key of a document, from its id.
* `DeleteReport.tries_every_id` — the removal of documents in any store, in memory and after a
  search.
-/

namespace HybridSearch

/-- A document of an index is stored under the key that its id has there. -/
theorem StoredDocument.record_id {document : StoredDocument} {index : String}
    (h : (Text.startsWith? (Key.space index) document.key).isSome) :
    Key.record index (document.id (Key.space index)) = document.key := by
  obtain ⟨id, hid⟩ := Option.isSome_iff_exists.mp h
  rw [StoredDocument.id, hid, Option.getD_some, Key.startsWith?_space.mp hid]

namespace DeleteReport

theorem run_memory (index : String) (uids : List String) (store : MemoryStore) :
    ∃ after, (run index uids).run store = (⟨uids, []⟩, after) ∧
      after.indexes = store.indexes ∧
      ∀ key, after.get? key =
        if key ∈ uids.map (Key.record index) then none else store.get? key :=
  ⟨_, run_run index uids store, store.indexes_eraseAll _, store.get?_eraseAll _⟩

/-- **Every id is tried and reported.** Whatever becomes of the others, the record of each id is
deleted once for each time that the id was given, and the report splits the ids by how their own
deletions have ended. It is made of these ends alone, in whatever order they came. In memory none
fails, and the records of the ids are all that is gone. The id of a hit removes the record that was
found, if the keys of the index begin as they do for every definition that was compiled. -/
theorem tries_every_id :
    (∀ {σ : Type} [Store σ] (index : String) (uids : List String) (s : σ),
      ∃ notes t, Log (Tries index) s notes t ∧ notes.map Prod.fst = uids ∧
        (run index uids).run s = (ofResults notes, t)) ∧
    (∀ notes, Splits notes (ofResults notes) ∧
      ∀ uid, (uid ∈ (ofResults notes).deleted ↔ ∃ existed, (uid, .ok existed) ∈ notes) ∧
        (uid ∈ (ofResults notes).failed.map FailedDelete.uid ↔
          ∃ cause, (uid, .error cause) ∈ notes)) ∧
    (∀ (index : String) (uids : List String) (store : MemoryStore),
      ∃ after, (run index uids).run store = (⟨uids, []⟩, after) ∧
        after.indexes = store.indexes ∧
        ∀ key, after.get? key =
          if key ∈ uids.map (Key.record index) then none else store.get? key) ∧
    ∀ (store : MemoryStore) (index : String) (definition : IndexDefinition) (query : Query)
      (fields : FieldSet) (hits : List Hit),
      store.indexes.get? index = some definition → definition.keySpace = Key.space index →
      ((query.execute index fields).runFrom store).1 = .ok hits → ∀ hit ∈ hits,
      ∃ documents, store.search index query = .ok documents ∧
        ∃ document ∈ documents, hit = .ofDocument (Key.space index) fields document ∧
          document.key = Key.record index hit.id ∧ (store.get? document.key).isSome ∧
          ∃ after, (run index [hit.id]).run store = (⟨[hit.id], []⟩, after) ∧
            after.indexes = store.indexes ∧
            ∀ key, after.get? key = if key = document.key then none else store.get? key := by
  refine ⟨exists_log_run, fun notes => ?_, run_memory,
    fun store index definition query fields hits hget hspace hhits hit hhit => ?_⟩
  · have hsplits := splits_ofResults notes
    exact ⟨hsplits, fun _ =>
      ⟨mem_deleted_iff_of_splits hsplits, mem_failed_iff_of_splits hsplits⟩⟩
  · obtain ⟨documents, hsearch, document, hdocument, hread⟩ :=
      Query.exists_document_of_mem_hits hhits hhit
    obtain ⟨other, hother, hstored, hstart⟩ := MemoryStore.isSome_get?_of_search hsearch hdocument
    obtain rfl := Option.some.inj (hget.symm.trans hother)
    rw [hspace] at hstart
    have hkey : Key.record index hit.id = document.key := by
      rw [hread]
      exact StoredDocument.record_id hstart
    obtain ⟨after, hrun, hindexes, hafter⟩ := run_memory index [hit.id] store
    refine ⟨documents, hsearch, document, hdocument, hread, hkey.symm, hstored, after, hrun,
      hindexes, fun key => ?_⟩
    rw [hafter, List.map_singleton, hkey]
    simp only [List.mem_singleton]

/-- Records of one id in two indexes. -/
private abbrev twoTagged : MemoryStore :=
  (Probe.blank.run [.createIndex "a" Probe.fields, .ingestDocuments "a" (.obj (Probe.document "1")),
    .createIndex "b" Probe.fields, .ingestDocuments "b" (.obj (Probe.document "1"))]).store

/-- What was found in one index is removed there, and the record of the other index stays. -/
theorem tries_every_id_of_hit :
    ∃ after, (run "a" ["1"]).run twoTagged = (⟨["1"], []⟩, after) ∧
      (twoTagged.get? "vs:a:1").isSome = true ∧ after.get? "vs:a:1" = none ∧
      after.get? "vs:b:1" = twoTagged.get? "vs:b:1" := by
  have hids : (((Probe.query.execute "a" Probe.fieldSet).runFrom twoTagged).1.toOption.map
      fun hits => hits.map Hit.id) = some ["1"] := by decide +kernel
  obtain ⟨hits, _, hhits, hid⟩ := Attempt.exists_of_map_toOption hids
  obtain ⟨hit, rfl, hhit⟩ := List.map_eq_singleton_iff.mp hid
  obtain ⟨_, -, document, -, -, hkey, hstored, after, hrun, -, hafter⟩ :=
    tries_every_id.2.2.2 twoTagged "a" (.compile "a" Config.standard.vector Probe.fields)
      Probe.query Probe.fieldSet [hit] (by decide +kernel) rfl (congrArg Prod.fst hhits) hit
      List.mem_cons_self
  have hplace : document.key = "vs:a:1" := by rw [hkey, hhit]; decide
  rw [hplace] at hstored
  rw [hhit] at hrun
  refine ⟨after, hrun, hstored, ?_, ?_⟩
  · rw [hafter, if_pos hplace.symm]
  · rw [hafter, hplace, if_neg (by decide)]

end DeleteReport

end HybridSearch
