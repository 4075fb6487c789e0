import HybridSearch.Proofs.Search.Probe

/-!
# Isolation of searches

The records of an index are found by what their keys begin with, and parents and other indexes have
keys of the same form. A search finds nothing but records of its index as long as the session holds
no origin that intrudes on the index, and each origin that intrudes is found by some search.

## Main definitions

* `Session.Isolated` — a hit that stands for a record of the index and for nothing else.
* `Origin.IsWritable` — the origins that callers can write.

## Main results

* `Session.Sound.isolated` — without intruders every hit is isolated.
* `Session.exists_not_isolated` — every intruder is found by some search.
* `Session.search_isolation` — both together, for every session.
-/

namespace HybridSearch

namespace Origin

/-- What a caller can write: a row carries an id without blanks around it, and not an empty one. -/
def IsWritable : Origin → Prop
  | record _ id => Text.trim id = id ∧ id ≠ ""
  | parent _ _ => True

/-- Calls that write an origin with the tag that is searched for. -/
def writing : Origin → List Call
  | record index id =>
    [.createIndex index Probe.fields, .ingestDocuments index (.obj (Probe.document id))]
  | parent index uid => [.putParent index ⟨uid, ["x"]⟩]

end Origin

namespace Session

variable {α : Type} {session : Session α} {config : Config}

/-- The session holds the record of the hit in the index, and nothing else under its key. -/
def Isolated (session : Session α) (index : String) (hit : Hit) : Prop :=
  .record index hit.id ∈ session.origins ∧
    ∀ origin ∈ session.origins, origin.key = Key.record index hit.id →
      origin = .record index hit.id

/-! ### Without intruders -/

theorem Sound.isolated (h : session.Sound config) {request : SearchRequest}
    {response : SearchResponse} {after : Service MemoryStore α}
    (hsearch : (Service.search request).runFrom session.service = (.ok response, after))
    (hintrudes : ∀ origin ∈ session.origins, ¬origin.Intrudes request.index) {hit : Hit}
    (hhit : hit ∈ response.hits) : session.Isolated request.index hit := by
  obtain ⟨definition, key, hget, hstored, hstart, hid⟩ :=
    Service.exists_key_of_mem_hits hsearch hhit
  rw [(h.catalogued request.index definition hget).keySpace_eq] at hstart
  obtain ⟨id, hspace⟩ := Option.isSome_iff_exists.mp hstart
  obtain rfl : hit.id = id := by rw [hid, hspace, Option.getD_some]
  have hkey := Key.startsWith?_space.mp hspace
  have honly : ∀ origin ∈ session.origins, origin.key = Key.record request.index hit.id →
      origin = .record request.index hit.id := by
    intro origin horigin heq
    exact (Origin.eq_record_or_intrudes heq).resolve_right (hintrudes origin horigin)
  obtain ⟨origin, horigin, heq⟩ := (h.isSome_get?_iff key).mp hstored
  obtain rfl := honly origin horigin (heq.trans hkey)
  exact ⟨horigin, honly⟩

/-! ### A session with one intruder -/

/-- A new index for the tag, in a session that has stored nothing. -/
private theorem perform_createIndex (session : Session α) {name : String}
    (hnone : session.store.indexes.get? name = none) (horigins : session.origins = []) :
    ∃ service, session.perform (.createIndex name Probe.fields) = ⟨service, []⟩ ∧
      service.store.records = session.store.records ∧
      ∀ other, service.store.indexes.get? other =
        if other = name then some (.compile name session.service.config.vector Probe.fields)
        else session.store.indexes.get? other := by
  have hcreate : session.store.createIndex
      (.compile name session.service.config.vector Probe.fields) = .ok _ :=
    MemoryStore.createIndex_eq_ok_iff.mpr ⟨hnone, rfl⟩
  rw [store] at hcreate
  rw [perform, Call.perform, Service.runFrom_createIndex, hcreate, horigins]
  exact ⟨_, rfl, rfl, fun other => Dict.get?_insert ..⟩

private theorem perform_putParent (index : String) (parent : ParentDocument)
    (horigins : session.origins = []) :
    session.perform (.putParent index parent) =
      ⟨session.service.withStore
        (session.store.hashSet (Key.parent index parent.uid) parent.fields),
        [.parent index parent.uid]⟩ := by
  have hwritten := session.origins_perform (.putParent index parent)
  rw [horigins] at hwritten
  exact congrArg (mk _) hwritten

private theorem perform_ingestDocuments {index id : String} {space : VectorSpace}
    (hindex : session.store.indexes.get? index = some (.compile index space Probe.fields))
    (htrim : Text.trim id = id) (hid : id ≠ "") (horigins : session.origins = []) :
    session.perform (.ingestDocuments index (.obj (Probe.document id))) =
      ⟨session.service.withStore
        (session.store.hashSet (Key.record index id) (Probe.record index id).fields),
        [.record index id]⟩ := by
  have hingest : (Service.ingestDocuments index (.obj (Probe.document id))).runFrom
      session.service = _ := Probe.runFrom_ingestDocuments hindex htrim hid
  have hwritten := session.origins_perform (.ingestDocuments index (.obj (Probe.document id)))
  rw [horigins] at hwritten
  rw [perform] at hwritten ⊢
  rw [Call.perform, hingest] at hwritten ⊢
  exact congrArg (mk _) hwritten

private theorem entries_hashSet_of_empty {store : MemoryStore} (h : store.records = .empty)
    (key : String) (fields : List (String × FieldValue)) :
    (store.hashSet key fields).records.entries = [(key, StoredHash.merge [] fields)] := by
  simp only [MemoryStore.hashSet, MemoryStore.hash, h]
  rfl

/-- A session that writes nothing but an intruder, with the tag that is searched for. -/
private theorem run_intruder (config : Config) (archive : Option α) (intake : Intake)
    {index : String} {origin : Origin} (hintrudes : origin.Intrudes index)
    (hwritable : origin.IsWritable) :
    ∃ service hash, (start config archive intake).run
        (.createIndex index Probe.fields :: origin.writing) = ⟨service, [origin]⟩ ∧
      service.store.indexes.get? index = some (.compile index config.vector Probe.fields) ∧
      service.store.records.entries = [(origin.key, hash)] ∧
      hash.lookup ParentDocument.itemsField = some (Text.encode "x") := by
  have hnone : (start config archive intake).store.indexes.get? index = none := rfl
  obtain ⟨service, hcreate, hrecords, hget⟩ := perform_createIndex _ hnone rfl
  have hindex : service.store.indexes.get? index =
      some (.compile index config.vector Probe.fields) := (hget index).trans (if_pos rfl)
  rw [run, List.foldl_cons, hcreate]
  cases origin with
  | parent j uid =>
    exact ⟨_, _, perform_putParent j ⟨uid, ["x"]⟩ rfl, hindex,
      entries_hashSet_of_empty hrecords _ _, rfl⟩
  | record j id =>
    have hfree : service.store.indexes.get? j = none :=
      (hget j).trans (if_neg hintrudes.ne_of_record)
    obtain ⟨second, hsecond, hsame, hboth⟩ := perform_createIndex ⟨service, []⟩ hfree rfl
    have hown : second.store.indexes.get? j = _ := (hboth j).trans (if_pos rfl)
    have hother := (hboth index).trans (if_neg hintrudes.ne_of_record.symm)
    rw [Origin.writing, List.foldl_cons, hsecond]
    exact ⟨_, _, perform_ingestDocuments hown hwritable.1 hwritable.2 rfl, hother.trans hindex,
      entries_hashSet_of_empty (hsame.trans hrecords) _ _, rfl⟩

/-- **An intruder is found**, in every service and without anything else being stored. -/
theorem exists_not_isolated (config : Config) (archive : Option α) (intake : Intake)
    {index : String} {origin : Origin} (hintrudes : origin.Intrudes index)
    (hwritable : origin.IsWritable) :
    ∃ calls request response after,
      ((start config archive intake).run calls).origins = [origin] ∧
      request.index = index ∧
      (Service.search request).runFrom ((start config archive intake).run calls).service =
        (.ok response, after) ∧
      ∃ hit ∈ response.hits,
        ¬((start config archive intake).run calls).Isolated index hit := by
  obtain ⟨service, hash, hrun, hindex, hrecords, htag⟩ :=
    run_intruder config archive intake hintrudes hwritable
  obtain ⟨id, hkey⟩ := hintrudes.exists_key
  rw [hkey] at hrecords
  obtain ⟨hit, hsearch, rfl⟩ := Probe.runFrom_search hindex hrecords htag
  refine ⟨.createIndex index Probe.fields :: origin.writing, Probe.request index, ⟨[hit], []⟩,
    service, ?_, rfl, ?_, hit, List.mem_singleton_self hit, ?_⟩
  · rw [hrun]
  · rw [hrun]
    exact hsearch
  · rw [hrun]
    rintro ⟨hmem, -⟩
    obtain rfl := List.mem_singleton.mp hmem
    exact hintrudes.ne_of_record rfl

/-! ### Searches in general -/

/-- **A search is isolated unless an intruder is stored.** In every session that holds no origin
intruding on the index of a request, every hit stands for a record that was ingested into the index,
and for nothing else. The condition cannot be left out for any origin that callers can write: a
session that writes nothing but such an intruder has a search that finds it. -/
theorem search_isolation (config : Config) (archive : Option α) (intake : Intake) :
    (∀ calls request response after,
      (∀ origin ∈ ((start config archive intake).run calls).origins,
        ¬origin.Intrudes request.index) →
      (Service.search request).runFrom ((start config archive intake).run calls).service =
        (.ok response, after) →
      ∀ hit ∈ response.hits,
        ((start config archive intake).run calls).Isolated request.index hit) ∧
    ∀ index origin, origin.Intrudes index → origin.IsWritable →
      ∃ calls request response after,
        ((start config archive intake).run calls).origins = [origin] ∧
        request.index = index ∧
        (Service.search request).runFrom ((start config archive intake).run calls).service =
          (.ok response, after) ∧
        ∃ hit ∈ response.hits,
          ¬((start config archive intake).run calls).Isolated index hit :=
  ⟨fun calls _ _ _ hintrudes hsearch _ hhit =>
    (sound_run config archive intake calls).isolated hsearch hintrudes hhit,
    fun _ _ => exists_not_isolated config archive intake⟩

/-- A record is found and isolated in its own index, and found but not isolated from an index whose
name its own continues. -/
theorem search_isolation_of_record :
    (∃ response after, (Service.search (Probe.request "a")).runFrom
        (Probe.blank.run (Origin.record "a" "1").writing).service = (.ok response, after) ∧
      ∃ hit ∈ response.hits, (Probe.blank.run (Origin.record "a" "1").writing).Isolated "a" hit) ∧
    ∃ calls request response after,
      (Probe.blank.run calls).origins = [.record "a:b" "1"] ∧ request.index = "a" ∧
      (Service.search request).runFrom (Probe.blank.run calls).service =
        (.ok response, after) ∧
      ∃ hit ∈ response.hits, ¬(Probe.blank.run calls).Isolated "a" hit := by
  have hisolation := search_isolation .standard (none : Option Unit) Probe.unloaded
  refine ⟨?_, hisolation.2 "a" (.record "a:b" "1") (Or.inr (Or.inl ⟨"b", by decide⟩))
    ⟨by decide, by decide⟩⟩
  have horigins : (Probe.blank.run (Origin.record "a" "1").writing).origins =
      [.record "a" "1"] := by decide +kernel
  have hfound : (((Service.search (Probe.request "a")).runFrom
      (Probe.blank.run (Origin.record "a" "1").writing).service).1.toOption.map fun response =>
        response.hits.map Hit.id) = some ["1"] := by decide +kernel
  rcases hsearch : (Service.search (Probe.request "a")).runFrom
    (Probe.blank.run (Origin.record "a" "1").writing).service with ⟨cause | response, after⟩
  · rw [hsearch] at hfound
    cases hfound
  · rw [hsearch] at hfound
    have hids : response.hits.map Hit.id = ["1"] := Option.some.inj hfound
    obtain ⟨hit, hhit, -⟩ := List.mem_map.mp (hids ▸ List.mem_singleton_self "1")
    refine ⟨response, after, rfl, hit, hhit, ?_⟩
    refine hisolation.1 _ (Probe.request "a") response after ?_ hsearch hit hhit
    intro origin horigin hintrudes
    rw [horigins] at horigin
    obtain rfl := List.mem_singleton.mp horigin
    exact hintrudes.ne_of_record rfl

/-- Not every hit of every search is isolated: a parent is found among the records of its index. -/
theorem not_search_isolated :
    ¬∀ calls request response after,
      (Service.search request).runFrom (Probe.blank.run calls).service =
        (.ok response, after) →
      ∀ hit ∈ response.hits, (Probe.blank.run calls).Isolated request.index hit := by
  intro hall
  have hintrudes : (Origin.parent "a" "p").Intrudes "a" := Or.inl ⟨"p", rfl⟩
  obtain ⟨calls, request, response, after, -, hindex, hsearch, hit, hhit, hnot⟩ :=
    exists_not_isolated .standard (none : Option Unit) Probe.unloaded hintrudes
      trivial
  rw [← hindex] at hnot
  exact hnot (hall calls request response after hsearch hit hhit)

end Session

end HybridSearch
