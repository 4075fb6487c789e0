import HybridSearch.Proofs.Service.Origin
import HybridSearch.Proofs.Service.Search

/-!
# Sessions

A session is what a caller does with one service, call after call, with its store in memory.
It keeps account of where the stored hashes come from: which records were reported as ingested and
which parents were put, as long as their keys are there.

## Main definitions

* `Call`, `Call.perform` — what a caller may do.
* `Change` — what a call may do to the store.
* `Session`, `Session.run` — calls from a fresh service on.
* `Session.Sound` — the account is right, and the catalogue is well-formed.

## Main results

* `Call.change_perform` — every call is one of the changes.
* `Change.catalogued`, `Change.hasDistinctFields`, `Change.isSome_get?` — what every change keeps.
* `Session.sound_run` — every session is sound.
* `Session.hasDistinctFields_run` — no record of a session has two values under one name.
* `Session.catalogue_invariant` — what every definition of every session is like, and that what
  fails changes nothing.
-/

namespace HybridSearch

/-! ### Calls -/

/-- What a caller may do. A sweep is cancelled in the states that `cancelled` tells. -/
inductive Call where
  | createIndex (name : String) (fields : List Field)
  | alterIndex (name : String) (fields : List Field)
  | dropIndex (cancelled : MemoryStore → Bool) (name : String) (deleteRecords : Bool)
  | ingestDocuments (index : String) (documents : Json)
  | putParent (index : String) (parent : ParentDocument)
  | deleteDocuments (index : String) (uids : List String)
  | sweep (cancelled : MemoryStore → Bool) (pattern : String)
  | search (request : SearchRequest)

/-- The service after a call, and the origins that the answer reports as written. -/
def Call.perform {α : Type} (call : Call) (service : Service MemoryStore α) :
    List Origin × Service MemoryStore α :=
  match call with
  | createIndex name fields => ([], ((Service.createIndex name fields).runFrom service).2)
  | alterIndex name fields => ([], ((Service.alterIndex name fields).runFrom service).2)
  | dropIndex cancelled name deleteRecords =>
    ([], ((Service.dropIndex cancelled name deleteRecords).runFrom service).2)
  | ingestDocuments index documents =>
    match (Service.ingestDocuments index documents).runFrom service with
    | (.ok report, after) => (report.written.map (Origin.record index), after)
    | (.error _, after) => ([], after)
  | putParent index parent =>
    match (Service.putParent index parent).runFrom service with
    | (.ok (), after) => ([.parent index parent.uid], after)
    | (.error _, after) => ([], after)
  | deleteDocuments index uids => ([], ((Service.deleteDocuments index uids).run service).2)
  | sweep cancelled pattern => ([], ((Service.sweep cancelled pattern).runFrom service).2)
  | search request => ([], ((Service.search request).runFrom service).2)

/-- What a call may do to a store, and the origins of what it writes. -/
inductive Change (space : VectorSpace) (store : MemoryStore) : MemoryStore → List Origin → Prop
  | none : Change space store store []
  | created {name : String} {fields : List Field} {changed : MemoryStore}
      (h : store.createIndex (.compile name space fields) = .ok changed) :
      Change space store changed []
  | altered {name : String} {fields : List Field} {changed : MemoryStore}
      (h : store.alterIndex name (Attribute.compile space fields) = .ok changed) :
      Change space store changed []
  | dropped {name : String} {changed : MemoryStore} (h : store.dropIndex name = .ok changed)
      (keys : List String) : Change space store (changed.eraseAll keys) []
  | erased (keys : List String) : Change space store (store.eraseAll keys) []
  | ingested {index : String} {outcomes : List IngestReport.Outcome}
      (h : ∀ outcome ∈ outcomes, Ingest.IsAddressed index outcome) :
      Change space store (outcomes.foldl MemoryStore.accept store)
        ((IngestReport.ofOutcomes outcomes).written.map (Origin.record index))
  | put (index : String) (parent : ParentDocument) :
      Change space store (store.hashSet (Key.parent index parent.uid) parent.fields)
        [.parent index parent.uid]

/-- **Every call is one of the changes**, and none of them touches the configuration. -/
theorem Call.change_perform {α : Type} (call : Call)
    (service : Service MemoryStore α) :
    Change service.config.vector service.store (call.perform service).2.store
        (call.perform service).1 ∧
      (call.perform service).2.config = service.config := by
  cases call with
  | createIndex name fields =>
    rw [perform, Service.runFrom_createIndex]
    split
    · rename_i h
      exact ⟨.created h, rfl⟩
    · exact ⟨.none, rfl⟩
  | alterIndex name fields =>
    rw [perform, Service.runFrom_alterIndex]
    split
    · rename_i h
      exact ⟨.altered h, rfl⟩
    · exact ⟨.none, rfl⟩
  | dropIndex cancelled name deleteRecords =>
    rw [perform, Service.runFrom_dropIndex]
    split
    · exact ⟨.none, rfl⟩
    · rename_i changed h
      split
      · obtain ⟨done, report, hrun, -⟩ :=
          Service.runFrom_sweep (service.withStore changed) cancelled (Key.pattern name)
        rw [Attempt.runFrom_map, hrun]
        exact ⟨.dropped h done, rfl⟩
      · exact ⟨.dropped h [], rfl⟩
  | ingestDocuments index documents =>
    rw [perform]
    split
    · rename_i h
      obtain ⟨hconfig, outcomes, rfl, hstore, haddressed⟩ :=
        Service.runFrom_ingestDocuments_of_ok service h
      dsimp only
      rw [hstore]
      exact ⟨.ingested haddressed, hconfig⟩
    · rename_i h
      obtain rfl := Service.runFrom_ingestDocuments_of_error service h
      exact ⟨.none, rfl⟩
  | putParent index parent => exact ⟨.put index parent, rfl⟩
  | deleteDocuments index uids =>
    rw [perform, Service.run_deleteDocuments]
    exact ⟨.erased _, rfl⟩
  | sweep cancelled pattern =>
    obtain ⟨done, report, hrun, -⟩ := Service.runFrom_sweep service cancelled pattern
    rw [perform, hrun]
    exact ⟨.erased done, rfl⟩
  | search request =>
    obtain ⟨hconfig, hstore⟩ := Prod.mk.inj (Service.keeps_search request service)
    refine ⟨?_, hconfig⟩
    rw [perform, hstore]
    exact .none

namespace Change

variable {space : VectorSpace} {store changed : MemoryStore} {written : List Origin}

theorem catalogued (h : Change space store changed written) (hstore : store.Catalogued space) :
    changed.Catalogued space := by
  cases h with
  | none => exact hstore
  | created h => exact hstore.createIndex h
  | altered h => exact hstore.alterIndex h
  | dropped h keys => exact (hstore.dropIndex h).of_indexes_eq (MemoryStore.indexes_eraseAll ..)
  | erased keys => exact hstore.of_indexes_eq (MemoryStore.indexes_eraseAll ..)
  | ingested h => exact hstore.of_indexes_eq (MemoryStore.indexes_foldl_accept ..)
  | put index parent => exact hstore

theorem hasDistinctFields (h : Change space store changed written)
    (hstore : store.HasDistinctFields) : changed.HasDistinctFields := by
  cases h with
  | none => exact hstore
  | created h =>
    obtain ⟨-, rfl⟩ := MemoryStore.createIndex_eq_ok_iff.mp h
    exact hstore.of_records_eq rfl
  | altered h =>
    obtain ⟨_, -, -, rfl⟩ := MemoryStore.alterIndex_eq_ok_iff.mp h
    exact hstore.of_records_eq rfl
  | dropped h keys =>
    obtain ⟨-, rfl⟩ := MemoryStore.dropIndex_eq_ok_iff.mp h
    refine MemoryStore.HasDistinctFields.eraseAll ?_ keys
    exact hstore.of_records_eq rfl
  | erased keys => exact hstore.eraseAll keys
  | ingested h => exact hstore.foldl_accept _
  | put index parent => exact hstore.hashSet _ _

/-- What is there after a change was there before or is reported. -/
theorem isSome_get? (h : Change space store changed written) {key : String}
    (hkey : (changed.get? key).isSome) :
    (store.get? key).isSome ∨ ∃ origin ∈ written, origin.key = key := by
  cases h with
  | none => exact Or.inl hkey
  | created h =>
    obtain ⟨-, rfl⟩ := MemoryStore.createIndex_eq_ok_iff.mp h
    exact Or.inl hkey
  | altered h =>
    obtain ⟨_, -, -, rfl⟩ := MemoryStore.alterIndex_eq_ok_iff.mp h
    exact Or.inl hkey
  | dropped h keys =>
    obtain ⟨-, rfl⟩ := MemoryStore.dropIndex_eq_ok_iff.mp h
    rw [MemoryStore.get?_eraseAll] at hkey
    split at hkey
    · cases hkey
    · exact Or.inl hkey
  | erased keys =>
    rw [MemoryStore.get?_eraseAll] at hkey
    split at hkey
    · cases hkey
    · exact Or.inl hkey
  | ingested h =>
    refine ((Ingest.isSome_get?_iff_mem_written h store key).mp hkey).imp_right ?_
    rintro ⟨id, hid, rfl⟩
    exact ⟨_, List.mem_map_of_mem hid, rfl⟩
  | put index parent =>
    rw [MemoryStore.get?_hashSet] at hkey
    split at hkey
    · rename_i heq
      exact Or.inr ⟨_, List.mem_singleton_self _, heq.symm⟩
    · exact Or.inl hkey

/-- What is reported is there. -/
theorem isSome_get?_of_mem (h : Change space store changed written) {origin : Origin}
    (horigin : origin ∈ written) : (changed.get? origin.key).isSome := by
  cases h with
  | ingested h =>
    obtain ⟨id, hid, rfl⟩ := List.mem_map.mp horigin
    exact (Ingest.isSome_get?_iff_mem_written h store _).mpr (Or.inr ⟨id, hid, rfl⟩)
  | put index parent =>
    obtain rfl := List.mem_singleton.mp horigin
    rw [MemoryStore.get?_hashSet, if_pos (by rfl)]
    rfl
  | _ => cases horigin

end Change

/-! ### Runs -/

/-- A service and the origins of the hashes that it holds. -/
structure Session (α : Type) where
  service : Service MemoryStore α
  origins : List Origin

namespace Session

variable {α : Type}

def store (session : Session α) : MemoryStore := session.service.store

def start (config : Config) (archive : Option α) (intake : Intake) : Session α :=
  ⟨.fresh config archive intake, []⟩

/-- The session after a call. An origin is forgotten when its key is gone. -/
def perform (session : Session α) (call : Call) : Session α where
  service := (call.perform session.service).2
  origins := (session.origins ++ (call.perform session.service).1).filter fun origin =>
    ((call.perform session.service).2.store.get? origin.key).isSome

def run (session : Session α) (calls : List Call) : Session α :=
  calls.foldl perform session

/-- The catalogue is well-formed for the configuration, and a key is there as long as it has an
origin. -/
structure Sound (config : Config) (session : Session α) : Prop where
  config_eq : session.service.config = config
  catalogued : session.store.Catalogued config.vector
  isSome_get?_iff : ∀ key,
    (session.store.get? key).isSome ↔ ∃ origin ∈ session.origins, origin.key = key

theorem sound_start (config : Config) (archive : Option α) (intake : Intake) :
    (start config archive intake).Sound config where
  config_eq := rfl
  catalogued := MemoryStore.Catalogued.empty
  isSome_get?_iff _ := iff_of_false nofun nofun

theorem Sound.perform {config : Config} {session : Session α} (h : session.Sound config)
    (call : Call) : (session.perform call).Sound config := by
  obtain ⟨hchange, hconfig⟩ := call.change_perform session.service
  rw [h.config_eq] at hchange
  refine ⟨hconfig.trans h.config_eq, hchange.catalogued h.catalogued, fun key => ⟨?_, ?_⟩⟩
  · intro hkey
    rcases hchange.isSome_get? hkey with hbefore | ⟨origin, hmem, rfl⟩
    · obtain ⟨origin, hmem, rfl⟩ := (h.isSome_get?_iff key).mp hbefore
      exact ⟨origin, List.mem_filter.mpr ⟨List.mem_append_left _ hmem, hkey⟩, rfl⟩
    · exact ⟨origin, List.mem_filter.mpr ⟨List.mem_append_right _ hmem, hkey⟩, rfl⟩
  · rintro ⟨origin, hmem, rfl⟩
    exact (List.mem_filter.mp hmem).2

/-- What a call reports as written is kept in the account. -/
theorem origins_perform (session : Session α) (call : Call) :
    (session.perform call).origins =
      session.origins.filter (fun origin =>
          ((session.perform call).store.get? origin.key).isSome) ++
        (call.perform session.service).1 := by
  have hchange := (call.change_perform session.service).1
  have hwritten : (call.perform session.service).1.filter (fun origin =>
      ((call.perform session.service).2.store.get? origin.key).isSome) =
        (call.perform session.service).1 :=
    List.filter_eq_self.mpr fun origin horigin => hchange.isSome_get?_of_mem horigin
  rw [perform, List.filter_append, hwritten]
  rfl

/-- **Every session is sound**, whatever its calls. -/
theorem sound_run (config : Config) (archive : Option α) (intake : Intake)
    (calls : List Call) :
    ((start config archive intake).run calls).Sound config := by
  suffices h : ∀ session : Session α, session.Sound config → (session.run calls).Sound config
    from h _ (sound_start config archive intake)
  induction calls with
  | nil => exact fun _ h => h
  | cons call calls ih => exact fun session h => ih _ (h.perform call)

/-- **No record of a session has two values under one name.** -/
theorem hasDistinctFields_run (config : Config) (archive : Option α) (intake : Intake)
    (calls : List Call) : ((start config archive intake).run calls).store.HasDistinctFields := by
  suffices h : ∀ session : Session α, session.store.HasDistinctFields →
      (session.run calls).store.HasDistinctFields from h _ MemoryStore.HasDistinctFields.empty
  induction calls with
  | nil => exact fun _ h => h
  | cons call calls ih =>
    exact fun session h => ih _ ((call.change_perform session.service).1.hasDistinctFields h)

/-- **The catalogue is well-formed in every session.** Whatever fields were declared and added,
every definition stands under its own name, with the keys of that name, attributes of different
names, one of them for the id, and every vector named after an attribute that is there. A definition
that is there is never replaced, and a call that fails changes nothing. -/
theorem catalogue_invariant (config : Config) (archive : Option α) (intake : Intake)
    (calls : List Call) :
    let service := ((start config archive intake).run calls).service
    (∀ name definition, service.store.indexes.get? name = some definition →
      definition.name = name ∧ definition.keySpace = Key.space name ∧
        (definition.attributes.map Attribute.name).Nodup ∧
        (definition.attributes.map Attribute.name).count Key.idAttribute = 1 ∧
        ∀ a ∈ definition.attributes, ∀ space, a.kind = .vector space →
          a.sortable = false ∧ space = config.vector ∧
            ∃ b ∈ definition.attributes, a.name = Key.vectorAttribute b.name) ∧
    (∀ name fields, (service.store.indexes.get? name).isSome →
      (Service.createIndex name fields).runFrom service = (.ok .alreadyExists, service)) ∧
    (∀ name fields cause after,
      (Service.alterIndex name fields).runFrom service = (.error cause, after) →
        after = service) ∧
    ∀ cancelled name deleteRecords cause after,
      (Service.dropIndex cancelled name deleteRecords).runFrom service = (.error cause, after) →
        after = service := by
  have hsound := sound_run config archive intake calls
  refine ⟨fun name definition hget => ?_,
    fun name fields h => Service.runFrom_createIndex_of_isSome _ h fields,
    fun name fields cause after h => Service.eq_of_runFrom_alterIndex_eq_error _ h,
    fun cancelled name deleteRecords cause after h =>
      Service.eq_of_runFrom_dropIndex_eq_error _ h⟩
  have hwell := hsound.catalogued name definition hget
  refine ⟨hwell.name_eq, hwell.keySpace_eq, hwell.coherent.nodup, hwell.count_id, ?_⟩
  intro a ha space hkind
  obtain ⟨hspace, hsortable, hsource⟩ := hwell.coherent.isShadow a ha space hkind
  exact ⟨hsortable, hspace, hsource⟩

end Session

end HybridSearch
