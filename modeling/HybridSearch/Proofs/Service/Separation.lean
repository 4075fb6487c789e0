import HybridSearch.Files.Archive
import HybridSearch.Proofs.Ingest.Making
import HybridSearch.Proofs.Schema.Key
import HybridSearch.Proofs.Service.Run
import HybridSearch.Proofs.Store.Overwriting

/-!
# Records and parents apart

A parent stands among the records of its index, under an id that a record may have as well. What is
done to the records of the index leaves the parent as it is unless it is done under that id, and
putting the parent leaves all records as they are but the one with that id.

## Main definitions

* `MemoryStore.Wrote` — records were written under some ids of an index, and nothing else.
* `Attempt.WritesRecords` — a step after which this is so, for the ids that its answer tells.
* `RecordCall`, `RecordCall.perform` — what a caller may do to the records of an index.

## Main results

* `MemoryStore.Wrote.trans` — records that are written one after the other.
* `Ingest.Ends.wrote` — rows that come to their ends.
* `Service.writesRecords_ingestDocuments`, `Service.writesRecords_ingestFile`,
  `Service.writesRecords_upload` — all ways to ingest.
* `Service.records_apart_from_parents` — what is left of a parent and of a record.
* `Service.not_records_apart_from_parents` — a parent that is removed as a record.
-/

namespace HybridSearch

open IngestReport (Outcome)

/-! ### Records under ids -/

/-- Records were written under some ids of an index, each with its id in it, and nothing else was
touched. -/
structure MemoryStore.Wrote (index : String) (ids : List String) (before after : MemoryStore) :
    Prop where
  get?_eq : ∀ key, (∀ id ∈ ids, key ≠ Key.record index id) → after.get? key = before.get? key
  get?_idAttribute : ∀ id ∈ ids,
    (after.hash (Key.record index id)).get? Key.idAttribute = some (Text.encode id)

namespace MemoryStore.Wrote

variable {index : String} {ids ids' : List String} {before between after : MemoryStore}

theorem refl (index : String) (store : MemoryStore) : Wrote index [] store store :=
  ⟨fun _ _ => rfl, nofun⟩

/-- What is written later leaves the ids in the records that it does not write. -/
theorem trans (h : Wrote index ids before between) (h' : Wrote index ids' between after) :
    Wrote index (ids ++ ids') before after := by
  refine ⟨fun key hkey => ?_, fun id hid => ?_⟩
  · obtain ⟨hfirst, hlast⟩ := List.forall_mem_append.mp hkey
    exact (h'.get?_eq key hlast).trans (h.get?_eq key hfirst)
  · by_cases hlast : id ∈ ids'
    · exact h'.get?_idAttribute id hlast
    · have hfirst : id ∈ ids := (List.mem_append.mp hid).resolve_right hlast
      have hkept : after.get? (Key.record index id) = between.get? (Key.record index id) := by
        refine h'.get?_eq _ fun other hother hkey => hlast ?_
        rwa [Key.record_inj.mp hkey]
      rw [hash_eq, hkept, ← hash_eq]
      exact h.get?_idAttribute id hfirst

theorem of_mem_iff (h : Wrote index ids before after) (hids : ∀ id, id ∈ ids ↔ id ∈ ids') :
    Wrote index ids' before after :=
  ⟨fun key hkey => h.get?_eq key fun id hid => hkey id ((hids id).mp hid),
    fun id hid => h.get?_idAttribute id ((hids id).mpr hid)⟩

/-- A record is written with its id, after all its values, under the key of that id. -/
theorem ofValues (store : MemoryStore) (index id : String) (values : List (String × FieldValue)) :
    Wrote index [id] store
      (store.hashSet (Key.record index id) (Record.ofValues index id values).fields) := by
  refine ⟨fun key hkey => ?_, fun other hother => ?_⟩
  · rw [get?_hashSet, if_neg (hkey id (List.mem_singleton_self id))]
  · obtain rfl := List.mem_singleton.mp hother
    rw [hash_hashSet, if_pos rfl, StoredHash.get?_merge, Record.ofValues, List.reverse_append,
      List.reverse_singleton, List.singleton_append, List.lookup_cons_self]
    rfl

end MemoryStore.Wrote

/-! ### Steps that write records -/

/-- After the step the records whose ids its answer tells are written, and nothing else in the store
is touched. A step that fails tells none. -/
def Attempt.WritesRecords {τ ε β : Type} (part : τ → MemoryStore) (index : String)
    (ids : β → List String) (step : Attempt ε τ β) : Prop :=
  ∀ s, MemoryStore.Wrote index ((step.runFrom s).1.toOption.elim [] ids) (part s)
    (part (step.runFrom s).2)

namespace Attempt.WritesRecords

variable {τ ε β γ : Type} {part : τ → MemoryStore} {index : String} {ids : β → List String}

theorem throw (cause : ε) : WritesRecords part index ids (throw cause : Attempt ε τ β) :=
  fun s => .refl index (part s)

theorem bind {first : Attempt ε τ γ} {next : γ → Attempt ε τ β} (hfirst : first.Keeps part)
    (hnext : ∀ a, (next a).WritesRecords part index ids) :
    (first >>= next).WritesRecords part index ids := by
  intro s
  have hkept := hfirst s
  rw [runFrom_bind]
  rcases hrun : first.runFrom s with ⟨cause | a, t⟩
  · rw [hrun] at hkept
    rw [← hkept]
    exact .refl index (part t)
  · rw [hrun] at hkept
    rw [← hkept]
    exact hnext a t

/-- What is read off the answer may be put into another one. -/
theorem bind_pure {step : Attempt ε τ γ} {f : γ → β} (h : step.WritesRecords part index (ids ∘ f)) :
    (step >>= fun a => pure (f a)).WritesRecords part index ids := by
  intro s
  have hstep := h s
  rw [runFrom_bind]
  rcases hrun : step.runFrom s with ⟨cause | a, t⟩
  · rw [hrun] at hstep
    exact hstep
  · rw [hrun] at hstep
    exact hstep

end Attempt.WritesRecords

/-! ### Ingestion -/

namespace Ingest

variable (options : CoercionOptions) (index : String) (fields : FieldSet) (limit : Nat)

theorem writesRecords_row (content : Except IngestError Json) :
    Attempt.WritesRecords Workspace.store index (fun record => [record.id])
      (row options index fields content) := by
  intro workspace
  have hstore := (runFrom_row options index fields content workspace 0).1
  rcases hrow : (row options index fields content).runFrom workspace with ⟨cause | record, after⟩
  · rw [hrow] at hstore
    rw [hstore]
    exact .refl index workspace.store
  · obtain ⟨source, _, _, hsource⟩ := exists_ofSource_of_row options index fields hrow
    obtain ⟨id, values, rfl⟩ := exists_eq_ofValues options index fields hsource
    rw [hrow] at hstore
    rw [hstore]
    exact .ofValues workspace.store index id values

variable {options index fields}

/-- Rows that come to their ends write the records whose ids they report. -/
theorem Ends.wrote {workspace after : Workspace MemoryStore} {outcomes : List Outcome}
    (h : Ends options index fields workspace outcomes after) :
    MemoryStore.Wrote index (IngestReport.ofOutcomes outcomes).written workspace.store
      after.store := by
  have hids : MemoryStore.Wrote index (outcomes.filterMap IngestReport.writtenId?)
      workspace.store after.store := by
    induction h with
    | nil workspace => exact .refl index workspace.store
    | @cons workspace between after outcomes result number content hrow hrest ih =>
      have hfirst := writesRecords_row options index fields content workspace
      rw [hrow] at hfirst
      cases result with
      | error cause => exact hfirst.trans ih
      | ok record => exact hfirst.trans ih
  refine hids.of_mem_iff fun id => ?_
  simp only [IngestReport.ofOutcomes, IngestReport.byRow, List.mem_filterMap, mem_ranked]

variable (options index fields)

theorem writesRecords_rows (batch : List NumberedRow) :
    Attempt.WritesRecords Workspace.store index IngestReport.written
      (ExceptT.lift (rows options index fields limit batch) :
        Attempt IngestError (Workspace MemoryStore) IngestReport) := by
  intro workspace
  obtain ⟨outcomes, after, hrun, hends⟩ :=
    exists_ends_rows options index fields limit batch workspace
  rw [Attempt.runFrom_lift, hrun]
  exact hends.wrote

theorem writesRecords_documents (content : Json) :
    Attempt.WritesRecords Workspace.store index IngestReport.written
      (documents options index fields limit content) :=
  .bind (fun _ => rfl) fun rows => writesRecords_rows options index fields limit (numbered rows)

/-- The failed rows of a batch are put elsewhere, and the written ones stay. -/
theorem writesRecords_table (entries : List NumberedRow) :
    Attempt.WritesRecords Workspace.store index IngestReport.written
      (ExceptT.lift (table options index fields limit entries) :
        Attempt IngestError (Workspace MemoryStore) IngestReport) :=
  fun workspace => writesRecords_rows options index fields limit
    (numbered ((readable entries).map Prod.snd)) workspace

theorem writesRecords_csv (bytes : Bytes) :
    Attempt.WritesRecords Workspace.store index IngestReport.written
      (csv options index fields limit bytes) :=
  .bind (fun _ => rfl) fun entries => writesRecords_table options index fields limit entries

end Ingest

namespace Service

variable {α : Type} {index : String}

theorem writesRecords_onWorkspace {ε β : Type} {ids : β → List String}
    {step : Attempt ε (Workspace MemoryStore) β}
    (h : step.WritesRecords Workspace.store index ids) :
    Attempt.WritesRecords (@store α) index ids (onWorkspace step) :=
  fun service => h service.workspace

theorem writesRecords_ingestDocuments (documents : Json) :
    Attempt.WritesRecords (@store α) index IngestReport.written
      (ingestDocuments index documents) :=
  .bind (fun _ => rfl) fun _ => .bind (fun _ => rfl) fun _ =>
    writesRecords_onWorkspace (Ingest.writesRecords_documents _ _ _ _ _)

theorem writesRecords_ingestByExtension (options : CoercionOptions) (fields : FieldSet)
    (limit : Nat) (path : String) (content : Option Bytes) :
    Attempt.WritesRecords Workspace.store index IngestReport.written
      (ingestByExtension options index fields limit path content) := by
  rw [ingestByExtension]
  split
  · rename_i format _
    cases format with
    | csv => exact .bind (fun _ => rfl) fun bytes => Ingest.writesRecords_csv _ _ _ _ bytes
    | json =>
      exact .bind (fun _ => rfl) fun documents => Ingest.writesRecords_documents _ _ _ _ documents
  · exact .throw _

theorem writesRecords_ingestFile (path : String) (content : Option Bytes) :
    Attempt.WritesRecords (@store α) index IngestReport.written
      (ingestFile index path content) :=
  .bind (fun _ => rfl) fun _ => .bind (fun _ => rfl) fun _ =>
    writesRecords_onWorkspace (writesRecords_ingestByExtension _ _ _ path content)

section Upload

variable [BlobStore α] (name : String) (content : Option Bytes)

theorem keeps_archiveUpload (contentType : String) :
    Attempt.Keeps (@store α) (archiveUpload index name content contentType) := by
  intro service
  rw [archiveUpload, Attempt.runFrom_mk]
  split <;> rfl

theorem writesRecords_upload (contentType : Option String) :
    Attempt.WritesRecords (@store α) index (fun outcome => outcome.report.written)
      (upload index name content contentType) := by
  refine .bind (keeps_archiveUpload name content _) fun etag => .bind (fun _ => rfl) fun fields =>
    .bind (fun _ => rfl) fun bytes => .bind (fun _ => rfl) fun service => .bind_pure ?_
  exact writesRecords_onWorkspace (Ingest.writesRecords_csv _ _ _ _ bytes)

end Upload

end Service

/-! ### Parents -/

/-- Writing a parent over a hash changes it, unless all of the parent is in it. -/
theorem ParentDocument.merge_fields_eq_self_iff {parent : ParentDocument} {hash : StoredHash} :
    hash.merge parent.fields = hash ↔
      hash.get? "uid" = some (Text.encode parent.uid) ∧
        hash.get? itemsField = some (Text.encode (Text.joined "," parent.items)) := by
  constructor
  · intro hsame
    rw [← hsame, StoredHash.get?_merge, StoredHash.get?_merge]
    exact ⟨rfl, rfl⟩
  · rintro ⟨huid, hitems⟩
    rw [fields, StoredHash.merge_cons, FieldValue.toBytes, StoredHash.set_eq_self huid,
      StoredHash.merge_cons, FieldValue.toBytes, StoredHash.set_eq_self hitems]
    rfl

/-! ### What a caller may do to records -/

/-- What a caller may do to the records of an index. -/
inductive RecordCall where
  | documents (content : Json)
  | file (path : String) (content : Option Bytes)
  | upload (name : String) (content : Option Bytes) (contentType : Option String)
  | removal (uids : List String)

namespace RecordCall

variable {α : Type}

/-- What an ingestion reports as written, and the service after it. -/
def ingested {β : Type} (ids : β → List String)
    (run : Except IngestError β × Service MemoryStore α) : List String × Service MemoryStore α :=
  (run.1.toOption.elim [] ids, run.2)

variable [BlobStore α] {call : RecordCall} {index : String} {service : Service MemoryStore α}

/-- The ids under which records are written or removed, and the service afterwards. -/
def perform (call : RecordCall) (index : String) (service : Service MemoryStore α) :
    List String × Service MemoryStore α :=
  match call with
  | documents content =>
    ingested IngestReport.written ((Service.ingestDocuments index content).runFrom service)
  | file path content =>
    ingested IngestReport.written ((Service.ingestFile index path content).runFrom service)
  | upload name content contentType =>
    ingested (fun outcome => outcome.report.written)
      ((Service.upload index name content contentType).runFrom service)
  | removal uids => (uids, ((Service.deleteDocuments index uids).run service).2)

/-- A call writes records under its ids, or removes what stands there. -/
theorem perform_cases (call : RecordCall) (index : String) (service : Service MemoryStore α) :
    MemoryStore.Wrote index (call.perform index service).1 service.store
        (call.perform index service).2.store ∨
      (call.perform index service).2.store =
        service.store.eraseAll ((call.perform index service).1.map (Key.record index)) := by
  cases call with
  | documents content =>
    exact Or.inl (Service.writesRecords_ingestDocuments content service)
  | file path content => exact Or.inl (Service.writesRecords_ingestFile path content service)
  | upload name content contentType =>
    exact Or.inl (Service.writesRecords_upload name content contentType service)
  | removal uids =>
    rw [perform, Service.run_deleteDocuments]
    exact Or.inr rfl

theorem get?_perform_of_ne {key : String}
    (h : ∀ id ∈ (call.perform index service).1, key ≠ Key.record index id) :
    (call.perform index service).2.store.get? key = service.store.get? key := by
  rcases call.perform_cases index service with hwrote | herased
  · exact hwrote.get?_eq key h
  · rw [herased, MemoryStore.get?_eraseAll, if_neg]
    intro hkey
    obtain ⟨id, hid, rfl⟩ := List.mem_map.mp hkey
    exact h id hid rfl

/-- Under the ids of a call there is a record with the id in it, or nothing. -/
theorem get?_idAttribute_of_perform {id : String} {hash : StoredHash}
    (hid : id ∈ (call.perform index service).1)
    (hhash : (call.perform index service).2.store.get? (Key.record index id) = some hash) :
    hash.get? Key.idAttribute = some (Text.encode id) := by
  rcases call.perform_cases index service with hwrote | herased
  · have hwritten := hwrote.get?_idAttribute id hid
    rwa [MemoryStore.hash_eq, hhash] at hwritten
  · rw [herased, MemoryStore.get?_eraseAll, if_pos (List.mem_map_of_mem hid)] at hhash
    cases hhash

end RecordCall

namespace Service

variable {α : Type} [BlobStore α]

/-- **Records and parents apart.** Whatever is done to the records of an index leaves a parent of it
as it is, unless it is done under the id that the parent has among the records; under that id it
changes or removes every parent that no record was written over before. Putting a parent leaves each
record of the index as it is, unless the record has that id and not all of the parent in it. -/
theorem records_apart_from_parents (service : Service MemoryStore α) (index uid : String) :
    (∀ call : RecordCall,
      let ids := (call.perform index service).1
      let after := (call.perform index service).2
      ("parent:" ++ uid ∉ ids →
        after.store.get? (Key.parent index uid) = service.store.get? (Key.parent index uid)) ∧
      ∀ hash, service.store.get? (Key.parent index uid) = some hash →
        hash.get? Key.idAttribute = none → "parent:" ++ uid ∈ ids →
          after.store.get? (Key.parent index uid) ≠ some hash) ∧
    ∀ (items : List String) (id : String) (hash : StoredHash),
      service.store.get? (Key.record index id) = some hash →
      (((putParent index ⟨uid, items⟩).runFrom service).2.store.get? (Key.record index id) =
          some hash ↔
        (id = "parent:" ++ uid → hash.get? "uid" = some (Text.encode uid) ∧
          hash.get? ParentDocument.itemsField =
            some (Text.encode (Text.joined "," items)))) := by
  refine ⟨fun call => ⟨fun huid => ?_, fun hash _ hnone huid hsame => ?_⟩,
    fun items id hash hhash => ?_⟩
  · refine RecordCall.get?_perform_of_ne fun id hid hkey => huid ?_
    rw [Key.parent_eq_record, Key.record_inj] at hkey
    rwa [hkey]
  · rw [Key.parent_eq_record] at hsame
    rw [RecordCall.get?_idAttribute_of_perform huid hsame] at hnone
    cases hnone
  · have hput : ((putParent index ⟨uid, items⟩).runFrom service).2.store =
        service.store.hashSet (Key.parent index uid) (ParentDocument.fields ⟨uid, items⟩) := rfl
    rw [hput, MemoryStore.get?_hashSet, Key.parent_eq_record]
    by_cases hid : id = "parent:" ++ uid
    · subst hid
      rw [if_pos rfl, MemoryStore.hash_eq, hhash, Option.getD_some, Option.some.injEq,
        ParentDocument.merge_fields_eq_self_iff]
      exact (imp_iff_right rfl).symm
    · rw [if_neg (mt Key.record_inj.mp hid)]
      exact iff_of_true hhash fun h => absurd h hid

/-- A parent and two records, one of them under the id of another parent. -/
private def filed : Service MemoryStore Archive :=
  ⟨.standard, none, ⟨((MemoryStore.empty.hashSet (Key.parent "i" "p")
    (ParentDocument.fields ⟨"p", ["1"]⟩)).hashSet (Key.record "i" "1")
      [(Key.idAttribute, .text "1")]).hashSet (Key.record "i" "parent:q")
        [(Key.idAttribute, .text "parent:q")], .sample⟩⟩

/-- The hash of the parent. -/
private def filedParent : StoredHash :=
  StoredHash.merge [] (ParentDocument.fields ⟨"p", ["1"]⟩)

/-- Under the id of another record a parent is kept, under its own it is not, and other records are
kept when it is put. -/
theorem records_apart_from_parents_of_filed :
    ((RecordCall.removal ["1"]).perform "i" filed).2.store.get? (Key.parent "i" "p") =
        some filedParent ∧
      ((RecordCall.removal ["parent:p"]).perform "i" filed).2.store.get? (Key.parent "i" "p") ≠
        some filedParent ∧
      ((putParent "i" ⟨"p", ["2"]⟩).runFrom filed).2.store.get? (Key.record "i" "1") =
        some [(Key.idAttribute, Text.encode "1")] := by
  obtain ⟨hcalls, hput⟩ := records_apart_from_parents filed "i" "p"
  refine ⟨(hcalls (.removal ["1"])).1 ?_, (hcalls (.removal ["parent:p"])).2 _ rfl rfl ?_,
    (hput ["2"] "1" _ rfl).mpr fun h => ?_⟩
  · decide
  · decide
  · exact absurd h (by decide)

/-- A parent that is removed as a record, and a record that a parent is put over. -/
theorem not_records_apart_from_parents :
    (¬∀ (service : Service MemoryStore Archive) (index uid : String) (call : RecordCall)
        (hash : StoredHash), service.store.get? (Key.parent index uid) = some hash →
          (call.perform index service).2.store.get? (Key.parent index uid) = some hash) ∧
      ¬∀ (service : Service MemoryStore Archive) (index : String) (parent : ParentDocument)
        (id : String) (hash : StoredHash),
        service.store.get? (Key.record index id) = some hash →
          ((putParent index parent).runFrom service).2.store.get? (Key.record index id) =
            some hash := by
  constructor
  · intro hall
    cases hall filed "i" "p" (.removal ["parent:p"]) _ rfl
  · intro hall
    cases hall filed "i" ⟨"q", []⟩ "parent:q" _ rfl

end Service

end HybridSearch
