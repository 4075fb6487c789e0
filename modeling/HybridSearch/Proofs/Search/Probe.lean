import HybridSearch.Proofs.Search.Membership
import HybridSearch.Proofs.Service.Session

/-!
# Looking for one tag

An index of a single tag, a document that carries the tag, and the search for it. Whatever stands
under a key of the index with that tag is found.

## Main definitions

* `Probe.fields`, `Probe.document`, `Probe.request` — the index, the document and the search.
* `Probe.blank` — a session to look in.

## Main results

* `Probe.runFrom_ingestDocuments` — the document is written under its id.
* `Probe.runFrom_search` — the search finds the only record there is.
-/

namespace HybridSearch.Probe

/-- The tag is kept where a parent keeps the ids of its records, so parents may carry it as well. -/
def fields : List Field := [⟨ParentDocument.itemsField, .tag, false⟩]

def document (id : String) : Json.Members :=
  [("id", .str id), (ParentDocument.itemsField, .str "x")]

def request (index : String) : SearchRequest :=
  { SearchRequest.ofIndex index with filters := [(ParentDocument.itemsField, .str "x")] }

/-- The fields of the index, the id among them. -/
def fieldSet : FieldSet :=
  [⟨ParentDocument.itemsField, .tag, false⟩, ⟨Key.idAttribute, .tag, false⟩]

theorem fieldSet_compile (index : String) (space : VectorSpace) :
    (IndexDefinition.compile index space fields).fieldSet = fieldSet :=
  rfl

/-- What new records are made from while the model does not load. -/
def unloaded : Intake :=
  ⟨.ofLoader (fun _ => .error (.embeddingUnavailable "no model")) 2, ⟨toString, 0⟩⟩

/-- A session at its start, with the model not loading and without an archive. -/
abbrev blank : Session Unit := .start .standard none unloaded

variable {α : Type} {index id : String}

/-! ### Writing the document -/

theorem find?_document (id : String) :
    Source.find? (document id) ParentDocument.itemsField = some (.str "x") := by
  have hid : (Key.ofSource "id" == ParentDocument.itemsField) = false := by decide
  have htag : (Key.ofSource ParentDocument.itemsField == ParentDocument.itemsField) = true := by
    decide
  simp only [Source.find?, document, List.find?, hid, htag, Option.map]

theorem explicitId?_document (htrim : Text.trim id = id) (hid : id ≠ "") :
    Source.explicitId? (document id) = some id := by
  simp [Source.explicitId?, document, Source.isIdKey, Json.text, htrim, hid]

theorem runFrom_values (options : CoercionOptions) (id : String) (gateway : Gateway) :
    (Source.values options (document id) fieldSet).runFrom gateway =
      (.ok [(ParentDocument.itemsField, .text "x")], gateway) := by
  rw [fieldSet, Source.values, if_neg (by decide)]
  simp only [Source.wanted, find?_document]
  rfl

theorem not_waits (options : CoercionOptions) (id : String) (number : Nat) :
    Ingest.waits options fieldSet (number, .ok (.obj (document id))) = false := by
  rw [Ingest.waits, fieldSet, Source.needsModel, if_neg (by decide)]
  simp only [Source.wanted, find?_document]
  rfl

/-- The record of the document. -/
def record (index id : String) : Record :=
  .ofValues index id [(ParentDocument.itemsField, .text "x")]

theorem runFrom_row (options : CoercionOptions) (htrim : Text.trim id = id) (hid : id ≠ "")
    (workspace : Workspace MemoryStore) :
    (Ingest.row options index fieldSet (.ok (.obj (document id)))).runFrom workspace =
      (.ok (record index id), { workspace with
        store := workspace.store.hashSet (Key.record index id) (record index id).fields }) := by
  have hvalues := Attempt.runFrom_within Intake.gateway
    (fun intake gateway => { intake with gateway := gateway })
    (Source.values options (document id) fieldSet) workspace.intake
  rw [runFrom_values] at hvalues
  have hsource : (Record.ofSource options index fieldSet (document id)).runFrom workspace.intake =
      (.ok (record index id), workspace.intake) := by
    rw [Record.ofSource, explicitId?_document htrim hid]
    exact Attempt.runFrom_bind_of_ok hvalues
  have hintake := Attempt.runFrom_within Workspace.intake
    (fun (workspace : Workspace MemoryStore) intake => { workspace with intake := intake })
    (Record.ofSource options index fieldSet (document id)) workspace
  rw [hsource] at hintake
  rw [Ingest.row, Ingest.record]
  exact Attempt.runFrom_bind_of_ok hintake

theorem runFrom_documents (options : CoercionOptions) (limit : Nat) (htrim : Text.trim id = id)
    (hid : id ≠ "") (workspace : Workspace MemoryStore) :
    (Ingest.documents options index fieldSet limit (.obj (document id))).runFrom workspace =
      (.ok ⟨[id], []⟩, { workspace with
        store := workspace.store.hashSet (Key.record index id) (record index id).fields }) := by
  have hwaits : ∀ row ∈ Ingest.numbered [.obj (document id)],
      Ingest.waits options fieldSet row = false := by
    intro row hrow
    obtain rfl := List.mem_singleton.mp hrow
    exact not_waits options id 1
  have hscheduled :=
    Ingest.run_scheduled_of_not_waits options index fieldSet (limit - 1) hwaits workspace
  have hordered : (Ingest.inOrder options index fieldSet
      (Ingest.numbered [.obj (document id)])).run workspace = ([(1, .ok (record index id))],
        { workspace with
          store := workspace.store.hashSet (Key.record index id) (record index id).fields }) :=
    Attempt.run_bind_of_eq (runFrom_row options htrim hid workspace)
  have hrows := Attempt.runFrom_lift (ε := IngestError)
    (Ingest.rows options index fieldSet limit (Ingest.numbered [.obj (document id)])) workspace
  rw [Ingest.rows, Attempt.run_bind_of_eq (hscheduled.trans hordered)] at hrows
  exact hrows

/-- The document is written under its id. -/
theorem runFrom_ingestDocuments {service : Service MemoryStore α} {space : VectorSpace}
    (hindex : service.store.indexes.get? index = some (.compile index space fields))
    (htrim : Text.trim id = id) (hid : id ≠ "") :
    (Service.ingestDocuments index (.obj (document id))).runFrom service =
      (.ok ⟨[id], []⟩, service.withStore
        (service.store.hashSet (Key.record index id) (record index id).fields)) := by
  rw [Service.runFrom_ingestDocuments, MemoryStore.definition_eq_ok_iff.mpr hindex]
  dsimp only
  rw [fieldSet_compile, Service.onWorkspace, Attempt.runFrom_within,
    runFrom_documents service.config.coercion service.config.ingestConcurrency htrim hid]
  rfl

/-! ### Finding what carries the tag -/

def query : Query :=
  .ofPredicates [.tags ParentDocument.itemsField ["x"]] .and SearchRequest.standardLimit

theorem runFrom_compiled (index : String) (gateway : Gateway) :
    (Service.compiled (request index) fieldSet).runFrom gateway = (.ok (some query), gateway) :=
  rfl

variable {space : VectorSpace} {hash : StoredHash}

theorem match?_of_lookup (definition : IndexDefinition) (key : String)
    (htag : hash.lookup ParentDocument.itemsField = some (Text.encode "x")) :
    MemoryStore.match? definition query key hash = some ⟨key, hash, none⟩ := by
  have haccepts : (Predicate.tags ParentDocument.itemsField ["x"]).accepts
      (Text.decodeLossy (Text.encode "x")) = true := by decide +kernel
  have hholds : (Predicate.tags ParentDocument.itemsField ["x"]).holds hash = true := by
    rw [Predicate.holds, StoredHash.text?, Predicate.field, htag]
    exact haccepts
  simp [MemoryStore.match?, query, Query.ofPredicates, MemoryStore.satisfies, hholds,
    Combinator.combine]

theorem search_eq_ok {store : MemoryStore}
    (hindex : store.indexes.get? index = some (.compile index space fields))
    (hrecords : store.records.entries = [(Key.record index id, hash)])
    (htag : hash.lookup ParentDocument.itemsField = some (Text.encode "x")) :
    store.search index query = .ok [⟨Key.record index id, hash⟩] := by
  have hmembers : store.members (.compile index space fields) = [(Key.record index id, hash)] := by
    have hstart : (Text.startsWith? (Key.space index) (Key.record index id)).isSome = true :=
      Key.isSome_startsWith?_space.mpr ⟨id, rfl⟩
    rw [MemoryStore.members, hrecords, List.filter_singleton]
    simp only [IndexDefinition.compile, hstart, cond_true]
  rw [MemoryStore.search, MemoryStore.definition_eq_ok_iff.mpr hindex]
  simp only [bind, Except.bind, hmembers, List.filterMap_cons, match?_of_lookup _ _ htag,
    List.filterMap_nil]
  rfl

/-- **The search finds the only record there is**, whoever wrote it. -/
theorem runFrom_search {service : Service MemoryStore α}
    (hindex : service.store.indexes.get? index = some (.compile index space fields))
    (hrecords : service.store.records.entries = [(Key.record index id, hash)])
    (htag : hash.lookup ParentDocument.itemsField = some (Text.encode "x")) :
    ∃ hit, (Service.search (request index)).runFrom service = (.ok ⟨[hit], []⟩, service) ∧
      hit.id = id := by
  have hsearch : service.store.search (request index).index query = _ :=
    search_eq_ok hindex hrecords htag
  have hdefinition : service.store.definition (request index).index = _ :=
    MemoryStore.definition_eq_ok_iff.mpr hindex
  refine ⟨.ofDocument (Key.space index) fieldSet ⟨Key.record index id, hash⟩, ?_, ?_⟩
  · have hanswer : Service.answer service.store (request index) fieldSet (some query) =
        .ok ⟨[.ofDocument (Key.space index) fieldSet ⟨Key.record index id, hash⟩], []⟩ := by
      rw [Service.answer, Query.runFrom_execute, MemoryStore.runFrom_search, hsearch]
      rfl
    rw [Service.runFrom_search, hdefinition]
    dsimp only
    rw [fieldSet_compile, runFrom_compiled]
    dsimp only [Except.bind]
    rw [hanswer]
    rfl
  · have hstart : Text.startsWith? (Key.space index) (Key.record index id) = some id :=
      Key.startsWith?_space.mpr rfl
    rw [Hit.ofDocument, StoredDocument.id, hstart, Option.getD_some]

end HybridSearch.Probe
