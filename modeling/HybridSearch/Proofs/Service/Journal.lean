import HybridSearch.Proofs.Ingest.Values
import HybridSearch.Proofs.Service.Session

/-!
# What was written

The bytes of a store do not tell what they were written from. A journal keeps the values that a
session wrote, text, number or vector, as long as the keys they were written under are there.

## Main definitions

* `Write`, `Journal.value?` — a value written under a name of a key, and the last one of them.
* `Journal.Explains` — the stored bytes are those of the last values.
* `Service.outcomes`, `Call.writes` — what a call writes.
* `Session.journal` — what the calls of a session wrote.

## Main results

* `Call.explains_perform` — a call writes what its writes say.
* `Session.explains_journal` — the journal of a session explains its store.
-/

namespace HybridSearch

open IngestReport (Outcome)

/-! ### Journals -/

/-- A value written under a name of a key. -/
structure Write where
  key : String
  name : String
  value : FieldValue

abbrev Journal := List Write

namespace Journal

variable {journal : Journal} {store changed : MemoryStore}

/-- The last value under a name of a key. -/
def value? (journal : Journal) (key name : String) : Option FieldValue :=
  journal.foldl
    (fun found write => if write.key = key ∧ write.name = name then some write.value else found)
    none

def ofFields (key : String) (fields : List (String × FieldValue)) : Journal :=
  fields.map fun (name, value) => ⟨key, name, value⟩

/-- The fields of the record that a row ended with. -/
def ofOutcome : Outcome → Journal
  | (_, .ok record) => ofFields record.key record.fields
  | (_, .error _) => []

/-- The stored bytes are those of the last values. -/
def Explains (journal : Journal) (store : MemoryStore) : Prop :=
  ∀ key name, (store.hash key).get? name = (journal.value? key name).map FieldValue.toBytes

@[simp] theorem value?_nil (key name : String) : value? [] key name = none := rfl

theorem value?_append (first second : Journal) (key name : String) :
    value? (first ++ second) key name = (second.value? key name).or (first.value? key name) := by
  suffices h : ∀ found, second.foldl (fun found write =>
      if write.key = key ∧ write.name = name then some write.value else found) found =
        (second.value? key name).or found by
    rw [value?, List.foldl_append, ← value?, h]
  induction second with
  | nil => exact fun found => rfl
  | cons write second ih =>
    intro found
    rw [value?, List.foldl_cons, List.foldl_cons, ih]
    refine Eq.trans ?_ (congrArg (Option.or · found) (ih _).symm)
    split <;> cases value? second key name <;> rfl

theorem value?_cons (write : Write) (journal : Journal) (key name : String) :
    value? (write :: journal) key name = (journal.value? key name).or
      (if write.key = key ∧ write.name = name then some write.value else none) :=
  value?_append [write] journal key name

theorem mem_of_value?_eq_some {key name : String} {value : FieldValue}
    (h : journal.value? key name = some value) : ⟨key, name, value⟩ ∈ journal := by
  induction journal with
  | nil => cases h
  | cons write journal ih =>
    rw [value?_cons, Option.or_eq_some_iff] at h
    rcases h with h | ⟨-, h⟩
    · exact List.mem_cons_of_mem _ (ih h)
    · split at h
      · rename_i hwrite
        obtain ⟨rfl, rfl⟩ := hwrite
        obtain rfl := Option.some.inj h
        exact List.mem_cons_self
      · cases h

theorem value?_filter (keep : String → Bool) (journal : Journal) (key name : String) :
    value? (journal.filter fun write => keep write.key) key name =
      if keep key then journal.value? key name else none := by
  induction journal with
  | nil => simp
  | cons write journal ih =>
    rw [List.filter_cons, value?_cons]
    by_cases hwrite : write.key = key
    · rw [hwrite]
      cases hkeep : keep key with
      | false => simpa [hkeep] using ih
      | true => simp [value?_cons, ih, hkeep, hwrite]
    · have hne : ¬(write.key = key ∧ write.name = name) := fun h => hwrite h.1
      cases keep write.key with
      | false => simp [hne, ih]
      | true => simp [value?_cons, hne, ih]

theorem value?_ofFields_of_ne {written key : String} (h : written ≠ key)
    (fields : List (String × FieldValue)) (name : String) :
    (ofFields written fields).value? key name = none := by
  induction fields with
  | nil => rfl
  | cons field fields ih =>
    rw [ofFields, List.map_cons, ← ofFields, value?_cons, ih, if_neg fun hboth => h hboth.1]
    rfl

theorem value?_ofFields_self (key : String) (fields : List (String × FieldValue)) (name : String) :
    (ofFields key fields).value? key name = fields.reverse.lookup name := by
  induction fields with
  | nil => rfl
  | cons field fields ih =>
    rw [ofFields, List.map_cons, ← ofFields, value?_cons, ih, List.reverse_cons, List.lookup_append,
      lookup_cons_ite, List.lookup_nil]
    simp only [true_and, eq_comm]

namespace Explains

theorem empty : Explains [] .empty := fun _ _ => rfl

theorem hashSet (h : journal.Explains store) (key : String) (fields : List (String × FieldValue)) :
    (journal ++ ofFields key fields).Explains (store.hashSet key fields) := by
  intro other name
  rw [MemoryStore.hash_hashSet, value?_append]
  by_cases hother : other = key
  · rw [if_pos hother, StoredHash.get?_merge, h key name, hother, value?_ofFields_self]
    cases fields.reverse.lookup name <;> rfl
  · rw [if_neg hother, value?_ofFields_of_ne (Ne.symm hother), h other name]
    rfl

theorem accept (h : journal.Explains store) (outcome : Outcome) :
    (journal ++ ofOutcome outcome).Explains (store.accept outcome) := by
  obtain ⟨number, cause | record⟩ := outcome
  · rw [ofOutcome, List.append_nil]
    exact h
  · exact h.hashSet record.key record.fields

theorem foldl_accept (h : journal.Explains store) (outcomes : List Outcome) :
    (journal ++ outcomes.flatMap ofOutcome).Explains (outcomes.foldl MemoryStore.accept store) := by
  induction outcomes generalizing journal store with
  | nil =>
    rw [List.flatMap_nil, List.append_nil]
    exact h
  | cons outcome outcomes ih =>
    rw [List.flatMap_cons, ← List.append_assoc]
    exact ih (h.accept outcome)

/-- Keys that are gone are forgotten. -/
theorem filter (h : journal.Explains store)
    (hkeys : ∀ key, (changed.get? key).isSome → changed.get? key = store.get? key) :
    Explains (journal.filter fun write => (changed.get? write.key).isSome) changed := by
  intro key name
  rw [value?_filter fun key => (changed.get? key).isSome]
  rw [MemoryStore.hash, ← MemoryStore.get?]
  split
  · rename_i hkey
    rw [hkeys key hkey]
    exact h key name
  · rename_i hkey
    rw [Option.not_isSome_iff_eq_none.mp hkey]
    rfl

end Explains

end Journal

/-! ### What a call writes -/

namespace MemoryStore

variable (store : MemoryStore)

theorem get?_eraseAll_of_isSome {keys : List String} {key : String}
    (h : ((store.eraseAll keys).get? key).isSome) :
    (store.eraseAll keys).get? key = store.get? key := by
  rw [get?_eraseAll] at h ⊢
  split at h
  · cases h
  · rename_i hmem
    exact if_neg hmem

theorem foldl_accept_eq_self {outcomes : List Outcome}
    (h : ∀ outcome ∈ outcomes, ∀ record, outcome.2 ≠ .ok record) :
    outcomes.foldl accept store = store := by
  induction outcomes with
  | nil => rfl
  | cons outcome outcomes ih =>
    obtain ⟨hfirst, hrest⟩ := List.forall_mem_cons.mp h
    obtain ⟨number, cause | record⟩ := outcome
    · exact ih hrest
    · exact absurd rfl (hfirst record)

end MemoryStore

/-- A change that reports nothing as written leaves the hashes that are still there. -/
theorem Change.get?_eq {space : VectorSpace} {store changed : MemoryStore} {written : List Origin}
    (h : Change space store changed written) (hwritten : written = []) {key : String}
    (hkey : (changed.get? key).isSome) : changed.get? key = store.get? key := by
  cases h with
  | none => rfl
  | created h =>
    obtain ⟨-, rfl⟩ := MemoryStore.createIndex_eq_ok_iff.mp h
    rfl
  | altered h =>
    obtain ⟨_, -, -, rfl⟩ := MemoryStore.alterIndex_eq_ok_iff.mp h
    rfl
  | dropped h keys =>
    obtain ⟨-, rfl⟩ := MemoryStore.dropIndex_eq_ok_iff.mp h
    exact MemoryStore.get?_eraseAll_of_isSome _ hkey
  | erased keys => exact store.get?_eraseAll_of_isSome hkey
  | ingested =>
    rw [store.foldl_accept_eq_self]
    intro outcome hmem record hok
    have hid := IngestReport.mem_written_ofOutcomes.mpr ⟨outcome, hmem, record, hok, rfl⟩
    rw [List.map_eq_nil_iff.mp hwritten] at hid
    cases hid
  | put index parent => cases hwritten

namespace Ingest

theorem runFrom_documents (options : CoercionOptions) (index : String) (fields : FieldSet)
    (limit : Nat) (content : Json) (workspace : Workspace MemoryStore) :
    (documents options index fields limit content).runFrom workspace =
      match documents? content with
      | .error cause => (.error cause, workspace)
      | .ok batch =>
        let (outcomes, after) :=
          (scheduled options index fields (limit - 1) [] (numbered batch)).run workspace
        (.ok (.ofOutcomes outcomes), after) := by
  rw [documents]
  cases documents? content <;> rfl

end Ingest

namespace Service

variable {α : Type}

/-- How the rows of a batch end. -/
def outcomes (service : Service MemoryStore α) (index : String) (documents : Json) : List Outcome :=
  match service.store.definition index, Ingest.documents? documents with
  | .ok definition, .ok batch =>
    ((Ingest.scheduled service.config.coercion index definition.fieldSet
      (service.config.ingestConcurrency - 1) [] (Ingest.numbered batch)).run service.workspace).1
  | _, _ => []

variable (service : Service MemoryStore α) (index : String) (documents : Json)

theorem ends_outcomes {definition : IndexDefinition}
    (h : service.store.indexes.get? index = some definition) :
    ∃ after, Ingest.Ends service.config.coercion index definition.fieldSet service.workspace
      (service.outcomes index documents) after := by
  rw [outcomes, MemoryStore.definition_eq_ok_iff.mpr h]
  split
  · rename_i other batch hother hbatch
    obtain rfl := Except.ok.inj hother
    exact ⟨_, Ingest.ends_scheduled ..⟩
  · exact ⟨_, .nil _⟩

theorem outcomes_eq_nil (h : service.store.indexes.get? index = none) :
    service.outcomes index documents = [] := by
  rw [outcomes, MemoryStore.definition, h]

/-- A batch is reported and written as its rows end. -/
theorem perform_ingestDocuments_eq :
    ((Call.ingestDocuments index documents).perform service).1 =
        (IngestReport.ofOutcomes (service.outcomes index documents)).written.map
          (Origin.record index) ∧
      ((Call.ingestDocuments index documents).perform service).2.store =
        (service.outcomes index documents).foldl MemoryStore.accept service.store := by
  rw [Call.perform, runFrom_ingestDocuments, outcomes]
  cases hdefinition : service.store.definition index with
  | error cause => exact ⟨rfl, rfl⟩
  | ok definition =>
    dsimp only
    rw [onWorkspace, Attempt.runFrom_within, Ingest.runFrom_documents]
    cases hbatch : Ingest.documents? documents with
    | error cause => exact ⟨rfl, rfl⟩
    | ok batch =>
      exact ⟨rfl, (Ingest.ends_scheduled service.config.coercion index definition.fieldSet
        (service.config.ingestConcurrency - 1) [] (Ingest.numbered batch)
        service.workspace).store_eq⟩

end Service

namespace Call

variable {α : Type}

/-- What a call writes into the store. -/
def writes (call : Call) (service : Service MemoryStore α) : Journal :=
  match call with
  | ingestDocuments index documents => (service.outcomes index documents).flatMap Journal.ofOutcome
  | putParent index parent => .ofFields (Key.parent index parent.uid) parent.fields
  | _ => []

variable {journal : Journal} {service : Service MemoryStore α}

/-- **A call writes what its writes say**, and keys that are gone are forgotten. -/
theorem explains_perform (call : Call) (h : journal.Explains service.store) :
    Journal.Explains
      ((journal ++ call.writes service).filter fun write =>
        ((call.perform service).2.store.get? write.key).isSome)
      (call.perform service).2.store := by
  have hkept (hwritten : (call.perform service).1 = []) (hwrites : call.writes service = []) :
      Journal.Explains
        ((journal ++ call.writes service).filter fun write =>
          ((call.perform service).2.store.get? write.key).isSome)
        (call.perform service).2.store := by
    rw [hwrites, List.append_nil]
    exact h.filter fun key => (call.change_perform service).1.get?_eq hwritten
  cases call with
  | ingestDocuments index documents =>
    refine Journal.Explains.filter ?_ fun _ _ => rfl
    rw [(service.perform_ingestDocuments_eq index documents).2]
    exact h.foldl_accept _
  | putParent index parent => exact (h.hashSet _ _).filter fun _ _ => rfl
  | createIndex name fields => exact hkept rfl rfl
  | alterIndex name fields => exact hkept rfl rfl
  | dropIndex cancelled name deleteRecords => exact hkept rfl rfl
  | deleteDocuments index uids => exact hkept rfl rfl
  | sweep cancelled pattern => exact hkept rfl rfl
  | search request => exact hkept rfl rfl

end Call

/-! ### What a session wrote -/

namespace Session

variable {α : Type}

/-- What was written before and by a call, as far as the keys are still there. -/
def noted (session : Session α) (before : Journal) (call : Call) : Journal :=
  (before ++ call.writes session.service).filter fun write =>
    ((session.perform call).store.get? write.key).isSome

/-- What was written after calls from a session on. -/
def journal (session : Session α) (before : Journal) : List Call → Journal
  | [] => before
  | call :: calls => (session.perform call).journal (session.noted before call) calls

/-- **The journal of a session explains its store**, whatever the calls. -/
theorem explains_journal (config : Config) (archive : Option α) (intake : Intake)
    (calls : List Call) :
    ((start config archive intake).journal [] calls).Explains
      ((start config archive intake).run calls).store := by
  suffices h : ∀ (session : Session α) (before : Journal), before.Explains session.store →
      (session.journal before calls).Explains (session.run calls).store
    from h _ [] Journal.Explains.empty
  induction calls with
  | nil => exact fun _ _ h => h
  | cons call calls ih => exact fun _ _ h => ih _ _ (call.explains_perform h)

end Session

end HybridSearch
