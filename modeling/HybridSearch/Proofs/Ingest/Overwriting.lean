import HybridSearch.Proofs.Ingest.Making
import HybridSearch.Proofs.Store.Overwriting

/-!
# Writing records again

A record is written over what is stored under its key. The attributes that it has are replaced, those
that it does not have stay, and writing it again changes nothing.

## Main definitions

* `Record.bytes?` — the bytes that a record leaves under a name.
* `Ingest.fieldsUnder` — the fields that a row has written under a key.

## Main results

* `Ingest.overwrites_of_record` — what stands under the key of a record after it was written.
* `MemoryStore.hash_foldl_accept` — what stands under a key after many rows.
* `MemoryStore.foldl_accept_again` — rows that are written twice.
* `Ingest.inOrder_again` — a batch that is ingested twice.
-/

namespace HybridSearch

open IngestReport (Outcome)

/-- The bytes that a record leaves under a name, where the last of several values counts. -/
def Record.bytes? (record : Record) (name : String) : Option Bytes :=
  (record.fields.reverse.lookup name).map FieldValue.toBytes

/-! ### One record -/

theorem MemoryStore.get?_accept_ok (store : MemoryStore) (number : Nat) (record : Record)
    (key : String) :
    (store.accept (number, .ok record)).get? key =
      if key = record.key then some ((store.hash record.key).merge record.fields)
      else store.get? key :=
  get?_hashSet ..

/-- **A record that is written** leaves its own attributes and those that were stored before and that
it does not have. Only what it has is left if and only if every attribute that was stored is one of
its own. -/
theorem Ingest.overwrites_of_record (options : CoercionOptions) (index : String)
    (fields : FieldSet) {source : Json.Members} {id : String}
    {workspace after : Workspace MemoryStore} {result : Record}
    (hid : Source.explicitId? source = some id)
    (h : (record options index fields source).runFrom workspace = (.ok result, after)) :
    result.key = Key.record index id ∧
      (∃ hash, after.store.get? result.key = some hash ∧
        (∀ name, hash.get? name =
          (result.bytes? name).or ((workspace.store.hash result.key).get? name)) ∧
        ((∀ name, hash.get? name = result.bytes? name) ↔
          ∀ name, ((workspace.store.hash result.key).get? name).isSome →
            (result.bytes? name).isSome)) ∧
      (∀ key, key ≠ result.key → after.store.get? key = workspace.store.get? key) ∧
      after.store.indexes = workspace.store.indexes := by
  have hrow := runFrom_row_eq options index fields (.ok (.obj source)) workspace 0
  rw [runFrom_make_obj, runFrom_ofSource options index fields hid] at hrow
  obtain ⟨hresult, hafter⟩ := Prod.mk.inj (hrow.symm.trans h)
  obtain ⟨values, -, rfl⟩ := Attempt.except_map_eq_ok.mp hresult
  rw [hresult] at hafter
  subst hafter
  set result := Record.ofValues index id values
  have hmerge (name : String) :
      ((workspace.store.hash result.key).merge result.fields).get? name =
        (result.bytes? name).or ((workspace.store.hash result.key).get? name) :=
    StoredHash.get?_merge ..
  refine ⟨rfl, ⟨_, ?_, hmerge, ?_⟩, fun key hkey => ?_, rfl⟩
  · rw [MemoryStore.get?_accept_ok, if_pos rfl]
  · refine forall_congr' fun name => ?_
    rw [hmerge]
    cases result.bytes? name <;> cases (workspace.store.hash result.key).get? name <;> simp
  · rw [MemoryStore.get?_accept_ok, if_neg hkey]

/-- What is left by a source that has nothing but the vector. -/
private def embedded : Workspace MemoryStore :=
  ((Ingest.record .standard "i" .sample [("e", .str "abc"), ("id", .str "1")]).runFrom
    ⟨.empty, .sample⟩).2

private def tagged : Json.Members := [("id", .str "1"), ("t", .str "x")]

/-- A record with a tag, written over one with a vector. -/
theorem Ingest.overwrites_of_record_tagged :
    ∃ result after hash,
      (record .standard "i" .sample tagged).runFrom embedded = (.ok result, after) ∧
      result.key = "vs:i:1" ∧ after.store.get? "vs:i:1" = some hash ∧
      ∀ name, hash.get? name = (result.bytes? name).or ((embedded.store.hash "vs:i:1").get? name) := by
  have hid : Source.explicitId? tagged = some "1" := by decide +kernel
  obtain ⟨result, after, hrun, hkey⟩ := Attempt.exists_of_map_toOption
    (show (((record .standard "i" .sample tagged).runFrom embedded).1.toOption.map Record.key) =
      some "vs:i:1" by decide +kernel)
  obtain ⟨-, ⟨hash, hstored, hbytes, -⟩, -⟩ :=
    overwrites_of_record .standard "i" .sample hid hrun
  rw [hkey] at hstored hbytes
  exact ⟨result, after, hash, hrun, hkey, hstored, hbytes⟩

/-- A record does not always leave its own attributes alone: the embedding of the source before stays.
-/
theorem Ingest.not_overwrites_exactly :
    ¬∀ (options : CoercionOptions) (index : String) (fields : FieldSet) (source : Json.Members)
      (id : String) (workspace after : Workspace MemoryStore) (result : Record),
      Source.explicitId? source = some id →
      (record options index fields source).runFrom workspace = (.ok result, after) →
      ∀ name, (after.store.hash result.key).get? name = result.bytes? name := by
  intro hall
  have hid : Source.explicitId? tagged = some "1" := by decide +kernel
  obtain ⟨result, after, hrun, hrest⟩ := Attempt.exists_of_map_toOption
    (show (((record .standard "i" .sample tagged).runFrom embedded).1.toOption.map fun result =>
      (result.key, result.bytes? "e_vec")) = some ("vs:i:1", none) by decide +kernel)
  obtain ⟨hkey, hbytes⟩ := Prod.mk.inj hrest
  have hexact := hall _ _ _ _ _ _ _ _ hid hrun "e_vec"
  have hstored : ((((record .standard "i" .sample tagged).runFrom embedded).2.store.hash
      "vs:i:1").get? "e_vec").isSome = true := by decide +kernel
  rw [hrun, ← hkey, hexact, hbytes] at hstored
  cases hstored

/-! ### Many records -/

/-- The fields that a row has written under a key. -/
def Ingest.fieldsUnder (key : String) : Outcome → List (String × FieldValue)
  | (_, .ok record) => if record.key = key then record.fields else []
  | (_, .error _) => []

namespace MemoryStore

open Ingest (fieldsUnder)

theorem hash_accept (store : MemoryStore) (outcome : Outcome) (key : String) :
    (store.accept outcome).hash key = (store.hash key).merge (fieldsUnder key outcome) := by
  obtain ⟨number, _ | record⟩ := outcome
  · rfl
  · rw [accept, hash_hashSet, fieldsUnder]
    by_cases hkey : key = record.key
    · rw [if_pos hkey, if_pos hkey.symm, hkey]
    · rw [if_neg hkey, if_neg (Ne.symm hkey)]
      rfl

theorem hash_foldl_accept (outcomes : List Outcome) (store : MemoryStore) (key : String) :
    (outcomes.foldl accept store).hash key =
      (store.hash key).merge (outcomes.flatMap (fieldsUnder key)) := by
  induction outcomes generalizing store with
  | nil => rfl
  | cons outcome outcomes ih =>
    rw [List.foldl_cons, ih, hash_accept, ← StoredHash.merge_append, List.flatMap_cons]

/-- **Rows that are written twice** leave what they leave when they are written once. -/
theorem foldl_accept_again (outcomes : List Outcome) (store : MemoryStore) :
    outcomes.foldl accept (outcomes.foldl accept store) = outcomes.foldl accept store := by
  refine ext_hash ?_ (fun key => ?_) fun key => ?_
  · rw [indexes_foldl_accept]
  · rw [Bool.eq_iff_iff, isSome_get?_foldl_accept, isSome_get?_foldl_accept, or_assoc, or_self]
  · rw [hash_foldl_accept _ (outcomes.foldl accept store), hash_foldl_accept,
      StoredHash.merge_merge]

end MemoryStore

/-! ### Whole batches -/

namespace Ingest

/-- **A batch that is ingested again in the order of its rows** leaves the store as it is and is
reported as before, if every object carries an id and the gateway is steady. -/
theorem inOrder_again (options : CoercionOptions) (index : String) (fields : FieldSet)
    {batch : List Json} {workspace : Workspace MemoryStore}
    (hids : ∀ source, .obj source ∈ batch → (Source.explicitId? source).isSome)
    (hsteady : workspace.intake.gateway.IsSteady) :
    let ingest := inOrder options index fields (numbered batch)
    let once := ingest.run workspace
    let again := ingest.run once.2
    again.2.store = once.2.store ∧
      IngestReport.ofOutcomes again.1 = IngestReport.ofOutcomes once.1 := by
  obtain ⟨outcomes, hmake⟩ := settles_makeAll options index fields (carriesId_of_mem_numbered hids)
    hsteady.uniform workspace.intake.ids
  obtain ⟨honce, hafter⟩ := hmake workspace.intake ⟨⟨[], rfl⟩, rfl⟩
  obtain ⟨hagain, -⟩ := hmake _ hafter
  dsimp only
  rw [run_inOrder, run_inOrder, honce, hagain]
  exact ⟨MemoryStore.foldl_accept_again outcomes workspace.store, rfl⟩

/-- Two rows that share a key, next to one that is no object and one with an unreadable price. -/
private def repeated : List Json :=
  [.obj [("e", .str "abc"), ("id", .str "1"), ("t", .str "x")], .bool true,
    .obj [("id", .str "1"), ("price", .str "$2.50"), ("t", .str "y")],
    .obj [("id", .str "2"), ("price", .str "free")]]

/-- A batch with a shared key and with rows that fail. -/
theorem inOrder_again_of_repeated :
    let ingest := inOrder ⟨.strict, true⟩ "i" .sample (numbered repeated)
    let once := ingest.run ⟨MemoryStore.empty, .sample⟩
    let again := ingest.run once.2
    (IngestReport.ofOutcomes once.1).written = ["1", "1"] ∧
      (IngestReport.ofOutcomes once.1).failed.map FailedRow.row = [2, 4] ∧
      again.2.store = once.2.store ∧
      IngestReport.ofOutcomes again.1 = IngestReport.ofOutcomes once.1 := by
  have hids := isSome_explicitId?_of_all repeated (by decide +kernel)
  exact ⟨by decide +kernel, by decide +kernel,
    inOrder_again ⟨.strict, true⟩ "i" .sample hids (Gateway.isSteady_ofLoader _ _)⟩

end Ingest

end HybridSearch
