import HybridSearch.Proofs.Ingest.Interleaving
import HybridSearch.Proofs.Ingest.Overwriting
import Mathlib.Data.List.Pairwise

/-!
# Rows that write under one key

Whatever rows of a batch are done first, the same records are written under the same keys and the
report is the same. What is stored under a key depends on which of its records is written last, as
soon as two of them give one attribute different bytes and there is room for two rows at a time.

## Main definitions

* `MemoryStore.contents` — what is stored, as bytes under keys and attributes.
* `Ingest.Agreeing` — rows none of which writes other bytes where another has written.

## Main results

* `Ingest.Agreeing.contents_eq` — rows that agree can be written in any order.
* `Ingest.exists_completes_of_not_agreeing` — rows that do not agree can end in a harmful order.
* `Ingest.completes_contents_iff` — what every run of a batch has in common.
-/

namespace HybridSearch

open IngestReport (Outcome)

/-- Rows of different numbers are reported alike in whatever order they end. -/
theorem IngestReport.ofOutcomes_eq_of_perm {first last : List Outcome} (hperm : first.Perm last)
    (hnodup : (first.map Prod.fst).Nodup) : ofOutcomes first = ofOutcomes last := by
  have hbefore : ∀ a ∈ first, ∀ b ∈ first,
      (fun left right : Outcome => decide (left.1 < right.1)) a b = decide (a.1 < b.1) :=
    fun _ _ _ _ => rfl
  have hrows : byRow first = byRow last :=
    ranked_eq_of_perm hperm hbefore fun a ha b hb => List.inj_on_of_nodup_map hnodup ha hb
  rw [ofOutcomes, ofOutcomes, hrows]

/-! ### What a row writes -/

/-- The bytes that a row has written under a key and a name. -/
def Ingest.written? (key name : String) : Outcome → Option Bytes
  | (_, .ok record) => if record.key = key then record.bytes? name else none
  | (_, .error _) => none

namespace MemoryStore

open Ingest (written? fieldsUnder)

/-- What is stored, as bytes under keys and attributes. -/
def contents (store : MemoryStore) (key : String) : Option (String → Option Bytes) :=
  (store.get? key).map StoredHash.get?

theorem contents_eq_iff {left right : MemoryStore} :
    left.contents = right.contents ↔
      (∀ key, (left.get? key).isSome = (right.get? key).isSome) ∧
        ∀ key name, (left.hash key).get? name = (right.hash key).get? name := by
  rw [funext_iff, ← forall_and]
  refine forall_congr' fun key => ?_
  rw [contents, contents, hash_eq, hash_eq]
  cases left.get? key <;> cases right.get? key <;> simp [funext_iff]

theorem get?_hash_accept (store : MemoryStore) (outcome : Outcome) (key name : String) :
    ((store.accept outcome).hash key).get? name =
      (written? key name outcome).or ((store.hash key).get? name) := by
  rw [hash_accept, StoredHash.get?_merge]
  obtain ⟨number, _ | record⟩ := outcome
  · rfl
  · rw [fieldsUnder, written?]
    split <;> rfl

/-- Of several rows that write under a key and a name the last one counts. -/
theorem get?_hash_foldl_accept (outcomes : List Outcome) (store : MemoryStore)
    (key name : String) :
    ((outcomes.foldl accept store).hash key).get? name =
      (outcomes.reverse.findSome? (written? key name)).or ((store.hash key).get? name) := by
  induction outcomes generalizing store with
  | nil => rfl
  | cons outcome outcomes ih =>
    rw [List.foldl_cons, ih, get?_hash_accept, List.reverse_cons, List.findSome?_append,
      Option.or_assoc]
    simp

end MemoryStore

namespace Ingest

/-! ### Rows that agree -/

/-- Where two rows write under one key and one name, they write the same bytes. -/
def Agreeing (outcomes : List Outcome) : Prop :=
  ∀ key name, ∀ first ∈ outcomes, ∀ second ∈ outcomes, ∀ bytes bytes',
    written? key name first = some bytes → written? key name second = some bytes' → bytes = bytes'

/-- The key under which a row has written. -/
def key? (outcome : Outcome) : Option String := outcome.2.toOption.map Record.key

theorem key?_of_written? {key name : String} {outcome : Outcome} {bytes : Bytes}
    (h : written? key name outcome = some bytes) : key? outcome = some key := by
  obtain ⟨number, _ | record⟩ := outcome
  · cases h
  · rw [written?] at h
    split at h
    · rename_i hkey
      exact congrArg some hkey
    · cases h

/-- Rows that share no key agree. -/
theorem agreeing_of_nodup {outcomes : List Outcome} (h : (outcomes.filterMap key?).Nodup) :
    Agreeing outcomes := by
  intro key name first hfirst second hsecond bytes bytes' hbytes hbytes'
  have hapart := List.pairwise_filterMap.mp h
  have hsymm : Std.Symm fun first second : Outcome =>
      ∀ key, key? first = some key → ∀ key', key? second = some key' → key ≠ key' :=
    ⟨fun _ _ h key hkey key' hkey' => (h key' hkey' key hkey).symm⟩
  by_cases heq : first = second
  · rw [heq, hbytes'] at hbytes
    exact (Option.some.inj hbytes).symm
  · exact absurd rfl (hapart.forall hfirst hsecond heq key (key?_of_written? hbytes) key
      (key?_of_written? hbytes'))

/-- Rows that agree end the search for the last one alike in any order. -/
private theorem findSome?_eq_of_perm {first last : List Outcome} (hperm : first.Perm last)
    (hagree : Agreeing first) (key name : String) :
    first.findSome? (written? key name) = last.findSome? (written? key name) := by
  cases hfirst : first.findSome? (written? key name) with
  | none =>
    refine (List.findSome?_eq_none_iff.mpr fun outcome houtcome => ?_).symm
    exact List.findSome?_eq_none_iff.mp hfirst outcome (hperm.mem_iff.mpr houtcome)
  | some bytes =>
    obtain ⟨outcome, houtcome, hbytes⟩ := List.exists_of_findSome?_eq_some hfirst
    cases hlast : last.findSome? (written? key name) with
    | none =>
      rw [List.findSome?_eq_none_iff.mp hlast outcome (hperm.mem_iff.mp houtcome)] at hbytes
      cases hbytes
    | some bytes' =>
      obtain ⟨other, hother, hbytes'⟩ := List.exists_of_findSome?_eq_some hlast
      rw [hagree key name outcome houtcome other (hperm.mem_iff.mpr hother) bytes bytes' hbytes
        hbytes']

theorem Agreeing.of_perm {first last : List Outcome} (h : Agreeing first)
    (hperm : first.Perm last) : Agreeing last :=
  fun key name outcome houtcome other hother =>
    h key name outcome (hperm.mem_iff.mpr houtcome) other (hperm.mem_iff.mpr hother)

/-- The same rows write under the same keys. -/
theorem isSome_get?_eq_of_perm {first last : List Outcome} (hperm : first.Perm last)
    (store : MemoryStore) (key : String) :
    ((first.foldl MemoryStore.accept store).get? key).isSome =
      ((last.foldl MemoryStore.accept store).get? key).isSome := by
  rw [Bool.eq_iff_iff, MemoryStore.isSome_get?_foldl_accept, MemoryStore.isSome_get?_foldl_accept]
  simp only [hperm.mem_iff]

/-- **Rows that agree** can be written in any order. -/
theorem Agreeing.contents_eq {first last : List Outcome} (h : Agreeing first)
    (hperm : first.Perm last) (store : MemoryStore) :
    (first.foldl MemoryStore.accept store).contents =
      (last.foldl MemoryStore.accept store).contents := by
  refine MemoryStore.contents_eq_iff.mpr
    ⟨isSome_get?_eq_of_perm hperm store, fun key name => ?_⟩
  have hreverse : first.reverse.Perm last.reverse :=
    (first.reverse_perm.trans hperm).trans last.reverse_perm.symm
  rw [MemoryStore.get?_hash_foldl_accept, MemoryStore.get?_hash_foldl_accept,
    findSome?_eq_of_perm hreverse (h.of_perm first.reverse_perm.symm)]

/-- **Rows that do not agree**: one of them would leave other bytes if it were written last. -/
theorem exists_written_of_not_agreeing {outcomes : List Outcome} (h : ¬Agreeing outcomes) :
    ∃ key name, ∀ value : Option Bytes, ∃ outcome ∈ outcomes, ∃ bytes,
      written? key name outcome = some bytes ∧ value ≠ some bytes := by
  simp only [Agreeing, not_forall] at h
  obtain ⟨key, name, first, hfirst, second, hsecond, bytes, bytes', hbytes, hbytes', hne⟩ := h
  refine ⟨key, name, fun value => ?_⟩
  by_cases hvalue : value = some bytes
  · refine ⟨second, hsecond, bytes', hbytes', ?_⟩
    rw [hvalue]
    exact fun heq => hne (Option.some.inj heq)
  · exact ⟨first, hfirst, bytes, hbytes, hvalue⟩

/-! ### Whole batches -/

variable (options : CoercionOptions) (index : String) (fields : FieldSet)

/-- Rows that do not agree can end in an order that stores other bytes than their own order. -/
theorem exists_completes_of_not_agreeing {limit : Nat} (hlimit : 2 ≤ limit)
    {workspace : Workspace MemoryStore} {rows : List NumberedRow}
    (hids : ∀ row ∈ rows, CarriesId row.2)
    (h : ¬Agreeing (makeAll options index fields rows workspace.intake).1) :
    ∃ outcomes after, Completes options index fields limit workspace rows outcomes after ∧
      after.store.contents ≠ ((makeAll options index fields rows workspace.intake).1.foldl
        MemoryStore.accept workspace.store).contents := by
  obtain ⟨key, name, hother⟩ := exists_written_of_not_agreeing h
  obtain ⟨outcome, houtcome, bytes, hbytes, hne⟩ := hother
    ((((makeAll options index fields rows workspace.intake).1.foldl MemoryStore.accept
      workspace.store).hash key).get? name)
  obtain ⟨first, last, hsplit⟩ := List.append_of_mem houtcome
  obtain ⟨after, hcompletes⟩ := exists_completes_delayed options index fields hlimit hsplit
  refine ⟨_, after, hcompletes, fun heq => hne ?_⟩
  obtain ⟨-, hstore, -⟩ := hcompletes.accords hids
  rw [← (MemoryStore.contents_eq_iff.mp heq).2 key name, hstore,
    MemoryStore.get?_hash_foldl_accept, List.reverse_append, List.reverse_singleton,
    List.singleton_append, List.findSome?_cons, hbytes, Option.some_or]

/-- Rows are numbered by their places. -/
theorem nodup_map_fst_numbered (batch : List Json) : ((numbered batch).map Prod.fst).Nodup := by
  have hnumbers : (numbered batch).map Prod.fst = List.range' 1 batch.length := by
    rw [numbered, List.map_map]
    exact List.zipIdx_map_snd 1 batch
  rw [hnumbers]
  exact List.nodup_range'

section Runs

variable {options index fields} {limit : Nat} {workspace after : Workspace MemoryStore}
  {rows : List NumberedRow} {outcomes : List Outcome}

/-- Rows with ids are reported alike in every run. -/
theorem Completes.ofOutcomes_eq
    (h : Completes options index fields limit workspace rows outcomes after)
    (hids : ∀ row ∈ rows, CarriesId row.2) (hnumbers : (rows.map Prod.fst).Nodup) :
    IngestReport.ofOutcomes outcomes =
      IngestReport.ofOutcomes (makeAll options index fields rows workspace.intake).1 := by
  obtain ⟨hperm, -, -⟩ := h.accords hids
  refine IngestReport.ofOutcomes_eq_of_perm hperm ?_
  rw [(hperm.map Prod.fst).nodup_iff, map_fst_makeAll]
  exact hnumbers

/-- One row at a time, and rows that agree, store in every run what they store in order. -/
theorem Completes.contents_eq
    (h : Completes options index fields limit workspace rows outcomes after)
    (hids : ∀ row ∈ rows, CarriesId row.2)
    (hcase : limit ≤ 1 ∨ Agreeing (makeAll options index fields rows workspace.intake).1) :
    after.store.contents = ((makeAll options index fields rows workspace.intake).1.foldl
      MemoryStore.accept workspace.store).contents := by
  obtain ⟨hperm, hstore, horder⟩ := h.accords hids
  rw [hstore]
  rcases hcase with hlimit | hagree
  · rw [horder hlimit]
  · exact (hagree.of_perm hperm.symm).contents_eq hperm workspace.store

end Runs

/-- **Every run of a batch** whose objects carry ids makes the report and writes the keys that its
rows make in order. What is stored is the same in every run if and only if there is room for one row
at a time or rows that share a key and an attribute give it the same bytes. -/
theorem completes_contents_iff (limit : Nat) {batch : List Json}
    (hids : ∀ source, .obj source ∈ batch → (Source.explicitId? source).isSome)
    (workspace : Workspace MemoryStore) :
    let ordered := (inOrder options index fields (numbered batch)).run workspace
    let schedule := (scheduled options index fields (limit - 1) [] (numbered batch)).run workspace
    let run := Completes options index fields limit workspace (numbered batch)
    run schedule.1 schedule.2 ∧
      (∀ outcomes after, run outcomes after →
        IngestReport.ofOutcomes outcomes = IngestReport.ofOutcomes ordered.1 ∧
          after.store.indexes = ordered.2.store.indexes ∧
          ∀ key, (after.store.get? key).isSome = (ordered.2.store.get? key).isSome) ∧
      ((∀ outcomes after, run outcomes after →
          after.store.contents = ordered.2.store.contents) ↔
        limit ≤ 1 ∨ Agreeing ordered.1) := by
  have hcarries := carriesId_of_mem_numbered hids
  dsimp only
  rw [run_inOrder]
  refine ⟨completes_scheduled options index fields limit workspace (numbered batch),
    fun outcomes after hrun => ⟨?_, ?_, ?_⟩, fun hall => ?_, fun hcase outcomes after hrun => ?_⟩
  · exact hrun.ofOutcomes_eq hcarries (nodup_map_fst_numbered batch)
  · rw [(hrun.accords hcarries).2.1, MemoryStore.indexes_foldl_accept,
      MemoryStore.indexes_foldl_accept]
  · rw [(hrun.accords hcarries).2.1]
    exact isSome_get?_eq_of_perm (hrun.accords hcarries).1 workspace.store
  · by_contra hnone
    obtain ⟨hlimit, hagree⟩ := not_or.mp hnone
    obtain ⟨outcomes, after, hrun, hne⟩ := exists_completes_of_not_agreeing options index fields
      (not_le.mp hlimit) hcarries hagree
    exact hne (hall outcomes after hrun)
  · exact hrun.contents_eq hcarries hcase

/-- Two rows with ids of their own, one of which waits for the model, next to one that fails. -/
private def apart : List Json :=
  [.obj [("e", .str "abc"), ("id", .str "1"), ("t", .str "x")], .bool true,
    .obj [("id", .str "2"), ("t", .str "y")]]

/-- Four rows at a time, where no two rows share a key. -/
theorem completes_contents_iff_apart :
    let ordered := (inOrder .standard "i" .sample (numbered apart)).run
      ⟨MemoryStore.empty, .sample⟩
    (ordered.1.filterMap key?) = ["vs:i:1", "vs:i:2"] ∧
      ∀ outcomes after,
        Completes .standard "i" .sample 4 ⟨MemoryStore.empty, .sample⟩ (numbered apart) outcomes
          after →
        IngestReport.ofOutcomes outcomes = IngestReport.ofOutcomes ordered.1 ∧
          after.store.contents = ordered.2.store.contents := by
  have hids := isSome_explicitId?_of_all apart (by decide +kernel)
  have hkeys : (((inOrder .standard "i" .sample (numbered apart)).run
      ⟨MemoryStore.empty, .sample⟩).1.filterMap key?) = ["vs:i:1", "vs:i:2"] := by decide +kernel
  obtain ⟨-, hreport, hcontents⟩ :=
    completes_contents_iff .standard "i" .sample 4 hids ⟨MemoryStore.empty, .sample⟩
  have hagree := agreeing_of_nodup (by rw [hkeys]; decide)
  refine ⟨hkeys, fun outcomes after hrun => ⟨(hreport outcomes after hrun).1, ?_⟩⟩
  exact hcontents.mpr (Or.inr hagree) outcomes after hrun

/-- Two rows with one id, the first of which waits for the model. -/
private def shared : List Json :=
  [.obj [("e", .str "abc"), ("id", .str "1"), ("t", .str "x")],
    .obj [("id", .str "1"), ("t", .str "y")]]

/-- Not every run stores what the rows store in order: the row that waits is written last. -/
theorem not_completes_contents :
    ¬∀ (options : CoercionOptions) (index : String) (fields : FieldSet) (limit : Nat)
      (batch : List Json) (workspace after : Workspace MemoryStore) (outcomes : List Outcome),
      (∀ source, .obj source ∈ batch → (Source.explicitId? source).isSome) →
      Completes options index fields limit workspace (numbered batch) outcomes after →
      after.store.contents =
        ((inOrder options index fields (numbered batch)).run workspace).2.store.contents := by
  intro hall
  have hids := isSome_explicitId?_of_all shared (by decide +kernel)
  have hrun := completes_scheduled .standard "i" .sample 2 ⟨MemoryStore.empty, .sample⟩
    (numbered shared)
  have hcontents := hall _ _ _ _ _ _ _ _ hids hrun
  have htag := (MemoryStore.contents_eq_iff.mp hcontents).2 "vs:i:1" "t"
  revert htag
  decide +kernel

end Ingest

end HybridSearch
