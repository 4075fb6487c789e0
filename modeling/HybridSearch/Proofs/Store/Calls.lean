import HybridSearch.Proofs.Store.Fields
import HybridSearch.Proofs.Store.Overwriting

/-!
# Calls that change records

Which records there are after writing and removing is told by the fields that were given for each key
since it was last removed. In memory a record is there from the first write on, even if no field was
given.

## Main definitions

* `HashCall`, `HashCall.run` — writing and removing a record in any store.
* `HashCall.writes`, `HashCall.given` — the writes under a key since its last removal, and their
  fields.
* `HashCall.Hollow` — a key that was written without any field.
* `HashCall.answers` — what a store answers by what it takes to be there.
* `Store.Scans` — the keys of a whole scan.
* `MemoryStore.Reflects` — a store in memory after some calls.

## Main results

* `HashCall.runFrom_mapM` — many calls, by one step.
* `HashCall.answers_eq_answers_iff` — two stores answer alike if they agree on what they remove.
* `MemoryStore.Reflects.run`, `MemoryStore.Reflects.runFrom_mapM` — a call and many in memory.
-/

namespace HybridSearch

inductive HashCall where
  | set (key : String) (fields : List (String × FieldValue))
  | delete (key : String)

namespace HashCall

variable {σ : Type} {key : String} {calls : List HashCall}

/-- Only a removal tells something. -/
def run [Store σ] : HashCall → Attempt SearchError σ (Option Bool)
  | set key fields => (fun _ => none) <$> Store.hashSet key fields
  | delete key => some <$> Store.delete key

/-! ### What was given for a key -/

/-- The writes under a key after one more call. -/
def follow (key : String) (writes : List (List (String × FieldValue))) :
    HashCall → List (List (String × FieldValue))
  | set other fields => if key = other then writes ++ [fields] else writes
  | delete other => if key = other then [] else writes

/-- The writes under a key since its last removal, the earliest first. -/
def writes (key : String) (calls : List HashCall) : List (List (String × FieldValue)) :=
  calls.foldl (follow key) []

def given (key : String) (calls : List HashCall) : List (String × FieldValue) :=
  (writes key calls).flatten

/-- A key that was written and never given a field. -/
def Hollow (key : String) (calls : List HashCall) : Prop :=
  writes key calls ≠ [] ∧ given key calls = []

theorem not_hollow_iff : ¬Hollow key calls ↔ (writes key calls ≠ [] ↔ given key calls ≠ []) := by
  have hwrites (hgiven : given key calls ≠ []) : writes key calls ≠ [] := by
    intro hnone
    rw [given, hnone] at hgiven
    exact hgiven rfl
  rw [Hollow, not_and]
  exact ⟨fun h => ⟨h, hwrites⟩, fun h => h.mp⟩

theorem writes_concat (key : String) (calls : List HashCall) (call : HashCall) :
    writes key (calls ++ [call]) = follow key (writes key calls) call := by
  rw [writes, List.foldl_concat, writes]

theorem given_concat_set (key other : String) (calls : List HashCall)
    (fields : List (String × FieldValue)) :
    given key (calls ++ [set other fields]) =
      if key = other then given key calls ++ fields else given key calls := by
  rw [given, writes_concat, follow]
  split
  · rw [List.flatten_append, List.flatten_singleton, given]
  · rfl

theorem given_concat_delete (key other : String) (calls : List HashCall) :
    given key (calls ++ [delete other]) = if key = other then [] else given key calls := by
  rw [given, writes_concat, follow]
  split <;> rfl

/-! ### What a store answers -/

def answer (isThere : String → Bool) : HashCall → Option Bool
  | set _ _ => none
  | delete key => some (isThere key)

/-- The answers to calls that follow others, by what is there after the calls so far. -/
def answers (isThere : List HashCall → String → Bool) (done : List HashCall) :
    List HashCall → List (Option Bool)
  | [] => []
  | call :: calls => call.answer (isThere done) :: answers isThere (done ++ [call]) calls

/-- **Many calls.** If a call leaves a store in step with the calls so far, many do. -/
theorem runFrom_mapM [Store σ] {InStep : List HashCall → σ → Prop}
    {isThere : List HashCall → String → Bool}
    (hstep : ∀ done call s, InStep done s → ∃ t,
      (run call).runFrom s = (.ok (call.answer (isThere done)), t) ∧ InStep (done ++ [call]) t)
    (calls : List HashCall) {done : List HashCall} {s : σ} (h : InStep done s) :
    ∃ t, (calls.mapM run).runFrom s = (.ok (answers isThere done calls), t) ∧
      InStep (done ++ calls) t := by
  induction calls generalizing done s with
  | nil => exact ⟨s, rfl, (List.append_nil done).symm ▸ h⟩
  | cons call calls ih =>
    obtain ⟨t, hcall, hnext⟩ := hstep done call s h
    obtain ⟨u, hcalls, hlast⟩ := ih hnext
    refine ⟨u, ?_, by rwa [List.append_assoc] at hlast⟩
    rw [List.mapM_cons, Attempt.runFrom_bind_of_ok hcall, Attempt.runFrom_bind_of_ok hcalls]
    rfl

/-- **Two stores answer alike** just if they agree on the keys that are removed. -/
theorem answers_eq_answers_iff {isThere isThere' : List HashCall → String → Bool}
    {done : List HashCall} :
    answers isThere done calls = answers isThere' done calls ↔
      ∀ before key later, calls = before ++ delete key :: later →
        isThere (done ++ before) key = isThere' (done ++ before) key := by
  induction calls generalizing done with
  | nil => simp [answers]
  | cons call calls ih =>
    rw [answers, answers, List.cons.injEq, ih]
    constructor
    · rintro ⟨hcall, hcalls⟩ before key later hsplit
      rcases List.cons_eq_append_iff.mp hsplit with ⟨rfl, hfirst⟩ | ⟨rest, rfl, hrest⟩
      · obtain ⟨rfl, -⟩ := List.cons.inj hfirst
        rw [List.append_nil]
        exact Option.some.inj hcall
      · simpa using hcalls rest key later hrest
    · intro h
      refine ⟨?_, fun before key later hsplit => ?_⟩
      · cases call with
        | set key fields => rfl
        | delete key =>
          have hkey := h [] key calls rfl
          rw [List.append_nil] at hkey
          exact congrArg some hkey
      · simpa using h (call :: before) key later (by rw [hsplit, List.cons_append])

end HashCall

/-! ### Whole scans -/

/-- Pages of a scan from a cursor on up to the last, their keys and the state they leave. -/
inductive Store.Scans {σ : Type} [Store σ] (pattern : String) :
    (cursor : Nat) → σ → List String → σ → Prop
  | last {cursor s keys t}
      (h : (Store.scan pattern cursor).runFrom s = (.ok ⟨0, keys⟩, t)) :
      Scans pattern cursor s keys t
  | page {cursor s next keys t rest u}
      (h : (Store.scan pattern cursor).runFrom s = (.ok ⟨next, keys⟩, t)) (hnext : next ≠ 0)
      (hrest : Scans pattern next t rest u) : Scans pattern cursor s (keys ++ rest) u

/-! ### In memory -/

namespace MemoryStore

open HashCall

/-- A store in memory after some calls. -/
structure Reflects (calls : List HashCall) (store : MemoryStore) : Prop where
  isSome_get? : ∀ key, (store.get? key).isSome = !(writes key calls).isEmpty
  hash_eq : ∀ key, store.hash key = StoredHash.merge [] (given key calls)

namespace Reflects

variable {calls : List HashCall} {store : MemoryStore}

theorem empty : Reflects [] .empty := ⟨fun _ => rfl, fun _ => rfl⟩

theorem set (h : store.Reflects calls) (key : String) (fields : List (String × FieldValue)) :
    (store.hashSet key fields).Reflects (calls ++ [.set key fields]) := by
  constructor
  · intro other
    rw [get?_hashSet, writes_concat, follow]
    split
    · simp
    · exact h.isSome_get? other
  · intro other
    rw [hash_hashSet, given_concat_set, h.hash_eq, h.hash_eq]
    split
    · rename_i hkey
      rw [hkey, StoredHash.merge_append]
    · rfl

theorem delete (h : store.Reflects calls) (key : String) :
    (store.delete key).Reflects (calls ++ [.delete key]) := by
  constructor
  · intro other
    rw [get?_delete, writes_concat, follow]
    split
    · rfl
    · exact h.isSome_get? other
  · intro other
    rw [MemoryStore.hash_eq, get?_delete, given_concat_delete]
    split
    · rfl
    · exact h.hash_eq other

/-- **A call in memory.** What is removed was there if it had been written, with or without fields.
-/
theorem run (h : store.Reflects calls) (call : HashCall) :
    ∃ after, call.run.runFrom store =
        (.ok (call.answer fun key => !(writes key calls).isEmpty), after) ∧
      after.Reflects (calls ++ [call]) := by
  cases call with
  | set key fields =>
    refine ⟨store.hashSet key fields, ?_, h.set key fields⟩
    rw [HashCall.run, Attempt.runFrom_map, runFrom_hashSet]
    rfl
  | delete key =>
    refine ⟨store.delete key, ?_, h.delete key⟩
    rw [HashCall.run, Attempt.runFrom_map, runFrom_delete, HashCall.answer, ← h.isSome_get? key]
    rfl

theorem runFrom_mapM (calls : List HashCall) :
    ∃ store, (calls.mapM HashCall.run).runFrom MemoryStore.empty =
        (.ok (answers (fun done key => !(writes key done).isEmpty) [] calls), store) ∧
      store.Reflects calls :=
  HashCall.runFrom_mapM (fun _ call _ h => h.run call) calls empty

theorem get?_hash (h : store.Reflects calls) (key name : String) :
    StoredHash.get? (store.hash key) name =
      ((given key calls).reverse.lookup name).map FieldValue.toBytes := by
  rw [h.hash_eq, StoredHash.get?_merge]
  exact Option.or_none

theorem nodup_hash (h : store.Reflects calls) (key : String) :
    ((store.hash key).map Prod.fst).Nodup := by
  have hnone : (([] : StoredHash).map Prod.fst).Nodup := List.nodup_nil
  rw [h.hash_eq]
  exact StoredHash.nodup_merge hnone _

theorem mem_keysMatching_iff (h : store.Reflects calls) {pattern key : String} :
    key ∈ store.keysMatching pattern ↔
      writes key calls ≠ [] ∧ Glob.isMatch pattern key = true := by
  rw [MemoryStore.mem_keysMatching_iff, h.isSome_get?]
  simp

end Reflects

/-- All keys come on one page. -/
theorem scans (store : MemoryStore) (pattern : String) :
    Store.Scans pattern 0 store (store.keysMatching pattern) store :=
  .last (runFrom_scan store pattern 0)

end MemoryStore

end HybridSearch
