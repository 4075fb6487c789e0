import HybridSearch.Proofs.Store.Records
import Mathlib.Data.List.Nodup

/-!
# The names of stored fields

A field is written in its place if there is one of its name, so that no record has two values under
one name.

## Main definitions

* `MemoryStore.HasDistinctFields` — every record has one value under each name.

## Main results

* `perm_of_lookup` — lists of distinct names in which the same is found.
* `StoredHash.nodup_merge` — writing fields keeps their names distinct.
* `MemoryStore.HasDistinctFields.hashSet`, `MemoryStore.HasDistinctFields.eraseAll` — so do writing and
  removing records.
-/

namespace HybridSearch

/-! ### Lists of pairs -/

section

variable {α : Type} {left right : List (String × α)}

theorem lookup_eq_some_iff_mem (h : (left.map Prod.fst).Nodup) {pair : String × α} :
    left.lookup pair.1 = some pair.2 ↔ pair ∈ left := by
  constructor
  · exact mem_of_lookup
  · intro hmem
    induction left with
    | nil => cases hmem
    | cons first rest ih =>
      obtain ⟨hnew, hrest⟩ := List.nodup_cons.mp h
      rw [lookup_cons_ite]
      rcases List.mem_cons.mp hmem with rfl | hmem
      · rw [if_pos rfl]
      · have hne : pair.1 ≠ first.1 := fun hname => hnew (hname ▸ List.mem_map_of_mem hmem)
        rw [if_neg hne, ih hrest hmem]

/-- Lists of distinct names in which the same is found differ in their order at most. -/
theorem perm_of_lookup (hleft : (left.map Prod.fst).Nodup) (hright : (right.map Prod.fst).Nodup)
    (h : ∀ name, left.lookup name = right.lookup name) : left.Perm right := by
  refine (List.perm_ext_iff_of_nodup hleft.of_map hright.of_map).mpr fun pair => ?_
  rw [← lookup_eq_some_iff_mem hleft, ← lookup_eq_some_iff_mem hright, h]

end

/-! ### Stored fields -/

namespace StoredHash

variable {hash : StoredHash}

theorem map_fst_set (hash : StoredHash) (name : String) (bytes : Bytes) :
    (hash.set name bytes).map Prod.fst =
      if name ∈ hash.map Prod.fst then hash.map Prod.fst else hash.map Prod.fst ++ [name] := by
  split
  · rename_i hmem
    induction hash with
    | nil => cases hmem
    | cons field rest ih =>
      rw [set]
      split
      · rfl
      · rename_i hne
        have hrest := (List.mem_cons.mp hmem).resolve_left (Ne.symm hne)
        rw [List.map_cons, ih hrest, List.map_cons]
  · rename_i hmem
    rw [set_of_not_mem hmem, List.map_append, List.map_singleton]

theorem nodup_set (h : (hash.map Prod.fst).Nodup) (name : String) (bytes : Bytes) :
    ((hash.set name bytes).map Prod.fst).Nodup := by
  rw [map_fst_set]
  split
  · exact h
  · rename_i hmem
    exact List.concat_eq_append ▸ h.concat hmem

theorem nodup_merge (h : (hash.map Prod.fst).Nodup) (fields : List (String × FieldValue)) :
    ((hash.merge fields).map Prod.fst).Nodup := by
  induction fields generalizing hash with
  | nil => exact h
  | cons field fields ih => exact ih (nodup_set h field.1 field.2.toBytes)

end StoredHash

namespace MemoryStore

variable {store : MemoryStore}

/-- Every record has one value under each name. -/
def HasDistinctFields (store : MemoryStore) : Prop :=
  ∀ key, ((store.hash key).map Prod.fst).Nodup

namespace HasDistinctFields

theorem empty : HasDistinctFields .empty := fun _ => List.nodup_nil

theorem hashSet (h : store.HasDistinctFields) (written : String)
    (fields : List (String × FieldValue)) : (store.hashSet written fields).HasDistinctFields := by
  intro key
  rw [hash_hashSet]
  split
  · exact StoredHash.nodup_merge (h written) fields
  · exact h key

theorem eraseAll (h : store.HasDistinctFields) (keys : List String) :
    (store.eraseAll keys).HasDistinctFields := by
  intro key
  rw [hash_eq, get?_eraseAll]
  split
  · exact List.nodup_nil
  · exact h key

/-- The records alone decide. -/
theorem of_records_eq {changed : MemoryStore} (h : store.HasDistinctFields)
    (heq : changed.records = store.records) : changed.HasDistinctFields := by
  intro key
  rw [hash, heq]
  exact h key

end HasDistinctFields

end MemoryStore

end HybridSearch
