import HybridSearch.Proofs.Attempt
import HybridSearch.Proofs.Store.Lookup
import HybridSearch.Store.Memory

/-!
# The records of the store in memory

What the operations of the store do to the state in memory, and which records are there after
writing and removing.

## Main definitions

* `MemoryStore.get?` — the hash under a key, if there is a record.
* `MemoryStore.eraseAll` — the store without the records under some keys.

## Main results

* `StoredHash.merge_nil_of_nodup` — fields of different names, written into a new record.
* `MemoryStore.get?_hashSet`, `MemoryStore.get?_delete`, `MemoryStore.get?_eraseAll`,
  `MemoryStore.get?_eraseAll_keysMatching` — what stands under a key after a change.
-/

namespace HybridSearch

/-! ### The fields of a record -/

namespace StoredHash

theorem get?_set (hash : StoredHash) (written : String) (bytes : Bytes) (name : String) :
    get? (hash.set written bytes) name = if name = written then some bytes else hash.get? name := by
  induction hash with
  | nil => exact lookup_cons_ite (written, bytes) [] name
  | cons head rest ih =>
    simp only [get?] at ih ⊢
    rw [set]
    split
    · rename_i hother
      rw [lookup_cons_ite, lookup_cons_ite, ← hother]
      split <;> rfl
    · rename_i hother
      rw [lookup_cons_ite, lookup_cons_ite, ih]
      by_cases hname : name = head.1
      · rw [if_pos hname, if_pos hname, if_neg (hname ▸ hother)]
      · rw [if_neg hname, if_neg hname]

/-- Of several values written under one name the last stays. -/
theorem get?_merge (hash : StoredHash) (fields : List (String × FieldValue)) (name : String) :
    get? (hash.merge fields) name =
      ((fields.reverse.lookup name).map FieldValue.toBytes).or (hash.get? name) := by
  induction fields generalizing hash with
  | nil => rfl
  | cons field fields ih =>
    rw [merge, List.foldl_cons, ← merge, ih, get?_set, List.reverse_cons, List.lookup_append,
      lookup_cons_ite, List.lookup_nil]
    by_cases hname : name = field.1
    · cases fields.reverse.lookup name <;> simp [hname]
    · cases fields.reverse.lookup name <;> simp [hname]

theorem set_of_not_mem {hash : StoredHash} {name : String} (h : name ∉ hash.map Prod.fst)
    (bytes : Bytes) : set name bytes hash = hash ++ [(name, bytes)] := by
  induction hash with
  | nil => rfl
  | cons field hash ih =>
    obtain ⟨hname, hrest⟩ := not_or.mp (mt List.mem_cons.mpr h)
    rw [set, if_neg (Ne.symm hname), ih hrest, List.cons_append]

private theorem merge_of_nodup (hash : StoredHash) {fields : List (String × FieldValue)}
    (h : (hash.map Prod.fst ++ fields.map Prod.fst).Nodup) :
    hash.merge fields = hash ++ fields.map fun field => (field.1, field.2.toBytes) := by
  induction fields generalizing hash with
  | nil => exact (List.append_nil hash).symm
  | cons field fields ih =>
    have hnew : field.1 ∉ hash.map Prod.fst := fun hmem =>
      (List.nodup_append.mp h).2.2 _ hmem _ List.mem_cons_self rfl
    have hrest := ih (hash ++ [(field.1, field.2.toBytes)]) (by simpa using h)
    rw [merge, List.foldl_cons, set_of_not_mem hnew]
    refine hrest.trans ?_
    rw [List.append_assoc, List.map_cons, List.singleton_append]

/-- Fields of different names, written into a new record, stand there as they are. -/
theorem merge_nil_of_nodup {fields : List (String × FieldValue)}
    (h : (fields.map Prod.fst).Nodup) :
    merge [] fields = fields.map fun field => (field.1, field.2.toBytes) :=
  merge_of_nodup [] h

end StoredHash

namespace MemoryStore

/-! ### The operations of a store -/

section Operations

variable (store : MemoryStore)

theorem runFrom_createIndex (definition : IndexDefinition) :
    (Store.createIndex definition).runFrom store =
      match store.createIndex definition with
      | .ok changed => (.ok (), changed)
      | .error cause => (.error cause, store) :=
  rfl

theorem runFrom_alterIndex (index : String) (attributes : List Attribute) :
    (Store.alterIndex index attributes).runFrom store =
      match store.alterIndex index attributes with
      | .ok changed => (.ok (), changed)
      | .error cause => (.error cause, store) :=
  rfl

theorem runFrom_dropIndex (index : String) :
    (Store.dropIndex index).runFrom store =
      match store.dropIndex index with
      | .ok changed => (.ok (), changed)
      | .error cause => (.error cause, store) :=
  rfl

@[simp] theorem runFrom_indexInfo (index : String) :
    (Store.indexInfo index).runFrom store =
      ((store.definition index).map IndexDefinition.fieldSet, store) :=
  rfl

@[simp] theorem runFrom_search (index : String) (query : Query) :
    (Store.search index query).runFrom store = (store.search index query, store) :=
  rfl

@[simp] theorem runFrom_hashSet (key : String) (fields : List (String × FieldValue)) :
    (Store.hashSet key fields).runFrom store = (.ok (), store.hashSet key fields) :=
  rfl

@[simp] theorem runFrom_delete (key : String) :
    (Store.delete key).runFrom store =
      (.ok (store.records.get? key).isSome, store.delete key) :=
  rfl

@[simp] theorem runFrom_scan (pattern : String) (cursor : Nat) :
    (Store.scan pattern cursor).runFrom store = (.ok ⟨0, store.keysMatching pattern⟩, store) :=
  rfl

theorem isReadOnly_hashGet (key field : String) :
    (Store.hashGet key field : Attempt SearchError MemoryStore _).IsReadOnly :=
  fun _ => rfl

theorem isReadOnly_hashGetAll (key : String) :
    (Store.hashGetAll key : Attempt SearchError MemoryStore _).IsReadOnly :=
  fun _ => rfl

end Operations

/-! ### Records by key -/

variable (store : MemoryStore)

/-- The hash under a key, if there is a record. -/
def get? (key : String) : Option StoredHash := store.records.get? key

@[simp] theorem get?_hashSet (written : String) (fields : List (String × FieldValue))
    (key : String) :
    (store.hashSet written fields).get? key =
      if key = written then some ((store.hash written).merge fields) else store.get? key :=
  Dict.get?_insert ..

@[simp] theorem get?_delete (removed key : String) :
    (store.delete removed).get? key = if key = removed then none else store.get? key :=
  Dict.get?_erase ..

/-- Without a record there are no fields. -/
theorem hash_eq (key : String) : store.hash key = (store.get? key).getD [] := rfl

theorem hash_hashSet (written : String) (fields : List (String × FieldValue)) (key : String) :
    (store.hashSet written fields).hash key =
      if key = written then (store.hash written).merge fields else store.hash key := by
  rw [hash_eq, get?_hashSet, hash_eq store key]
  split <;> rfl

theorem mem_keysMatching_iff {pattern key : String} :
    key ∈ store.keysMatching pattern ↔
      (store.get? key).isSome ∧ Glob.isMatch pattern key = true := by
  rw [keysMatching, List.mem_filter, Dict.mem_keys_iff, get?]

/-! ### Removing many records -/

/-- The store without the records under the given keys. -/
def eraseAll (keys : List String) : MemoryStore := keys.foldl delete store

@[simp] theorem indexes_eraseAll (keys : List String) :
    (store.eraseAll keys).indexes = store.indexes := by
  induction keys generalizing store with
  | nil => rfl
  | cons key keys ih => exact ih (store.delete key)

theorem get?_eraseAll (keys : List String) (key : String) :
    (store.eraseAll keys).get? key = if key ∈ keys then none else store.get? key := by
  induction keys generalizing store with
  | nil => simp [eraseAll]
  | cons removed keys ih =>
    refine (ih (store.delete removed)).trans ?_
    rw [get?_delete]
    by_cases hkeys : key ∈ keys
    · rw [if_pos hkeys, if_pos (List.mem_cons_of_mem _ hkeys)]
    · by_cases hkey : key = removed
      · rw [if_neg hkeys, if_pos hkey, if_pos (hkey ▸ List.mem_cons_self)]
      · rw [if_neg hkeys, if_neg hkey,
          if_neg fun h => (List.mem_cons.mp h).elim hkey hkeys]

/-- Without the keys of a pattern the others are as they were. -/
theorem get?_eraseAll_keysMatching (pattern key : String) :
    (store.eraseAll (store.keysMatching pattern)).get? key =
      if Glob.isMatch pattern key = true then none else store.get? key := by
  rw [get?_eraseAll]
  simp only [mem_keysMatching_iff]
  cases hget : store.get? key with
  | none => rw [ite_self, ite_self]
  | some hash => exact ite_congr (propext (and_iff_right rfl)) (fun _ => rfl) fun _ => rfl

end MemoryStore

end HybridSearch
