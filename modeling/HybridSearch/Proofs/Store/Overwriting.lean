import HybridSearch.Proofs.Store.Records

/-!
# Writing over what is there

A field that is written again stays in its place, so fields that are written twice leave what they
leave when they are written once.

## Main results

* `StoredHash.set_comm` — a field that is there and another can be written in either order.
* `StoredHash.merge_merge` — fields that are written twice in a row.
* `MemoryStore.ext_hash` — a store is told by its indexes, its keys and the fields under them.
-/

namespace HybridSearch

namespace StoredHash

variable {hash : StoredHash} {name other : String}

theorem get?_cons (field : String × Bytes) (rest : StoredHash) (name : String) :
    get? (field :: rest) name = if name = field.1 then some field.2 else get? rest name :=
  lookup_cons_ite field rest name

theorem set_set (hash : StoredHash) (name : String) (first last : Bytes) :
    set name last (set name first hash) = set name last hash := by
  induction hash with
  | nil => simp [set]
  | cons field rest ih =>
    by_cases hname : field.1 = name
    · rw [set, if_pos hname, set, if_pos hname, set, if_pos hname]
    · rw [set, if_neg hname, set, if_neg hname, set, if_neg hname, ih]

/-- Writing what is there changes nothing. -/
theorem set_eq_self {bytes : Bytes} (h : hash.get? name = some bytes) :
    set name bytes hash = hash := by
  induction hash with
  | nil => cases h
  | cons field rest ih =>
    rw [get?_cons] at h
    by_cases hname : field.1 = name
    · rw [if_pos hname.symm] at h
      rw [set, if_pos hname, ← Option.some.inj h]
    · rw [if_neg (Ne.symm hname)] at h
      rw [set, if_neg hname, ih h]

/-- **A field that is there and another** can be written in either order. -/
theorem set_comm (hne : name ≠ other) (h : (hash.get? name).isSome) (bytes bytes' : Bytes) :
    set other bytes' (set name bytes hash) = set name bytes (set other bytes' hash) := by
  induction hash with
  | nil => cases h
  | cons field rest ih =>
    rw [get?_cons] at h
    by_cases hname : field.1 = name
    · have hother : field.1 ≠ other := hname ▸ hne
      simp only [set, if_pos hname, if_neg hother]
    · by_cases hother : field.1 = other
      · simp only [set, if_neg hname, if_pos hother]
      · rw [if_neg (Ne.symm hname)] at h
        simp only [set, if_neg hname, if_neg hother, ih h]

theorem isSome_get?_set (h : (hash.get? name).isSome) (written : String) (bytes : Bytes) :
    ((hash.set written bytes).get? name).isSome := by
  rw [get?_set]
  split
  · rfl
  · exact h

theorem merge_cons (hash : StoredHash) (field : String × FieldValue)
    (fields : List (String × FieldValue)) :
    hash.merge (field :: fields) = (hash.set field.1 field.2.toBytes).merge fields :=
  rfl

theorem merge_append (hash : StoredHash) (first last : List (String × FieldValue)) :
    hash.merge (first ++ last) = (hash.merge first).merge last :=
  List.foldl_append

/-- What is written into a field that is there does not matter if the field is written later. -/
theorem merge_set (h : (hash.get? name).isSome) {fields : List (String × FieldValue)}
    (hname : name ∈ fields.map Prod.fst) (bytes : Bytes) :
    (hash.set name bytes).merge fields = hash.merge fields := by
  induction fields generalizing hash with
  | nil => cases hname
  | cons field fields ih =>
    rw [merge_cons, merge_cons]
    by_cases hfield : field.1 = name
    · rw [hfield, set_set]
    · have hrest : name ∈ fields.map Prod.fst :=
        (List.mem_cons.mp hname).resolve_left (Ne.symm hfield)
      rw [set_comm (Ne.symm hfield) h, ih (isSome_get?_set h _ _) hrest]

/-- A field that the others do not write stays as it is. -/
theorem get?_merge_of_not_mem {fields : List (String × FieldValue)}
    (hname : name ∉ fields.map Prod.fst) : (hash.merge fields).get? name = hash.get? name := by
  have hnone : fields.reverse.lookup name = none := by
    rw [List.lookup_eq_none_iff]
    intro field hfield
    refine bne_iff_ne.mpr ?_
    rintro rfl
    exact hname (List.mem_map_of_mem (List.mem_reverse.mp hfield))
  rw [get?_merge, hnone, Option.map_none, Option.none_or]

theorem isSome_get?_merge (h : (hash.get? name).isSome) (fields : List (String × FieldValue)) :
    ((hash.merge fields).get? name).isSome := by
  rw [get?_merge]
  cases fields.reverse.lookup name with
  | none => exact h
  | some value => rfl

/-- **Fields that are written twice in a row** leave what they leave when they are written once, in
the same order. -/
theorem merge_merge (hash : StoredHash) (fields : List (String × FieldValue)) :
    (hash.merge fields).merge fields = hash.merge fields := by
  induction fields generalizing hash with
  | nil => rfl
  | cons field fields ih =>
    have hwritten : (hash.set field.1 field.2.toBytes).get? field.1 = some field.2.toBytes := by
      rw [get?_set, if_pos rfl]
    rw [merge_cons, merge_cons]
    -- the first field counts only if none of the others writes over it
    by_cases hname : field.1 ∈ fields.map Prod.fst
    · have hsome : ((hash.set field.1 field.2.toBytes).get? field.1).isSome := by
        rw [hwritten]
        rfl
      rw [merge_set (isSome_get?_merge hsome fields) hname, ih]
    · rw [set_eq_self ((get?_merge_of_not_mem hname).trans hwritten), ih]

end StoredHash

/-- A store is told by its indexes, its keys and the fields under them. -/
theorem MemoryStore.ext_hash {left right : MemoryStore} (hindexes : left.indexes = right.indexes)
    (hkeys : ∀ key, (left.get? key).isSome = (right.get? key).isSome)
    (hhash : ∀ key, left.hash key = right.hash key) : left = right := by
  have hrecords : left.records = right.records := by
    refine Dict.ext_get? fun key => ?_
    have hkey := hkeys key
    have hfields := hhash key
    rw [hash_eq, hash_eq] at hfields
    cases hleft : left.get? key <;> cases hright : right.get? key <;>
      rw [hleft, hright] at hkey hfields
    · exact hleft.trans hright.symm
    · cases hkey
    · cases hkey
    · rw [Option.getD_some, Option.getD_some] at hfields
      exact hleft.trans ((congrArg some hfields).trans hright.symm)
  cases left
  cases right
  cases hindexes
  cases hrecords
  rfl

end HybridSearch
