import HybridSearch.Proofs.Ingest.Making
import HybridSearch.Proofs.Schema.Key
import HybridSearch.Proofs.Search.References
import HybridSearch.Proofs.Text.Utf8

/-!
# Parents put together again

A parent that was put lists the ids of its records between commas. Where no id has a comma in it, the
parent is put together again from exactly these records, each as often as it is listed.

## Main definitions

* `MemoryStore.HasRecord` — a record is there under an id that ingestion accepts.

## Main results

* `Ingest.hasRecord_of_record`, `MemoryStore.HasRecord.hashSet` — a record that is ingested is there,
  and writing removes none.
* `MemoryStore.items?_put` — the ids that a parent lists after it was put.
* `ParentView.expand_put` — the parent is expanded to its records, one for each id that it lists.
-/

namespace HybridSearch

/-! ### Records under the ids of rows -/

/-- The id of a row has something in it and no blanks around it. -/
theorem Source.trim_of_explicitId? {source : Json.Members} {id : String}
    (h : explicitId? source = some id) : Text.trim id = id ∧ id ≠ "" := by
  rw [explicitId?] at h
  split at h
  · rename_i key value _
    dsimp only at h
    split at h
    · cases h
    · rename_i hempty
      obtain rfl := Option.some.inj h
      exact ⟨Text.trim_trim value.text, fun hnil => hempty (String.isEmpty_iff.mpr hnil)⟩
  · cases h

namespace MemoryStore

variable {store : MemoryStore} {index id : String}

/-- A record is there under an id that ingestion accepts. -/
structure HasRecord (store : MemoryStore) (index id : String) : Prop where
  accepted : ∃ source, Source.explicitId? source = some id
  stored : ∃ name, ((store.hash (Key.record index id)).get? name).isSome

theorem HasRecord.hash_ne_nil (h : store.HasRecord index id) :
    store.hash (Key.record index id) ≠ [] := by
  intro hnil
  obtain ⟨name, hname⟩ := h.stored
  rw [hnil] at hname
  cases hname

/-- Writing removes no record. -/
theorem HasRecord.hashSet (h : store.HasRecord index id) (key : String)
    (fields : List (String × FieldValue)) : (store.hashSet key fields).HasRecord index id := by
  obtain ⟨name, hname⟩ := h.stored
  refine ⟨h.accepted, name, ?_⟩
  rw [hash_hashSet]
  split
  · rename_i hkey
    rw [StoredHash.get?_merge, ← hkey]
    cases (fields.reverse.lookup name).map FieldValue.toBytes with
    | none => exact hname
    | some bytes => rfl
  · exact hname

end MemoryStore

/-- A record that is ingested under the id of its row is there. -/
theorem Ingest.hasRecord_of_record {options : CoercionOptions} {index id : String}
    {fields : FieldSet} {source : Json.Members} {workspace after : Workspace MemoryStore}
    {result : Record} (hid : Source.explicitId? source = some id)
    (h : (record options index fields source).runFrom workspace = (.ok result, after)) :
    after.store.HasRecord index id := by
  obtain ⟨⟨_, hsource⟩, hstore⟩ := runFrom_record_of_ok options index fields h
  rw [runFrom_ofSource options index fields hid] at hsource
  obtain ⟨values, -, rfl⟩ := Attempt.except_map_eq_ok.mp (congrArg Prod.fst hsource)
  have hkey : Key.record index id = (Record.ofValues index id values).key := rfl
  refine ⟨⟨source, hid⟩, Key.idAttribute, ?_⟩
  rw [hstore, MemoryStore.hash_hashSet, if_pos hkey, StoredHash.get?_merge, Record.ofValues,
    List.reverse_append, List.reverse_singleton, List.singleton_append, List.lookup_cons_self]
  rfl

/-! ### A parent that was put -/

namespace MemoryStore

variable (store : MemoryStore) (index : String) (parent : ParentDocument)

/-- The store after a parent was put. -/
def withParent : MemoryStore := store.hashSet (Key.parent index parent.uid) parent.fields

theorem runFrom_put : (parent.put index).runFrom store = (.ok (), store.withParent index parent) :=
  rfl

/-- Putting a parent touches one key, which is no key of a record unless its id says so. -/
theorem hash_withParent {id : String} (hid : id ≠ "parent:" ++ parent.uid) :
    (store.withParent index parent).hash (Key.record index id) =
      store.hash (Key.record index id) := by
  rw [withParent, hash_hashSet, Key.parent_eq_record, if_neg (mt Key.record_inj.mp hid)]

variable {store index parent}

/-- **The ids that a parent lists** are those that were put, if none has a comma in it. -/
theorem items?_put (h : ∀ id ∈ parent.items, Text.IsEntry id) :
    (store.withParent index parent).items? index parent.uid = some parent.items := by
  have hstored : ((store.withParent index parent).hash (Key.parent index parent.uid)).get?
      ParentDocument.itemsField = some (Text.encode (Text.joined "," parent.items)) := by
    rw [withParent, hash_hashSet, if_pos rfl, StoredHash.get?_merge]
    rfl
  rw [items?, hstored, Option.map_some, Text.decodeLossy_encode, splitList_joined h]

theorem chunk?_of_hasRecord {id : String} (h : store.HasRecord index id) :
    store.chunk? index id = some (Hit.readFields none (store.hash (Key.record index id))) := by
  have hne := h.hash_ne_nil
  rw [chunk?]
  split
  · rename_i hnil
    exact absurd hnil hne
  · rfl

/-- The view of a parent has one chunk for each id that it lists. -/
theorem view?_put
    (hitems : ∀ id ∈ parent.items, store.HasRecord index id ∧ ',' ∉ id.toList) :
    (store.withParent index parent).view? index parent.uid =
      some ⟨parent.uid, parent.items.map fun id =>
        Hit.readFields none ((store.withParent index parent).hash (Key.record index id))⟩ := by
  have hentries : ∀ id ∈ parent.items, Text.IsEntry id := by
    intro id hid
    obtain ⟨source, hsource⟩ := (hitems id hid).1.accepted
    obtain ⟨htrim, hne⟩ := Source.trim_of_explicitId? hsource
    exact ⟨htrim, hne, (hitems id hid).2⟩
  have hchunks : parent.items.filterMap ((store.withParent index parent).chunk? index) =
      parent.items.map fun id =>
        Hit.readFields none ((store.withParent index parent).hash (Key.record index id)) := by
    rw [← List.filterMap_eq_map]
    refine List.filterMap_congr fun id hid => ?_
    exact chunk?_of_hasRecord ((hitems id hid).1.hashSet _ _)
  rw [view?, items?_put hentries, Option.map_some, hchunks]

end MemoryStore

namespace ParentView

variable {hits : List Hit} {first last : List String} {limit : Nat}

/-- **A parent that was put is expanded to its records**, one for each id that it lists and in their
order, if no id has a comma in it. There is one view of it among those of the parents that are named
before and after, as long as the limit reaches so far. -/
theorem expand_put (store : MemoryStore) (index : String) (parent : ParentDocument)
    (hitems : ∀ id ∈ parent.items, store.HasRecord index id ∧ ',' ∉ id.toList)
    (hreferences : references hits = first ++ parent.uid :: last)
    (hlimit : (first.filterMap ((store.withParent index parent).view? index)).length < limit) :
    let after := store.withParent index parent
    let view : ParentView := ⟨parent.uid, parent.items.map fun id =>
      Hit.readFields none (after.hash (Key.record index id))⟩
    (parent.put index).runFrom store = (.ok (), after) ∧
      (∀ id, id ≠ "parent:" ++ parent.uid →
        after.hash (Key.record index id) = store.hash (Key.record index id)) ∧
      ∃ before behind, (expand index hits limit).runFrom after =
          (.ok (before ++ view :: behind), after) ∧
        (∀ other ∈ before ++ behind, other.uid ≠ parent.uid) ∧
        (references hits = [parent.uid] → before = [] ∧ behind = []) := by
  intro after view
  have hnodup := nodup_references hits
  rw [hreferences, List.nodup_middle, List.nodup_cons, List.mem_append, not_or] at hnodup
  obtain ⟨⟨hfirst, hlast⟩, -⟩ := hnodup
  obtain ⟨behind, hbehind, hviews⟩ :=
    MemoryStore.views_eq_append (MemoryStore.view?_put hitems) hreferences hlimit
  refine ⟨store.runFrom_put index parent, fun id => store.hash_withParent index parent,
    first.filterMap (after.view? index), behind, ?_, fun other hother => ?_, fun hsingle => ?_⟩
  · rw [runFrom_expand, hviews]
  · rcases List.mem_append.mp hother with hother | hother
    · exact MemoryStore.uid_ne_of_mem_views hfirst hother
    · exact MemoryStore.uid_ne_of_mem_views hlast (hbehind.mem hother)
  · obtain ⟨rfl, rfl⟩ : first = [] ∧ last = [] := by
      rw [hreferences] at hsingle
      cases first with
      | nil => exact ⟨rfl, (List.cons.inj hsingle).2⟩
      | cons uid first => simp at hsingle
    exact ⟨rfl, List.prefix_nil.mp hbehind⟩

/-- A store with two records, under ids of which one has a comma in it. -/
private def twoChunks : MemoryStore :=
  (MemoryStore.empty.hashSet (Key.record "i" "1") [(Key.idAttribute, .text "1")]).hashSet
    (Key.record "i" "a,b") [(Key.idAttribute, .text "a,b")]

private theorem hasRecord_twoChunks (id : String) (h : id = "1" ∨ id = "a,b") :
    twoChunks.HasRecord "i" id := by
  rcases h with rfl | rfl
  · exact ⟨⟨[("id", .str "1")], by decide +kernel⟩, Key.idAttribute, by decide +kernel⟩
  · exact ⟨⟨[("id", .str "a,b")], by decide +kernel⟩, Key.idAttribute, by decide +kernel⟩

private def chunkOfParent : Hit := ⟨"1", [(Query.parentField, .str "p")]⟩

/-- A parent that lists one record twice. -/
theorem expand_put_repeated :
    ∃ views, (expand "i" [chunkOfParent] 1).runFrom (twoChunks.withParent "i" ⟨"p", ["1", "1"]⟩) =
        (.ok views, twoChunks.withParent "i" ⟨"p", ["1", "1"]⟩) ∧
      views.map (·.chunks.length) = [2] := by
  have hreferences : references [chunkOfParent] = [] ++ "p" :: [] := by decide +kernel
  have hitems : ∀ id ∈ (⟨"p", ["1", "1"]⟩ : ParentDocument).items,
      twoChunks.HasRecord "i" id ∧ ',' ∉ id.toList := by
    intro id hid
    obtain rfl : id = "1" := by simpa using hid
    exact ⟨hasRecord_twoChunks "1" (.inl rfl), by decide⟩
  obtain ⟨-, -, before, behind, hexpand, -, hnone⟩ :=
    expand_put twoChunks "i" ⟨"p", ["1", "1"]⟩ hitems hreferences (show 0 < 1 by decide)
  obtain ⟨rfl, rfl⟩ := hnone hreferences
  exact ⟨_, hexpand, rfl⟩

/-- A record under an id with a comma in it is lost. -/
theorem not_expand_put :
    ¬∀ (store : MemoryStore) (index : String) (parent : ParentDocument) (hits : List Hit)
      (limit : Nat), (∀ id ∈ parent.items, store.HasRecord index id) →
      references hits = [parent.uid] → 1 ≤ limit →
      ((expand index hits limit).runFrom (store.withParent index parent)).1 =
        .ok [⟨parent.uid, parent.items.map fun id =>
          Hit.readFields none ((store.withParent index parent).hash (Key.record index id))⟩] := by
  intro hall
  have hexpand := hall twoChunks "i" ⟨"p", ["a,b"]⟩ [chunkOfParent] 1
    (List.forall_mem_singleton.mpr (hasRecord_twoChunks "a,b" (.inr rfl))) (by decide +kernel)
    le_rfl
  have hlost : (((expand "i" [chunkOfParent] 1).runFrom
      (twoChunks.withParent "i" ⟨"p", ["a,b"]⟩)).1.toOption.map fun views =>
        views.map (·.chunks.length)) = some [0] := by decide +kernel
  rw [hexpand] at hlost
  cases hlost

end ParentView

end HybridSearch
