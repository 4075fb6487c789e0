import HybridSearch.Proofs.Schema.Attributes
import HybridSearch.Proofs.Store.Lookup
import HybridSearch.Store.Memory

/-!
# The catalogue of the store in memory

When the catalogue is changed and to what, and that it holds nothing but well-formed definitions.

## Main definitions

* `MemoryStore.Catalogued` — every definition is well-formed for the name it stands under.

## Main results

* `MemoryStore.createIndex_eq_ok_iff`, `MemoryStore.alterIndex_eq_ok_iff`,
  `MemoryStore.dropIndex_eq_ok_iff` — when a change succeeds, and the store after it.
* `MemoryStore.Catalogued.createIndex`, `MemoryStore.Catalogued.alterIndex`,
  `MemoryStore.Catalogued.dropIndex` — each change keeps the catalogue well-formed.
-/

namespace HybridSearch.MemoryStore

variable {store changed : MemoryStore} {index : String}

/-! ### Changes -/

theorem createIndex_eq_ok_iff {definition : IndexDefinition} :
    store.createIndex definition = .ok changed ↔
      store.indexes.get? definition.name = none ∧
        changed = { store with indexes := store.indexes.insert definition.name definition } := by
  rw [createIndex]
  split
  · rename_i h
    simp [h]
  · rename_i h
    simp [h, eq_comm]

theorem createIndex_of_some {definition old : IndexDefinition}
    (h : store.indexes.get? definition.name = some old) :
    store.createIndex definition = .error (.schemaConflict definition.name) := by
  rw [createIndex, h]

theorem eq_of_createIndex_eq_error {definition : IndexDefinition} {cause : SearchError}
    (h : store.createIndex definition = .error cause) :
    cause = .schemaConflict definition.name := by
  rw [createIndex] at h
  split at h
  · exact (Except.error.inj h).symm
  · cases h

theorem definition_eq_ok_iff {definition : IndexDefinition} :
    store.definition index = .ok definition ↔ store.indexes.get? index = some definition := by
  rw [MemoryStore.definition]
  split
  · rename_i h
    simp [h]
  · rename_i h
    simp [h]

theorem alterIndex_eq_ok_iff {attributes : List Attribute} :
    store.alterIndex index attributes = .ok changed ↔
      ∃ definition, store.indexes.get? index = some definition ∧
        (∀ new ∈ attributes, ∀ old ∈ definition.attributes, old.name ≠ new.name) ∧
        changed = { store with
          indexes := store.indexes.insert index
            { definition with attributes := definition.attributes ++ attributes } } := by
  rw [alterIndex]
  cases hdef : store.definition index with
  | error cause =>
    refine iff_of_false nofun ?_
    rintro ⟨definition, hget, -⟩
    exact absurd (definition_eq_ok_iff.mpr hget) (by simp [hdef])
  | ok definition =>
    have hget := definition_eq_ok_iff.mp hdef
    simp only [bind, Except.bind]
    split
    · rename_i duplicate hfind
      refine iff_of_false nofun ?_
      rintro ⟨other, hother, hdisjoint, -⟩
      obtain rfl := Option.some.inj (hget.symm.trans hother)
      have hany := List.find?_some hfind
      obtain ⟨old, hold, hname⟩ := List.any_eq_true.mp hany
      exact hdisjoint duplicate (List.mem_of_find?_eq_some hfind) old hold (beq_iff_eq.mp hname)
    · rename_i hfind
      constructor
      · rintro ⟨⟩
        refine ⟨definition, hget, fun new hnew old hold hname => ?_, rfl⟩
        exact List.find?_eq_none.mp hfind new hnew
          (List.any_eq_true.mpr ⟨old, hold, beq_iff_eq.mpr hname⟩)
      · rintro ⟨other, hother, -, rfl⟩
        obtain rfl := Option.some.inj (hget.symm.trans hother)
        rfl

theorem dropIndex_eq_ok_iff :
    store.dropIndex index = .ok changed ↔
      (store.indexes.get? index).isSome ∧
        changed = { store with indexes := store.indexes.erase index } := by
  rw [dropIndex]
  cases hdef : store.definition index with
  | error cause =>
    refine iff_of_false nofun ?_
    rintro ⟨hsome, -⟩
    obtain ⟨definition, hget⟩ := Option.isSome_iff_exists.mp hsome
    exact absurd (definition_eq_ok_iff.mpr hget) (by simp [hdef])
  | ok definition =>
    simp [bind, Except.bind, definition_eq_ok_iff.mp hdef, eq_comm]

/-! ### Well-formed definitions -/

/-- Every definition is well-formed for the name it stands under. -/
def Catalogued (space : VectorSpace) (store : MemoryStore) : Prop :=
  ∀ index definition, store.indexes.get? index = some definition →
    definition.WellFormed space index

namespace Catalogued

variable {space : VectorSpace}

theorem empty : Catalogued space .empty := nofun

theorem createIndex (h : store.Catalogued space) {fields : List Field}
    (hcreate : store.createIndex (.compile index space fields) = .ok changed) :
    changed.Catalogued space := by
  obtain ⟨-, rfl⟩ := createIndex_eq_ok_iff.mp hcreate
  intro name definition hget
  rw [Dict.get?_insert] at hget
  split at hget
  · rename_i hname
    obtain rfl := Option.some.inj hget
    rw [hname]
    exact IndexDefinition.wellFormed_compile index space fields
  · exact h name definition hget

theorem alterIndex (h : store.Catalogued space) {fields : List Field}
    (halter : store.alterIndex index (Attribute.compile space fields) = .ok changed) :
    changed.Catalogued space := by
  obtain ⟨old, hold, hdisjoint, rfl⟩ := alterIndex_eq_ok_iff.mp halter
  intro name definition hget
  rw [Dict.get?_insert] at hget
  split at hget
  · rename_i hname
    obtain rfl := Option.some.inj hget
    rw [hname]
    exact (h index old hold).append (Attribute.coherent_compile space fields) hdisjoint
  · exact h name definition hget

theorem dropIndex (h : store.Catalogued space) (hdrop : store.dropIndex index = .ok changed) :
    changed.Catalogued space := by
  obtain ⟨-, rfl⟩ := dropIndex_eq_ok_iff.mp hdrop
  intro name definition hget
  rw [Dict.get?_erase] at hget
  split at hget
  · exact absurd hget nofun
  · exact h name definition hget

/-- The catalogue alone decides. -/
theorem of_indexes_eq (h : store.Catalogued space) (heq : changed.indexes = store.indexes) :
    changed.Catalogued space := by
  rw [Catalogued, heq]
  exact h

end Catalogued

end HybridSearch.MemoryStore
