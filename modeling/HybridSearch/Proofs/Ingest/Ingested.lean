import HybridSearch.Proofs.Ingest.Values
import HybridSearch.Proofs.Ingest.Writes
import HybridSearch.Proofs.Search.Membership

/-!
# Stores of ingested records

A record that is written where there is one joins its fields to those that are there. Under every
key of an index whose records were made for its attributes there are therefore fields of these
attributes alone, each once.

## Main definitions

* `StoredHash.Ingested` — fields that were written by records made for given attributes.
* `MemoryStore.IngestedUnder` — a store in which all members of an index are such.

## Main results

* `StoredHash.Ingested.mem_attributes` — the fields are named as the attributes of the index.
* `MemoryStore.IngestedUnder.ends` — ingestion for the attributes of the index keeps its members so.
-/

namespace HybridSearch

/-- Fields that were written by records made for the given attributes, one after the other. -/
inductive StoredHash.Ingested (fields : FieldSet) : StoredHash → Prop
  | nil : Ingested fields []
  | merge {hash : StoredHash} {record : Record} {options : CoercionOptions} {index : String}
      {source : Json.Members} {intake after : Intake} (h : Ingested fields hash)
      (hrecord : (Record.ofSource options index fields source).runFrom intake =
        (.ok record, after)) :
      Ingested fields (hash.merge record.fields)

/-- The values of a record stand under the names of attributes and under that of the id. -/
theorem Record.mem_names_of_ofSource {options : CoercionOptions} {index : String}
    {fields : FieldSet} {source : Json.Members} {intake after : Intake} {record : Record}
    (h : (ofSource options index fields source).runFrom intake = (.ok record, after))
    {name : String} (hname : name ∈ record.fields.map Prod.fst) :
    name ∈ fields.map Field.name ∨ name = Key.idAttribute := by
  obtain ⟨values, _, hvalues, hrecord⟩ := of_ofSource h
  rw [hrecord, ofValues, List.map_append, List.mem_append] at hname
  rcases hname with hname | hname
  · exact Or.inl ((Source.sublist_of_values hvalues).subset hname)
  · exact Or.inr (List.mem_singleton.mp hname)

namespace StoredHash.Ingested

variable {fields : FieldSet} {hash : StoredHash} {name : String}

theorem nodup (h : Ingested fields hash) : (hash.map Prod.fst).Nodup := by
  induction h with
  | nil => exact List.nodup_nil
  | merge _ _ ih => exact nodup_merge ih _

theorem mem_names (h : Ingested fields hash) (hname : (hash.get? name).isSome) :
    name ∈ fields.map Field.name ∨ name = Key.idAttribute := by
  induction h with
  | nil => cases hname
  | merge _ hrecord ih =>
    rw [get?_merge, Option.isSome_or, Bool.or_eq_true, Option.isSome_map] at hname
    rcases hname with hname | hname
    · obtain ⟨value, hvalue⟩ := Option.isSome_iff_exists.mp hname
      have hmem := List.mem_reverse.mp (mem_of_lookup hvalue)
      exact Record.mem_names_of_ofSource hrecord (List.mem_map_of_mem hmem)
    · exact ih hname

/-- Where the attributes are those of an index, the id is one of them. -/
theorem mem_attributes {definition : IndexDefinition} {space : VectorSpace} {index : String}
    (h : Ingested definition.fieldSet hash) (hwell : definition.WellFormed space index)
    (hname : (hash.get? name).isSome) : name ∈ definition.attributes.map Attribute.name := by
  rw [← definition.map_name_fieldSet]
  refine (h.mem_names hname).elim id fun hid => ?_
  rw [hid, definition.map_name_fieldSet]
  exact hwell.id_mem

end StoredHash.Ingested

/-! ### Stores -/

/-- The members of the index were written by records made for its attributes. -/
def MemoryStore.IngestedUnder (definition : IndexDefinition) (store : MemoryStore) : Prop :=
  ∀ entry ∈ store.members definition, StoredHash.Ingested definition.fieldSet entry.2

namespace MemoryStore.IngestedUnder

variable {definition : IndexDefinition} {store : MemoryStore} {options : CoercionOptions}
  {index : String}

theorem hashSet (h : store.IngestedUnder definition) {source : Json.Members}
    {intake after : Intake} {record : Record}
    (hrecord : (Record.ofSource options index definition.fieldSet source).runFrom intake =
      (.ok record, after)) :
    (store.hashSet record.key record.fields).IngestedUnder definition := by
  rintro ⟨key, hash⟩ hmember
  obtain ⟨hget, hstart⟩ := mem_members_iff.mp hmember
  rw [get?_hashSet] at hget
  split at hget
  · rename_i hkey
    obtain rfl := Option.some.inj hget
    refine .merge ?_ hrecord
    rw [hash_eq]
    cases hold : store.get? record.key with
    | none => exact .nil
    | some old => exact h (record.key, old) (mem_members_iff.mpr ⟨hold, hkey ▸ hstart⟩)
  · exact h (key, hash) (mem_members_iff.mpr ⟨hget, hstart⟩)

/-- One row for the attributes of the index. -/
theorem row {content : Except IngestError Json} {workspace after : Workspace MemoryStore}
    {result : Except IngestError Record}
    (hrow : (Ingest.row options index definition.fieldSet content).runFrom workspace =
      (result, after))
    (h : workspace.store.IngestedUnder definition) : after.store.IngestedUnder definition := by
  have hafter := (Ingest.runFrom_row options index definition.fieldSet content workspace 0).1
  rw [hrow] at hafter
  rw [hafter]
  cases result with
  | error cause => exact h
  | ok record =>
    obtain ⟨source, _, _, hrecord⟩ :=
      Ingest.exists_ofSource_of_row options index definition.fieldSet hrow
    exact h.hashSet hrecord

/-- **Ingestion for the attributes of the index** keeps its members ingested under it. -/
theorem ends {workspace after : Workspace MemoryStore} {outcomes : List IngestReport.Outcome}
    (hends : Ingest.Ends options index definition.fieldSet workspace outcomes after)
    (h : workspace.store.IngestedUnder definition) : after.store.IngestedUnder definition := by
  induction hends with
  | nil workspace => exact h
  | cons number content hrow hrest ih => exact ih (row hrow h)

end MemoryStore.IngestedUnder

end HybridSearch
