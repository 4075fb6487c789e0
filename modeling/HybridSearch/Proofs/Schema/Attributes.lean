import HybridSearch.Proofs.Text.Affix
import HybridSearch.Schema.Index
import HybridSearch.Search.Hit
import Mathlib.Data.List.Nodup

/-!
# The attributes of an index

However the names of declared fields clash, the attributes compiled from them have different names,
and next to every vector there is an attribute for its source. Which attributes of an index are
vectors can be told from their declarations, and from their names they can be told apart from the
attribute of the id.

## Main definitions

* `Attribute.Coherent` — attributes as an index may have them.
* `IndexDefinition.WellFormed` — a definition as it may stand under a name.
* `IndexDefinition.DeclaresVector` — the definition declares a vector of that name.

## Main results

* `Attribute.Coherent.addNew`, `Attribute.Coherent.addField`, `Attribute.Coherent.append` — adding
  attributes keeps them coherent.
* `Attribute.coherent_compile` — compiled attributes are coherent.
* `IndexDefinition.wellFormed_compile`, `IndexDefinition.WellFormed.append` — definitions are made
  and changed well-formed.
* `IndexDefinition.DeclaresVector.isVectorAttribute` — the name of a vector ends as such names do.
* `IndexDefinition.isVector_iff` — what hits leave out are the declared vectors.
-/

namespace HybridSearch

namespace Attribute

variable {space : VectorSpace} {attributes : List Attribute}

/-! ### Adding one attribute -/

theorem mem_addNew {new a : Attribute} (h : a ∈ addNew attributes new) :
    a ∈ attributes ∨ a = new := by
  rw [addNew] at h
  split at h
  · exact Or.inl h
  · simpa using h

theorem subset_addNew (new : Attribute) : attributes ⊆ addNew attributes new := by
  rw [addNew]
  split
  · exact List.Subset.refl _
  · exact List.subset_append_left _ _

/-- Afterwards there is an attribute of that name, an older one if there was one. -/
theorem exists_mem_addNew (attributes : List Attribute) (new : Attribute) :
    ∃ a ∈ addNew attributes new, a.name = new.name := by
  rw [addNew]
  split
  · rename_i h
    obtain ⟨a, ha, hname⟩ := List.any_eq_true.mp h
    exact ⟨a, ha, beq_iff_eq.mp hname⟩
  · exact ⟨new, by simp, rfl⟩

theorem nodup_addNew (h : (attributes.map name).Nodup) (new : Attribute) :
    ((addNew attributes new).map name).Nodup := by
  rw [addNew]
  split
  · exact h
  · rename_i hnew
    rw [List.map_append, List.nodup_append]
    refine ⟨h, List.nodup_singleton _, ?_⟩
    rintro _ hold _ hname rfl
    obtain ⟨old, hmem, hold⟩ := List.mem_map.mp hold
    obtain rfl := List.mem_singleton.mp hname
    exact hnew (List.any_eq_true.mpr ⟨old, hmem, beq_iff_eq.mpr hold⟩)

/-! ### Coherent attributes -/

/-- A vector is not sortable, lies in the given space and is named after an attribute that is
there. -/
def IsShadow (space : VectorSpace) (attributes : List Attribute) (a : Attribute) : Prop :=
  ∀ s, a.kind = .vector s →
    s = space ∧ a.sortable = false ∧ ∃ b ∈ attributes, a.name = Key.vectorAttribute b.name

theorem IsShadow.mono {more : List Attribute} {a : Attribute} (h : IsShadow space attributes a)
    (hsub : attributes ⊆ more) : IsShadow space more a := by
  intro s hs
  obtain ⟨hspace, hsort, b, hb, hname⟩ := h s hs
  exact ⟨hspace, hsort, b, hsub hb, hname⟩

/-- Names are different, and every vector shadows an attribute. -/
structure Coherent (space : VectorSpace) (attributes : List Attribute) : Prop where
  nodup : (attributes.map name).Nodup
  isShadow : ∀ a ∈ attributes, IsShadow space attributes a

namespace Coherent

theorem nil : Coherent space [] := ⟨List.nodup_nil, nofun⟩

theorem addNew {new : Attribute} (h : Coherent space attributes)
    (hnew : IsShadow space attributes new) : Coherent space (addNew attributes new) where
  nodup := nodup_addNew h.nodup new
  isShadow a ha := by
    rcases mem_addNew ha with hmem | rfl
    · exact (h.isShadow a hmem).mono (subset_addNew new)
    · exact hnew.mono (subset_addNew a)

/-- The two attributes of a vector come one after the other, so the second finds the first, or the
one that the first gave way to. -/
theorem addField (h : Coherent space attributes) (field : Field) :
    Coherent space ((field.attributes space).foldl Attribute.addNew attributes) := by
  rw [Field.attributes]
  split
  · have htext : Coherent space (Attribute.addNew attributes ⟨field.name, .text, field.sortable⟩) :=
      h.addNew nofun
    obtain ⟨source, hmem, hname⟩ :=
      exists_mem_addNew attributes ⟨field.name, .text, field.sortable⟩
    refine htext.addNew ?_
    rintro s ⟨⟩
    exact ⟨rfl, rfl, source, hmem, by rw [hname]⟩
  · exact h.addNew nofun
  · exact h.addNew nofun
  · exact h.addNew nofun

theorem append {new : List Attribute} (h : Coherent space attributes) (hnew : Coherent space new)
    (hdisjoint : ∀ a ∈ new, ∀ b ∈ attributes, b.name ≠ a.name) :
    Coherent space (attributes ++ new) where
  nodup := by
    rw [List.map_append, List.nodup_append]
    refine ⟨h.nodup, hnew.nodup, ?_⟩
    rintro _ hold _ hname rfl
    obtain ⟨b, hb, hb'⟩ := List.mem_map.mp hold
    obtain ⟨a, ha, ha'⟩ := List.mem_map.mp hname
    exact hdisjoint a ha b hb (hb'.trans ha'.symm)
  isShadow a ha := by
    rcases List.mem_append.mp ha with hmem | hmem
    · exact (h.isShadow a hmem).mono (List.subset_append_left _ _)
    · exact (hnew.isShadow a hmem).mono (List.subset_append_right _ _)

end Coherent

theorem coherent_compile (space : VectorSpace) (fields : List Field) :
    Coherent space (compile space fields) := by
  rw [compile, List.foldl_flatMap]
  suffices h : ∀ attributes, Coherent space attributes →
      Coherent space (fields.foldl (fun attributes field =>
        (field.attributes space).foldl Attribute.addNew attributes) attributes) from
    h [] Coherent.nil
  induction fields with
  | nil => exact fun _ h => h
  | cons field fields ih => exact fun _ h => ih _ (h.addField field)

end Attribute

/-! ### Fields by name -/

namespace FieldSet

theorem get?_cons (field : Field) (rest : FieldSet) (name : String) :
    get? (field :: rest) name = if field.name = name then some field else get? rest name := by
  rw [get?, List.find?_cons, get?]
  by_cases hname : field.name = name
  · rw [if_pos hname, beq_iff_eq.mpr hname]
  · rw [if_neg hname, beq_eq_false_iff_ne.mpr hname]

theorem mem_of_get?_eq_some {fields : FieldSet} {name : String} {field : Field}
    (h : fields.get? name = some field) : field ∈ fields ∧ field.name = name :=
  ⟨List.mem_of_find?_eq_some h, by simpa using List.find?_some h⟩

/-- Where names are different, every field is found by its own. -/
theorem get?_of_mem {fields : FieldSet} (hnodup : (fields.map Field.name).Nodup) {field : Field}
    (h : field ∈ fields) : fields.get? field.name = some field := by
  induction fields with
  | nil => cases h
  | cons head rest ih =>
    obtain ⟨hhead, hrest⟩ := List.nodup_cons.mp hnodup
    rw [get?, List.find?_cons]
    rcases List.mem_cons.mp h with rfl | hmem
    · rw [beq_self_eq_true]
    · have hne : (head.name == field.name) = false :=
        beq_eq_false_iff_ne.mpr fun heq => hhead (heq ▸ List.mem_map_of_mem hmem)
      rw [hne]
      exact ih hrest hmem

end FieldSet

/-! ### Definitions -/

namespace IndexDefinition

/-- A definition that stands under a name: its own, with the keys of that name, coherent attributes
and one of them for the id. -/
structure WellFormed (space : VectorSpace) (index : String) (definition : IndexDefinition) :
    Prop where
  name_eq : definition.name = index
  keySpace_eq : definition.keySpace = Key.space index
  coherent : Attribute.Coherent space definition.attributes
  id_mem : Key.idAttribute ∈ definition.attributes.map Attribute.name

variable {space : VectorSpace} {index : String} {definition : IndexDefinition}

theorem map_name_fieldSet (definition : IndexDefinition) :
    definition.fieldSet.map Field.name = definition.attributes.map Attribute.name := by
  rw [fieldSet, List.map_map]
  rfl

theorem WellFormed.nodup_fieldSet (h : definition.WellFormed space index) :
    (definition.fieldSet.map Field.name).Nodup := by
  rw [map_name_fieldSet]
  exact h.coherent.nodup

theorem WellFormed.count_id (h : definition.WellFormed space index) :
    (definition.attributes.map Attribute.name).count Key.idAttribute = 1 :=
  List.count_eq_one_of_mem h.coherent.nodup h.id_mem

theorem wellFormed_compile (index : String) (space : VectorSpace) (fields : List Field) :
    (compile index space fields).WellFormed space index where
  name_eq := rfl
  keySpace_eq := rfl
  coherent := (Attribute.coherent_compile space fields).addNew nofun
  id_mem := by
    obtain ⟨a, hmem, hname⟩ := Attribute.exists_mem_addNew (Attribute.compile space fields)
      ⟨Key.idAttribute, .tag, false⟩
    exact List.mem_map.mpr ⟨a, hmem, hname⟩

theorem WellFormed.append (h : definition.WellFormed space index) {new : List Attribute}
    (hnew : Attribute.Coherent space new)
    (hdisjoint : ∀ a ∈ new, ∀ b ∈ definition.attributes, b.name ≠ a.name) :
    { definition with attributes := definition.attributes ++ new }.WellFormed space index where
  name_eq := h.name_eq
  keySpace_eq := h.keySpace_eq
  coherent := h.coherent.append hnew hdisjoint
  id_mem := by
    rw [List.map_append]
    exact List.mem_append_left _ h.id_mem

end IndexDefinition

/-! ### Vectors -/

@[simp] theorem Key.isVectorAttribute_vectorAttribute (field : String) :
    isVectorAttribute (vectorAttribute field) = true := by
  rw [isVectorAttribute, Text.isSome_endsWith?]
  exact ⟨field, rfl⟩

/-- The definition declares a vector of that name. -/
def IndexDefinition.DeclaresVector (definition : IndexDefinition) (name : String) : Prop :=
  ∃ a ∈ definition.attributes, a.name = name ∧ a.kind.type = .vector

namespace IndexDefinition

variable {definition changed : IndexDefinition} {space : VectorSpace} {index name : String}

theorem DeclaresVector.mono (h : definition.DeclaresVector name)
    (hsub : definition.attributes ⊆ changed.attributes) : changed.DeclaresVector name := by
  obtain ⟨a, ha, hname, htype⟩ := h
  exact ⟨a, hsub ha, hname, htype⟩

theorem DeclaresVector.isVectorAttribute (h : definition.DeclaresVector name)
    (hwell : definition.WellFormed space index) : Key.isVectorAttribute name = true := by
  obtain ⟨⟨_, kind, _⟩, ha, rfl, htype⟩ := h
  cases kind with
  | vector space =>
    obtain ⟨-, -, b, -, hname⟩ := hwell.coherent.isShadow _ ha space rfl
    rw [hname, Key.isVectorAttribute_vectorAttribute]
  | text => cases htype
  | tag => cases htype
  | numeric => cases htype

/-- Names are different, so the first attribute of a name is the only one. -/
theorem isVector_iff (hwell : definition.WellFormed space index) :
    Hit.isVector (some definition.fieldSet) name = true ↔ definition.DeclaresVector name := by
  rw [Hit.isVector, Option.any_eq_true]
  constructor
  · rintro ⟨field, hget, htype⟩
    obtain ⟨hmem, rfl⟩ := FieldSet.mem_of_get?_eq_some hget
    obtain ⟨a, ha, rfl⟩ := List.mem_map.mp hmem
    exact ⟨a, ha, rfl, beq_iff_eq.mp htype⟩
  · rintro ⟨a, ha, rfl, htype⟩
    exact ⟨a.field, FieldSet.get?_of_mem hwell.nodup_fieldSet (List.mem_map_of_mem ha),
      beq_iff_eq.mpr htype⟩

end IndexDefinition

end HybridSearch
