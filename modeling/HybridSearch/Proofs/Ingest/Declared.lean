import HybridSearch.Proofs.Ingest.Assignment
import HybridSearch.Proofs.Ingest.Making
import HybridSearch.Proofs.Ingest.RoundTrip
import HybridSearch.Proofs.Schema.Expansion
import HybridSearch.Proofs.Schema.Key

/-!
# Declared fields in records

A record has a value for an attribute if some key of its row is read as the name that the attribute
takes its value from. A field is declared under its own name, but where an earlier vector is stored
under that name its attribute takes the source of the vector.

## Main results

* `Record.isSome_get?_iff` — which attributes a record has values for.
* `Record.holds_declared` — a field that the row has under its name is in the record, unless its
  attribute belongs to a vector.
* `Record.not_holds_declared` — a field whose attribute belongs to a vector.
-/

namespace HybridSearch

variable {options : CoercionOptions} {index : String} {fields : FieldSet} {source : Json.Members}
  {intake since : Intake} {record : Record} {field : Field}

/-- A record has a value for an attribute if some key of its row is read as the name that the
attribute takes its value from. -/
theorem Record.isSome_get?_iff (hnodup : (fields.map Field.name).Nodup)
    (h : (ofSource options index fields source).runFrom intake = (.ok record, since))
    (hfield : field ∈ fields) (hid : field.name ≠ Key.idAttribute) :
    (record.get? field.name).isSome ↔
      ∃ key ∈ Entries.keys source, field.LooksUp (Key.ofSource key) := by
  constructor
  · intro hsome
    obtain ⟨value, hvalue⟩ := Option.isSome_iff_exists.mp hsome
    rcases gives_of_get? h hvalue with ⟨other, hother, hname, -, raw, _, _, hraw, -⟩ | ⟨hname, -⟩
    · have hsame : other = field := by
        have hget := FieldSet.get?_of_mem hnodup hother
        rw [hname, FieldSet.get?_of_mem hnodup hfield] at hget
        exact (Option.some.inj hget).symm
      rw [hsame] at hraw
      by_contra hnone
      rw [Source.find?_eq_none_iff.mpr hnone] at hraw
      cases hraw
    · exact absurd hname hid
  · intro hkey
    obtain ⟨raw, hraw⟩ : ∃ raw, Source.find? source (Source.wanted field) = some raw :=
      Option.ne_none_iff_exists'.mp fun hnone => Source.find?_eq_none_iff.mp hnone hkey
    obtain ⟨value, _, _, hget, -⟩ :=
      exists_value_of_find? h (FieldSet.get?_of_mem hnodup hfield) hid hraw
    exact Option.isSome_of_eq_some hget

/-- An attribute that stays is in the index. -/
theorem IndexDefinition.mem_fieldSet_compile {space : VectorSpace} {declared : List Field}
    {a : Attribute} (index : String) (h : Attribute.IsSole (Attribute.compile space declared) a) :
    a.field ∈ (compile index space declared).fieldSet := by
  have hmem : a ∈ (Attribute.compile space declared).filter fun b => b.name = a.name := by
    rw [h]
    exact List.mem_singleton_self a
  exact List.mem_map_of_mem (Attribute.subset_addNew _ (List.mem_of_mem_filter hmem))

namespace Record

variable {space : VectorSpace}

/-- **A declared field is not dropped.** A field that the row has under its name, which is not the
id and holds no point, is in the record, unless a vector declared before it is stored under that
name: then the record holds that vector if some key is read as the name of the vector. -/
theorem holds_declared (before : List Field) (field : Field) (after : List Field)
    (hnodup : ((before ++ field :: after).map Field.name).Nodup)
    (hid : field.name ≠ Key.idAttribute) (hpoint : '.' ∉ field.name.toList)
    (hkey : field.name ∈ Entries.keys source)
    (h : (ofSource options index
      (IndexDefinition.compile index space (before ++ field :: after)).fieldSet source).runFrom
        intake = (.ok record, since)) :
    ((∀ other ∈ before, other.type = .vector → Key.vectorAttribute other.name ≠ field.name) →
        (record.get? field.name).isSome) ∧
      ∀ other ∈ before, other.type = .vector → Key.vectorAttribute other.name = field.name →
        ((record.get? field.name).isSome ↔
          ∃ key ∈ Entries.keys source, Key.ofSource key = other.name) := by
  have hfields :=
    (IndexDefinition.wellFormed_compile index space (before ++ field :: after)).nodup_fieldSet
  constructor
  · intro hvectors
    have hsole : Attribute.IsSole (Attribute.compile space (before ++ field :: after)) field.own :=
      Attribute.isSole_own (Attribute.name_ne_of_nodup hnodup) hvectors
    have hmem := IndexDefinition.mem_fieldSet_compile index hsole
    refine (isSome_get?_iff hfields h hmem hid).mpr ⟨field.name, hkey, ?_⟩
    rw [Key.ofSource_eq_self hpoint]
    refine .own ?_
    cases htype : field.type <;> simp [Field.own, Attribute.field, htype, FieldType.kind,
      AttributeKind.type]
  · intro other hother hvector hname
    have hsole : Attribute.IsSole (Attribute.compile space (before ++ field :: after))
        (other.vector space) :=
      Attribute.isSole_vector_of_clash hnodup hother hvector hname
    have hmem := IndexDefinition.mem_fieldSet_compile index hsole
    have hget := isSome_get?_iff hfields h hmem (hname.trans_ne hid)
    have hlooksUp (name : String) :
        (other.vector space).field.LooksUp name ↔ name = other.name := by
      rw [Source.looksUp_iff, Source.looksUp_iff.mp (.embedded rfl rfl), eq_comm]
    simp only [hlooksUp] at hget
    rwa [show (other.vector space).field.name = field.name from hname] at hget

private def titleField : Field := ⟨"title", .vector, false⟩

private def priceField : Field := ⟨"price", .numeric, true⟩

private def storedField : Field := ⟨"title_vec", .tag, false⟩

private def making (declared : List Field) (source : Json.Members) :
    Attempt IngestError Intake Record :=
  ofSource .standard "i" (IndexDefinition.compile "i" ⟨1, .l2⟩ declared).fieldSet source

/-- A price, and a tag under whose name the vector of a title is stored. -/
theorem holds_declared_of_title :
    (∃ record after,
      (making [titleField, priceField] [("price", .str "$2.50")]).runFrom .sample =
        (.ok record, after) ∧ (record.get? "price").isSome) ∧
    ∃ record after,
      (making [titleField, storedField] [("title", .str "t"), ("title_vec", .str "x")]).runFrom
        .sample = (.ok record, after) ∧ (record.get? "title_vec").isSome := by
  constructor
  · obtain ⟨record, after, hrun, -⟩ := Attempt.exists_of_map_toOption
      (show ((making [titleField, priceField] [("price", .str "$2.50")]).runFrom
        .sample).1.toOption.map key = some "vs:i:0" by decide +kernel)
    refine ⟨record, after, hrun, ?_⟩
    exact (holds_declared [titleField] priceField [] (by decide) (by decide) (by decide) (by decide)
      hrun).1 (by decide)
  · obtain ⟨record, after, hrun, -⟩ := Attempt.exists_of_map_toOption
      (show ((making [titleField, storedField] [("title", .str "t"), ("title_vec", .str "x")]).runFrom
        .sample).1.toOption.map key = some "vs:i:0" by decide +kernel)
    refine ⟨record, after, hrun, ?_⟩
    exact ((holds_declared [titleField] storedField [] (by decide) (by decide) (by decide)
      (by decide) hrun).2 titleField (by simp) rfl rfl).mpr ⟨"title", by decide, by decide⟩

/-- The attribute of a field that belongs to a vector is not taken from the field. -/
theorem not_holds_declared :
    ¬∀ (options : CoercionOptions) (index : String) (space : VectorSpace) (declared : List Field),
      (declared.map Field.name).Nodup → ∀ field ∈ declared, field.name ≠ Key.idAttribute →
        ∀ source : Json.Members, field.name ∈ Entries.keys source →
          ∀ (intake since : Intake) (record : Record),
            (ofSource options index (IndexDefinition.compile index space declared).fieldSet
              source).runFrom intake = (.ok record, since) →
            (record.get? field.name).isSome := by
  intro hall
  have h := hall .standard "i" ⟨1, .l2⟩ [titleField, storedField] (by decide) storedField
    (by simp) (by decide) [("id", .str "1"), ("title_vec", .str "x")] (by decide) .sample .sample
    ⟨"1", "vs:i:1", [("__uid", .text "1")]⟩ (by rfl)
  exact absurd h (by decide)

end Record

end HybridSearch
