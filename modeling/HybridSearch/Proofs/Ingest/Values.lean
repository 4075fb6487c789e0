import HybridSearch.Ingest.Source
import HybridSearch.Proofs.Attempt
import HybridSearch.Proofs.Schema.Attributes
import HybridSearch.Proofs.Store.Lookup

/-!
# The values of a source row

Which attributes a record has values for, and where each value comes from.

## Main definitions

* `FieldValue.Suits` — a value of the kind that is stored for a type.
* `Source.Gives` — an attribute takes a value from a row.

## Main results

* `Source.gives_of_mem_values` — every value of a row is one that an attribute takes from it.
* `Source.lookup_values` — the value of an attribute that the row has a value for.
* `Source.sublist_of_values` — values follow the attributes, each of which has one at most.
* `Record.of_ofSource` — the values of a record, with its id as the last.
* `Record.exists_value_of_find?` — an attribute that the row has a value for is in the record.
* `Record.exists_get?_of_find?`, `Record.coerce_of_get?` — the value of an attribute that is no
  vector.
-/

namespace HybridSearch

/-- A value of the kind that is stored for attributes of a type. -/
def FieldValue.Suits (result : FieldValue) : FieldType → Prop
  | .numeric => ∃ x, result = .number x
  | .text => ∃ text, result = .text text
  | .tag => ∃ text, result = .text text
  | .vector => ∃ vector, result = .vector vector

theorem FieldValue.Suits.eq_vector {vector : Embedding} {type : FieldType}
    (h : (FieldValue.vector vector).Suits type) : type = .vector := by
  cases type with
  | vector => rfl
  | _ =>
    obtain ⟨_, heq⟩ := h
    cases heq

/-- Attributes that are no vectors have numbers and texts. -/
theorem Coercion.suits_of_coerce {options : CoercionOptions} {name : String} {type : FieldType}
    {raw : Json} {result : FieldValue} (h : coerce options name type raw = .ok result)
    (htype : type ≠ .vector) : result.Suits type := by
  cases type with
  | numeric =>
    obtain ⟨x, -, rfl⟩ := Attempt.except_map_eq_ok.mp h
    exact ⟨x, rfl⟩
  | text =>
    cases h
    exact ⟨_, rfl⟩
  | tag =>
    cases h
    exact ⟨_, rfl⟩
  | vector => exact absurd rfl htype

namespace Source

variable {options : CoercionOptions} {source : Json.Members} {fields : FieldSet}
  {gateway after : Gateway} {values : List (String × FieldValue)} {field : Field}

/-- An attribute, other than that of the id, takes the value from the row. -/
def Gives (options : CoercionOptions) (source : Json.Members) (field : Field)
    (result : FieldValue) : Prop :=
  field.name ≠ Key.idAttribute ∧ ∃ raw before since,
    find? source (wanted field) = some raw ∧
      (value options field raw).runFrom before = (.ok result, since)

theorem wanted_of_ne_vector (htype : field.type ≠ .vector) : wanted field = field.name := by
  rw [wanted]
  split
  · rename_i hvector
    exact absurd hvector htype
  · rfl

theorem value_of_ne_vector (htype : field.type ≠ .vector) (raw : Json) :
    value options field raw = .ofExcept (Coercion.coerce options field.name field.type raw) := by
  rw [value]
  split
  · rename_i hvector
    exact absurd hvector htype
  · rfl

theorem coerce_of_value {raw : Json} {result : FieldValue} (htype : field.type ≠ .vector)
    (h : (value options field raw).runFrom gateway = (.ok result, after)) :
    Coercion.coerce options field.name field.type raw = .ok result := by
  rw [value_of_ne_vector htype] at h
  exact congrArg Prod.fst h

/-- A value is of the kind that its attribute is declared with. -/
theorem suits_of_value {raw : Json} {result : FieldValue}
    (h : (value options field raw).runFrom gateway = (.ok result, after)) :
    result.Suits field.type := by
  rw [value] at h
  split at h
  · rename_i htype
    rw [Attempt.runFrom_map] at h
    obtain ⟨hresult, -⟩ := Prod.mk.inj h
    obtain ⟨vector, -, rfl⟩ := Attempt.except_map_eq_ok.mp hresult
    rw [htype]
    exact ⟨vector, rfl⟩
  · rename_i hvector
    exact Coercion.suits_of_coerce (congrArg Prod.fst h) hvector

theorem gives_of_mem_values
    (h : (Source.values options source fields).runFrom gateway = (.ok values, after)) :
    ∀ entry ∈ values, ∃ field ∈ fields,
      field.name = entry.1 ∧ Gives options source field entry.2 := by
  induction fields generalizing values gateway after with
  | nil =>
    cases h
    exact nofun
  | cons field fields ih =>
    have hlift {rest : List (String × FieldValue)}
        (hrest : ∀ entry ∈ rest, ∃ field ∈ fields, field.name = entry.1 ∧
          Gives options source field entry.2) :
        ∀ entry ∈ rest, ∃ other ∈ field :: fields, other.name = entry.1 ∧
          Gives options source other entry.2 := by
      intro entry hentry
      obtain ⟨other, hmem, hgives⟩ := hrest entry hentry
      exact ⟨other, List.mem_cons_of_mem _ hmem, hgives⟩
    rw [Source.values] at h
    split at h
    · exact hlift (ih h)
    · rename_i hid
      split at h
      · exact hlift (ih h)
      · rename_i raw hfind
        obtain ⟨result, between, hvalue, h⟩ := Attempt.runFrom_bind_eq_ok.mp h
        obtain ⟨rest, _, hrest, hend⟩ := Attempt.runFrom_bind_eq_ok.mp h
        obtain ⟨⟨⟩, -⟩ := Prod.mk.inj hend
        refine List.forall_mem_cons.mpr ⟨?_, hlift (ih hrest)⟩
        exact ⟨field, List.mem_cons_self, rfl, hid, raw, gateway, between, hfind, hvalue⟩

/-- The first attribute of a name has the first value of that name, if the row has one for it. -/
theorem lookup_values {name : String} {raw : Json}
    (h : (Source.values options source fields).runFrom gateway = (.ok values, after))
    (hfield : fields.get? name = some field) (hname : name ≠ Key.idAttribute)
    (hraw : find? source (wanted field) = some raw) :
    ∃ result before since, values.lookup name = some result ∧
      (value options field raw).runFrom before = (.ok result, since) := by
  induction fields generalizing values gateway after with
  | nil => cases hfield
  | cons head fields ih =>
    rw [FieldSet.get?_cons] at hfield
    rw [Source.values] at h
    by_cases hhead : head.name = name
    · rw [if_pos hhead] at hfield
      cases hfield
      rw [if_neg (hhead ▸ hname), hraw] at h
      obtain ⟨result, between, hvalue, h⟩ := Attempt.runFrom_bind_eq_ok.mp h
      obtain ⟨rest, _, hrest, hend⟩ := Attempt.runFrom_bind_eq_ok.mp h
      obtain ⟨⟨⟩, -⟩ := Prod.mk.inj hend
      exact ⟨result, gateway, between, by rw [hhead, List.lookup_cons_self], hvalue⟩
    · rw [if_neg hhead] at hfield
      split at h
      · exact ih h hfield
      · split at h
        · exact ih h hfield
        · obtain ⟨result, between, -, h⟩ := Attempt.runFrom_bind_eq_ok.mp h
          obtain ⟨rest, _, hrest, hend⟩ := Attempt.runFrom_bind_eq_ok.mp h
          obtain ⟨⟨⟩, -⟩ := Prod.mk.inj hend
          rw [lookup_cons_ite, if_neg (Ne.symm hhead)]
          exact ih hrest hfield

/-- Values follow the attributes, each of which has one at most. -/
theorem sublist_of_values
    (h : (Source.values options source fields).runFrom gateway = (.ok values, after)) :
    (values.map Prod.fst).Sublist (fields.map Field.name) := by
  induction fields generalizing values gateway after with
  | nil =>
    cases h
    exact List.Sublist.refl _
  | cons field fields ih =>
    rw [Source.values] at h
    rw [List.map_cons]
    split at h
    · exact (ih h).cons _
    · split at h
      · exact (ih h).cons _
      · obtain ⟨result, between, -, h⟩ := Attempt.runFrom_bind_eq_ok.mp h
        obtain ⟨rest, _, hrest, hend⟩ := Attempt.runFrom_bind_eq_ok.mp h
        obtain ⟨⟨⟩, -⟩ := Prod.mk.inj hend
        exact (ih hrest).cons_cons _

end Source

/-- A record has the values of its row, with the id as the last. -/
theorem Record.of_ofSource {options : CoercionOptions} {index : String} {fields : FieldSet}
    {source : Json.Members} {intake after : Intake} {record : Record}
    (h : (Record.ofSource options index fields source).runFrom intake = (.ok record, after)) :
    ∃ values between, (Source.values options source fields).runFrom intake.gateway =
        (.ok values, between) ∧ record = .ofValues index record.id values := by
  obtain ⟨values, _, hvalues, h⟩ := Attempt.runFrom_bind_eq_ok.mp h
  obtain ⟨between, hvalues, -⟩ := Attempt.runFrom_within_eq_iff.mp hvalues
  refine ⟨values, between, hvalues, ?_⟩
  split at h
  · obtain ⟨id, _, -, hend⟩ := Attempt.runFrom_bind_eq_ok.mp h
    obtain ⟨⟨⟩, -⟩ := Prod.mk.inj hend
    rfl
  · obtain ⟨id, _, -, hend⟩ := Attempt.runFrom_bind_eq_ok.mp h
    obtain ⟨⟨⟩, -⟩ := Prod.mk.inj hend
    rfl

/-- The value of an attribute that the row has a value for. -/
theorem Record.exists_value_of_find? {options : CoercionOptions} {index : String}
    {fields : FieldSet} {source : Json.Members} {intake after : Intake} {record : Record}
    {name : String} {field : Field} {raw : Json}
    (h : (Record.ofSource options index fields source).runFrom intake = (.ok record, after))
    (hfield : fields.get? name = some field) (hname : name ≠ Key.idAttribute)
    (hraw : Source.find? source (Source.wanted field) = some raw) :
    ∃ value before since, record.get? name = some value ∧
      (Source.value options field raw).runFrom before = (.ok value, since) := by
  obtain ⟨values, _, hvalues, hrecord⟩ := of_ofSource h
  obtain ⟨value, before, since, hlookup, hvalue⟩ :=
    Source.lookup_values hvalues hfield hname hraw
  refine ⟨value, before, since, ?_, hvalue⟩
  rw [hrecord, get?, ofValues, List.lookup_append, hlookup, Option.some_or]

/-- The value of an attribute that is no vector, made from the value that the row has for it. -/
theorem Record.exists_get?_of_find? {options : CoercionOptions} {index name : String}
    {fields : FieldSet} {source : Json.Members} {intake after : Intake} {record : Record}
    {field : Field} {raw : Json}
    (h : (Record.ofSource options index fields source).runFrom intake = (.ok record, after))
    (hfield : fields.get? name = some field) (hname : name ≠ Key.idAttribute)
    (htype : field.type ≠ .vector) (hraw : Source.find? source name = some raw) :
    ∃ value, record.get? name = some value ∧
      Coercion.coerce options name field.type raw = .ok value := by
  obtain ⟨-, rfl⟩ := FieldSet.mem_of_get?_eq_some hfield
  obtain ⟨value, _, _, hget, hvalue⟩ := exists_value_of_find? h hfield hname
    (by rw [Source.wanted_of_ne_vector htype, hraw])
  exact ⟨value, hget, Source.coerce_of_value htype hvalue⟩

theorem Record.coerce_of_get? {options : CoercionOptions} {index : String} {fields : FieldSet}
    {source : Json.Members} {intake after : Intake} {record : Record} {name : String}
    {field : Field} {raw : Json} {value : FieldValue}
    (h : (Record.ofSource options index fields source).runFrom intake = (.ok record, after))
    (hfield : fields.get? name = some field) (hname : name ≠ Key.idAttribute)
    (htype : field.type ≠ .vector) (hraw : Source.find? source name = some raw)
    (hvalue : record.get? name = some value) :
    Coercion.coerce options name field.type raw = .ok value := by
  obtain ⟨result, hget, hresult⟩ := exists_get?_of_find? h hfield hname htype hraw
  rwa [← Option.some.inj (hget.symm.trans hvalue)]

end HybridSearch
