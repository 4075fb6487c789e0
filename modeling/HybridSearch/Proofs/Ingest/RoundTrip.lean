import HybridSearch.Proofs.Ingest.Numeric
import HybridSearch.Proofs.Ingest.Values
import HybridSearch.Proofs.Ingest.Writes
import HybridSearch.Proofs.Number.RoundTrip
import HybridSearch.Proofs.Schema.Attributes
import HybridSearch.Proofs.Schema.Key
import HybridSearch.Proofs.Search.Distance
import HybridSearch.Proofs.Text.Utf8

/-!
# Reading back what was ingested

A source row becomes a record, the record becomes bytes under its key, and the bytes become a hit.
The hit has the id of the record and its values: numbers as numbers, texts as texts, and texts that
embed a document as that document. Only the vectors are left out.

## Main definitions

* `Text.Embeds` — a text that is a document, an object or an array.
* `FieldValue.ReadsAs` — what a value is in a hit.
* `Hit.Restores` — a hit with the id and the values of a record.

## Main results

* `FieldValue.readsAs_readValue` — what the bytes of a value are read as.
* `Hit.restores_of_record` — a row that was ingested is restored by its hit.
-/

namespace HybridSearch

/-- A text that, behind blanks, begins as an object or an array does and is a document. -/
def Text.Embeds (text : String) (document : Json) : Prop :=
  (∃ c rest, dropBlank text.toList = c :: rest ∧ Json.Opens c) ∧ Json.parse? text = some document

/-- What a value that is no vector is in a hit. -/
inductive FieldValue.ReadsAs : FieldValue → Json → Prop
  | number (x : Float) (finite : x.isFinite = true) : ReadsAs (.number x) (.num (.float x finite))
  | document {text : String} {document : Json} (h : Text.Embeds text document) :
    ReadsAs (.text text) document
  | text {text : String} (h : ∀ document, ¬Text.Embeds text document) :
    ReadsAs (.text text) (.str text)

/-- A hit with the id of a record and its values, but for the vectors. How the values under the
name of the id and of the distance are read is left open. -/
structure Hit.Restores (definition : IndexDefinition) (record : Record) (hit : Hit) : Prop where
  id_eq : hit.id = record.id
  mem_keys_iff : ∀ name, name ∈ Entries.keys hit.value ↔
    (record.get? name).isSome ∧ ¬definition.DeclaresVector name
  readsAs : ∀ name value, record.get? name = some value → ¬definition.DeclaresVector name →
    name ≠ Key.idAttribute → name ≠ Query.distanceField →
      ∃ json, hit.get? name = some json ∧ value.ReadsAs json

/-! ### One value -/

theorem Hit.readDocument?_eq_some_iff {text : String} {document : Json} :
    readDocument? text = some document ↔ Text.Embeds text document := by
  rw [readDocument?, Text.Embeds]
  split
  · rename_i rest htext
    exact (and_iff_right ⟨_, rest, htext, Or.inl rfl⟩).symm
  · rename_i rest htext
    exact (and_iff_right ⟨_, rest, htext, Or.inr rfl⟩).symm
  · rename_i hbrace hbracket
    refine iff_of_false (Option.some_ne_none document).symm ?_
    rintro ⟨⟨c, rest, htext, rfl | rfl⟩, -⟩
    · exact hbrace rest htext
    · exact hbracket rest htext

theorem Hit.readNumber?_render {x : Float} (hx : x.isFinite = true) :
    readNumber? (Layout.plain.render x) = some (.num (.float x hx)) := by
  rw [readNumber?, Layout.trim_render_plain hx, Layout.parse?_render Layout.plain hx,
    Option.bind_some, Number.ofFloat?, dif_pos hx, Option.map_some]

/-- **What the bytes of a value are read as**, by the type that the value has. -/
theorem FieldValue.readsAs_readValue {value : FieldValue} {type : FieldType}
    (hsuits : value.Suits type) (htype : type ≠ .vector)
    (hfinite : ∀ x, value = .number x → x.isFinite = true) :
    value.ReadsAs (Hit.readValue (Text.decodeLossy value.toBytes) (type == .numeric)) := by
  have htext (text : String) :
      (FieldValue.text text).ReadsAs (Hit.readValue (Text.decodeLossy (Text.encode text)) false) := by
    rw [Text.decodeLossy_encode, Hit.readValue, if_neg Bool.false_ne_true, Option.none_or]
    cases hdocument : Hit.readDocument? text with
    | some document => exact .document (Hit.readDocument?_eq_some_iff.mp hdocument)
    | none =>
      refine .text fun document hembeds => ?_
      rw [Hit.readDocument?_eq_some_iff.mpr hembeds] at hdocument
      cases hdocument
  cases type with
  | numeric =>
    obtain ⟨x, rfl⟩ := hsuits
    have hx := hfinite x rfl
    rw [toBytes, Text.decodeLossy_encode, Hit.readValue, beq_self_eq_true, if_pos rfl,
      Hit.readNumber?_render hx]
    exact .number x hx
  | text =>
    obtain ⟨text, rfl⟩ := hsuits
    exact htext text
  | tag =>
    obtain ⟨text, rfl⟩ := hsuits
    exact htext text
  | vector => exact absurd rfl htype

/-! ### The values of a record -/

namespace Record

variable {options : CoercionOptions} {index : String} {fields : FieldSet} {source : Json.Members}
  {intake after : Intake} {record : Record} {name : String} {value : FieldValue}

/-- Where attributes have different names, so have the values of a record. -/
theorem nodup_of_ofSource (hnodup : (fields.map Field.name).Nodup)
    (h : (ofSource options index fields source).runFrom intake = (.ok record, after)) :
    (record.fields.map Prod.fst).Nodup := by
  obtain ⟨values, _, hvalues, hrecord⟩ := of_ofSource h
  rw [hrecord, ofValues, List.map_append, List.nodup_append]
  refine ⟨hnodup.sublist (Source.sublist_of_values hvalues), List.nodup_singleton _, ?_⟩
  rintro _ hmem _ hid rfl
  obtain ⟨entry, hentry, hname⟩ := List.mem_map.mp hmem
  obtain ⟨field, -, hfield, hgives, -⟩ := Source.gives_of_mem_values hvalues entry hentry
  exact hgives (hfield.trans (hname.trans (List.mem_singleton.mp hid)))

/-- A value is that of the row, or the id. -/
theorem gives_of_get? (h : (ofSource options index fields source).runFrom intake = (.ok record, after))
    (hget : record.get? name = some value) :
    (∃ field ∈ fields, field.name = name ∧ Source.Gives options source field value) ∨
      name = Key.idAttribute ∧ value = .text record.id := by
  obtain ⟨values, _, hvalues, hrecord⟩ := of_ofSource h
  rw [hrecord, get?, ofValues] at hget
  rcases List.mem_append.mp (mem_of_lookup hget) with hmem | hmem
  · exact Or.inl (Source.gives_of_mem_values hvalues _ hmem)
  · obtain ⟨rfl, rfl⟩ := Prod.mk.inj (List.mem_singleton.mp hmem)
    exact Or.inr ⟨rfl, rfl⟩

end Record

/-! ### A row -/

/-- The fields of a record that is written where there was none. -/
theorem MemoryStore.get?_of_record {options : CoercionOptions} {index : String} {fields : FieldSet}
    {source : Json.Members} {workspace after : Workspace MemoryStore} {record : Record}
    (hrun : (Ingest.record options index fields source).runFrom workspace = (.ok record, after))
    (hnew : workspace.store.get? record.key = none)
    (hnodup : (record.fields.map Prod.fst).Nodup) :
    after.store.get? record.key =
      some (record.fields.map fun field => (field.1, field.2.toBytes)) := by
  have hstore := (Ingest.runFrom_record_of_ok options index fields hrun).2
  rw [hstore, get?_hashSet, if_pos rfl, hash, ← get?, hnew, Option.getD_none,
    StoredHash.merge_nil_of_nodup hnodup]

namespace Hit

/-- The values of a record, read from the bytes that are stored for them. -/
theorem get?_readFields_toBytes (fields : FieldSet) {record : Record}
    (hnodup : (record.fields.map Prod.fst).Nodup) (name : String) :
    Entries.get? (readFields (some fields)
        (record.fields.map fun field => (field.1, field.2.toBytes))) name =
      if isVector (some fields) name then none
      else (record.get? name).map fun value =>
        readValue (Text.decodeLossy value.toBytes) (isNumeric (some fields) name) := by
  have hnames : ((record.fields.map fun field => (field.1, field.2.toBytes)).map Prod.fst).Nodup := by
    rwa [List.map_map]
  have hlookup := lookup_map_value (fun _ value => FieldValue.toBytes value) record.fields name
  rw [get?_readFields, lookup_reverse hnames, hlookup, Option.map_map]
  rfl

/-- **A row that was ingested is restored by its hit**, if nothing stood under its key before. -/
theorem restores_of_record (options : CoercionOptions) (index : String) (space : VectorSpace)
    (declared : List Field) (source : Json.Members) {workspace after : Workspace MemoryStore}
    {record : Record}
    (hrun : (Ingest.record options index (IndexDefinition.compile index space declared).fieldSet
      source).runFrom workspace = (.ok record, after))
    (hnew : workspace.store.get? record.key = none) :
    ∃ hash, after.store.get? record.key = some hash ∧
      Restores (.compile index space declared) record
        (ofDocument (Key.space index) (IndexDefinition.compile index space declared).fieldSet
          ⟨record.key, hash⟩) := by
  have hwell := IndexDefinition.wellFormed_compile index space declared
  generalize IndexDefinition.compile index space declared = definition at *
  obtain ⟨source, before, since, hsource⟩ := Ingest.exists_ofSource_of_row options index
    definition.fieldSet (show (Ingest.row _ _ _ (.ok (.obj source))).runFrom _ = _ from hrun)
  have hnodup := Record.nodup_of_ofSource hwell.nodup_fieldSet hsource
  have hget := get?_readFields_toBytes definition.fieldSet hnodup
  refine ⟨_, MemoryStore.get?_of_record hrun hnew hnodup, ?_, fun name => ?_, ?_⟩
  · have hkey := Ingest.key_of_ofSource options index definition.fieldSet hsource
    rw [ofDocument, StoredDocument.id, Key.startsWith?_space.mpr hkey, Option.getD_some]
  · rw [ofDocument, Entries.mem_keys_iff, hget, ← IndexDefinition.isVector_iff hwell]
    cases isVector (some definition.fieldSet) name with
    | false => simp
    | true => simp
  · intro name value hvalue hvector hid hdist
    rw [← IndexDefinition.isVector_iff hwell] at hvector
    rcases Record.gives_of_get? hsource hvalue with ⟨field, hmem, rfl, hgives⟩ | ⟨hname, -⟩
    · have hfield := FieldSet.get?_of_mem hwell.nodup_fieldSet hmem
      have htype : field.type ≠ .vector := by simpa [isVector, hfield] using hvector
      have hnumeric : isNumeric (some definition.fieldSet) field.name = (field.type == .numeric) := by
        simp [isNumeric, hfield, hdist]
      obtain ⟨-, raw, _, _, -, hraw⟩ := hgives
      refine ⟨readValue (Text.decodeLossy value.toBytes) (field.type == .numeric), ?_,
        FieldValue.readsAs_readValue (Source.suits_of_value hraw) htype ?_⟩
      · rw [Hit.get?, ofDocument, hget, if_neg hvector, hvalue, Option.map_some, hnumeric]
      · rintro x rfl
        exact Coercion.isFinite_of_coerce (Source.coerce_of_value htype hraw)
    · exact absurd hname hid

/-- An empty store next to a model that has the same vector for every text. -/
private def workshop : Workspace MemoryStore :=
  let model : Model := ⟨1, fun _ => .ok [Trigram.one]⟩
  ⟨.empty, ⟨.ofLoader (fun _ => .ok model) 1, ⟨toString, 0⟩⟩⟩

/-- A vector and its source, which embeds an array, next to a price. -/
private def shop : List Field := [⟨"note", .vector, false⟩, ⟨"price", .numeric, true⟩]

private def shoes : Json.Members :=
  [("id", .str "1"), ("note", .str " [1]"), ("price", .str "$2.50")]

/-- A row with a vector, a price and a note that embeds an array. -/
theorem restores_of_record_shoes :
    ∃ record after hash,
      (Ingest.record .standard "i" (IndexDefinition.compile "i" ⟨1, .l2⟩ shop).fieldSet
        shoes).runFrom workshop = (.ok record, after) ∧
      after.store.get? record.key = some hash ∧
      Restores (.compile "i" ⟨1, .l2⟩ shop) record
        (ofDocument (Key.space "i") (IndexDefinition.compile "i" ⟨1, .l2⟩ shop).fieldSet
          ⟨record.key, hash⟩) := by
  obtain ⟨record, after, hrun, hkey⟩ := Attempt.exists_of_map_toOption
    (show (((Ingest.record .standard "i" (IndexDefinition.compile "i" ⟨1, .l2⟩ shop).fieldSet
      shoes).runFrom workshop).1.toOption.map fun record => record.key) = some "vs:i:1" by
        decide +kernel)
  have hnew : workshop.store.get? record.key = none := hkey ▸ by decide +kernel
  obtain ⟨hash, hstored, hrestores⟩ :=
    restores_of_record .standard "i" ⟨1, .l2⟩ shop shoes hrun hnew
  exact ⟨record, after, hash, hrun, hstored, hrestores⟩

end Hit

end HybridSearch
