import HybridSearch.Proofs.Ingest.RoundTrip
import HybridSearch.Proofs.Search.Membership
import HybridSearch.Proofs.Search.Recall
import HybridSearch.Proofs.Search.References

/-!
# References that were stored

A record names its parents in a text or a tag, which holds them between commas. A hit that stands for
the record names the same parents, with two exceptions: a text that is a document is read as that
document, and an index that sanitizes its texts stores the parents without the commas.

## Main definitions

* `Coercion.storedText` — the text that is stored for a text or a tag.
* `MemoryStore.Returns` — a document that stands for a record, whole or as a search returns it.

## Main results

* `MemoryStore.lookup_of_returns` — such a document has what is stored under the name of the parents.
* `Hit.get?_parents_of_record` — the parents are read from the text that was stored for them.
* `Hit.parents_of_record` — the parents of a record are those that its row names.
-/

namespace HybridSearch

/-! ### What a text is read as -/

namespace Hit

theorem readValue_of_embeds {text : String} {document : Json} (h : Text.Embeds text document) :
    readValue text false = document := by
  rw [readValue, if_neg Bool.false_ne_true, Option.none_or, readDocument?_eq_some_iff.mpr h,
    Option.getD_some]

theorem readValue_of_not_embeds {text : String} (h : ∀ document, ¬Text.Embeds text document) :
    readValue text false = .str text := by
  have hnone : readDocument? text = none :=
    Option.eq_none_iff_forall_ne_some.mpr fun document hdocument =>
      h document (readDocument?_eq_some_iff.mp hdocument)
  rw [readValue, if_neg Bool.false_ne_true, Option.none_or, hnone, Option.getD_none]

end Hit

theorem Coercion.isPlainChar_of_mem_sanitized {text : String} {c : Char}
    (h : c ∈ (sanitized text).toList) : isPlainChar c = true := by
  rw [sanitized, String.toList_ofList] at h
  exact (List.mem_filter.mp h).2

/-- A text without punctuation is no document. -/
theorem Coercion.not_embeds_sanitized (text : String) (document : Json) :
    ¬Text.Embeds (sanitized text) document := by
  rintro ⟨⟨c, rest, hopen, hc⟩, -⟩
  have hmem : c ∈ (sanitized text).toList := by
    refine (List.dropWhile_sublist Text.isBlank).mem ?_
    rw [← Text.dropBlank, hopen]
    exact List.mem_cons_self
  have hplain := isPlainChar_of_mem_sanitized hmem
  rcases hc with rfl | rfl
  · exact absurd hplain (by decide)
  · exact absurd hplain (by decide)

/-- Nor are there commas in it. -/
theorem Coercion.splitList_sanitized (text : String) :
    splitList (sanitized text) = trimmedEntries [sanitized text] := by
  have hcomma : ',' ∉ (sanitized text).toList := fun hmem =>
    absurd (isPlainChar_of_mem_sanitized hmem) (by decide)
  rw [splitList, Text.split_of_not_mem hcomma]

/-! ### Documents that stand for a record -/

namespace MemoryStore

variable {store : MemoryStore} {index key : String} {query : Query} {document : StoredDocument}

/-- A document that a search returns shows a stored record. -/
theorem exists_project_of_mem_search {documents : List StoredDocument}
    (h : store.search index query = .ok documents) (hmem : document ∈ documents) :
    ∃ distance, document =
      ⟨document.key, project query.returnFields
        ⟨document.key, store.hash document.key, distance⟩⟩ := by
  obtain ⟨definition, -, hdocuments⟩ := search_eq_ok h
  obtain ⟨m, hmember, -, rfl⟩ := hdocuments document hmem
  obtain ⟨hget, -⟩ := mem_members_iff.mp hmember
  refine ⟨m.distance, ?_⟩
  rw [hash_eq, hget, Option.getD_some]

theorem lookup_filterMap_name (bytes? : String → Option Bytes) (names : List String)
    (name : String) :
    (names.filterMap fun name => (bytes? name).map fun bytes => (name, bytes)).lookup name =
      if name ∈ names then bytes? name else none := by
  induction names with
  | nil => rfl
  | cons other names ih =>
    rw [List.filterMap_cons]
    by_cases hname : name = other
    · subst hname
      cases hbytes : bytes? name with
      | none => simp [hbytes, ih]
      | some bytes => simp
    · cases hbytes : bytes? other with
      | none => simp [hname, ih]
      | some bytes => simp [lookup_cons_ite, hname, ih]

/-- The wanted fields of a match have the values that are stored, the distance apart. -/
theorem lookup_project (returnFields : List String) {m : Match} {name : String}
    (hnodup : (m.hash.map Prod.fst).Nodup) (hname : name ≠ Query.distanceField) :
    (project returnFields m).reverse.lookup name =
      if returnFields = [] ∨ name ∈ returnFields then m.hash.get? name else none := by
  have hfields : (if returnFields.isEmpty then m.hash
      else returnFields.filterMap fun name =>
        (StoredHash.get? m.hash name).map fun bytes => (name, bytes)).reverse.lookup name =
        if returnFields = [] ∨ name ∈ returnFields then m.hash.get? name else none := by
    split
    · rename_i hempty
      rw [if_pos (Or.inl (List.isEmpty_iff.mp hempty))]
      exact lookup_reverse hnodup name
    · rename_i hnonempty
      rw [List.isEmpty_iff] at hnonempty
      rw [← List.filterMap_reverse, lookup_filterMap_name]
      simp only [List.mem_reverse, hnonempty, false_or]
  rw [project]
  cases m.distance with
  | none => exact hfields
  | some distance =>
    dsimp only
    split
    · rw [List.reverse_append, List.reverse_singleton, List.singleton_append, lookup_cons_ite,
        if_neg hname]
      exact hfields
    · exact hfields

/-- A document that stands for a record: the whole record, or what a search returns of it if the
parents are among the wanted fields. -/
def Returns (store : MemoryStore) (index key : String) (document : StoredDocument) : Prop :=
  document = ⟨key, store.hash key⟩ ∨
    ∃ query documents, store.search index query = .ok documents ∧ document ∈ documents ∧
      document.key = key ∧ (query.returnFields = [] ∨ Query.parentField ∈ query.returnFields)

/-- A document that stands for a record has what is stored under the name of the parents. -/
theorem lookup_of_returns (hdistinct : store.HasDistinctFields)
    (h : store.Returns index key document) :
    document.fields.reverse.lookup Query.parentField =
      (store.hash key).get? Query.parentField := by
  rcases h with rfl | ⟨query, documents, hsearch, hmem, rfl, hwanted⟩
  · exact lookup_reverse (hdistinct key) Query.parentField
  · obtain ⟨distance, hdocument⟩ := exists_project_of_mem_search hsearch hmem
    rw [hdocument]
    exact (lookup_project query.returnFields (hdistinct document.key) (by decide)).trans
      (if_pos hwanted)

end MemoryStore

/-! ### Values that were stored -/

/-- The text that is stored for a text or a tag. Only that of a text may be sanitized. -/
def Coercion.storedText (options : CoercionOptions) (type : FieldType) (value : Json) : String :=
  if type = .text ∧ options.sanitizes = true then sanitized value.text else value.text

theorem Coercion.coerce_eq_storedText {options : CoercionOptions} {name : String}
    {type : FieldType} {value : Json} (h : type = .text ∨ type = .tag) :
    coerce options name type value = .ok (.text (storedText options type value)) := by
  rcases h with rfl | rfl <;> simp [coerce, storedText]

/-- A record that is written leaves its values, and those that it does not have as they were. -/
theorem Ingest.get?_hash_of_record {options : CoercionOptions} {index : String} {fields : FieldSet}
    {source : Json.Members} {workspace after : Workspace MemoryStore} {record : Record}
    (hnodup : (fields.map Field.name).Nodup)
    (h : (Ingest.record options index fields source).runFrom workspace = (.ok record, after))
    (name : String) :
    (after.store.hash record.key).get? name =
      ((record.get? name).map FieldValue.toBytes).or
        ((workspace.store.hash record.key).get? name) := by
  obtain ⟨⟨_, hsource⟩, hstore⟩ := Ingest.runFrom_record_of_ok options index fields h
  rw [hstore, MemoryStore.hash_hashSet, if_pos rfl, StoredHash.get?_merge,
    lookup_reverse (Record.nodup_of_ofSource hnodup hsource), ← Record.get?]

/-! ### Parents that were named -/

namespace Hit

variable {options : CoercionOptions} {index : String} {fields : FieldSet} {field : Field}
  {source : Json.Members} {raw : Json} {uids : List String}

/-- Parents are named by a list of texts, or by one text. -/
def NamesParents (raw : Json) (uids : List String) : Prop :=
  raw = .strings uids ∨ ∃ uid, uids = [uid] ∧ raw = .str uid

theorem NamesParents.text_eq (h : NamesParents raw uids) : raw.text = Text.joined "," uids := by
  rcases h with rfl | ⟨uid, rfl, rfl⟩
  · rw [Json.strings, Json.text, Json.texts_eq_map, List.map_map]
    exact congrArg _ (List.map_id uids)
  · rfl

/-- A text or a tag is read without regard to numbers. -/
theorem get?_ofDocument_text {space name text : String} {document : StoredDocument}
    (hfield : fields.get? name = some field) (htype : field.type = .text ∨ field.type = .tag)
    (hname : name ≠ Query.distanceField)
    (hstored : document.fields.reverse.lookup name = some (Text.encode text)) :
    (ofDocument space fields document).get? name = some (readValue text false) := by
  have hvector : isVector (some fields) name = false := by
    rcases htype with htype | htype <;> simp [isVector, hfield, htype]
  have hnumeric : isNumeric (some fields) name = false := by
    rcases htype with htype | htype <;> simp [isNumeric, hfield, htype, hname]
  rw [get?, ofDocument, get?_readFields, hvector, hnumeric, if_neg Bool.false_ne_true, hstored,
    Option.map_some, Text.decodeLossy_encode]

/-- A document that stands for a record has the text that the row of the record has for the parents,
as it was stored. -/
theorem get?_parents_of_record {workspace after : Workspace MemoryStore} {record : Record}
    {document : StoredDocument} (hnodup : (fields.map Field.name).Nodup)
    (hfield : fields.get? Query.parentField = some field)
    (htype : field.type = .text ∨ field.type = .tag)
    (hraw : Source.find? source Query.parentField = some raw)
    (hdistinct : workspace.store.HasDistinctFields)
    (hrun : (Ingest.record options index fields source).runFrom workspace = (.ok record, after))
    (hdocument : after.store.Returns index record.key document) :
    (ofDocument (Key.space index) fields document).get? Query.parentField =
      some (readValue (Coercion.storedText options field.type raw) false) := by
  obtain ⟨⟨_, hsource⟩, hstore⟩ := Ingest.runFrom_record_of_ok options index fields hrun
  have hvector : field.type ≠ .vector := by rcases htype with htype | htype <;> simp [htype]
  obtain ⟨value, hvalue, hcoerce⟩ :=
    Record.exists_get?_of_find? hsource hfield (by decide) hvector hraw
  rw [Coercion.coerce_eq_storedText htype] at hcoerce
  obtain rfl := Except.ok.inj hcoerce
  refine get?_ofDocument_text hfield htype (by decide) ?_
  have hafter : after.store.HasDistinctFields := hstore ▸ hdistinct.hashSet _ _
  rw [MemoryStore.lookup_of_returns hafter hdocument, Ingest.get?_hash_of_record hnodup hrun, hvalue]
  rfl

/-- **The parents of a record are those that its row names**, where the attribute is a text or a tag,
and they are the parents that are looked up. A text that is a document is read as the document, so
that the parents are the items of an array, and none are named by an object. Where texts are sanitized
the commas are lost, and what is left is the name of one parent. -/
theorem parents_of_record {workspace after : Workspace MemoryStore} {record : Record}
    {document : StoredDocument} (hnodup : (fields.map Field.name).Nodup)
    (hfield : fields.get? Query.parentField = some field)
    (htype : field.type = .text ∨ field.type = .tag)
    (hraw : Source.find? source Query.parentField = some raw) (hnames : NamesParents raw uids)
    (huids : ∀ uid ∈ uids, Text.IsEntry uid) (hdistinct : workspace.store.HasDistinctFields)
    (hrun : (Ingest.record options index fields source).runFrom workspace = (.ok record, after))
    (hdocument : after.store.Returns index record.key document) :
    let hit := ofDocument (Key.space index) fields document
    let sanitizes := field.type = .text ∧ options.sanitizes = true
    let joined := Text.joined "," uids
    (¬sanitizes → (∀ document, ¬Text.Embeds joined document) → hit.parents = uids) ∧
      (¬sanitizes → ∀ items, Text.Embeds joined (.arr items) →
        hit.parents = trimmedEntries (items.map referenceText)) ∧
      (¬sanitizes → ∀ members, Text.Embeds joined (.obj members) → hit.parents = []) ∧
      (sanitizes → hit.parents = trimmedEntries [Coercion.sanitized joined]) ∧
      ∀ (store : MemoryStore) (limit : Nat), (ParentView.expand index [hit] limit).runFrom store =
        (.ok ((hit.parents.eraseDups.filterMap (store.view? index)).take limit), store) := by
  intro hit sanitizes joined
  have hget := get?_parents_of_record hnodup hfield htype hraw hdistinct hrun hdocument
  rw [Coercion.storedText, hnames.text_eq] at hget
  have hplain (h : ¬sanitizes) : hit.get? Query.parentField = some (readValue joined false) := by
    rw [hget, if_neg h]
  refine ⟨fun h hembeds => ?_, fun h items hembeds => ?_, fun h members hembeds => ?_,
    fun h => ?_, fun store limit => ?_⟩
  · rw [parents, hplain h, readValue_of_not_embeds hembeds]
    exact splitList_joined huids
  · rw [parents, hplain h, readValue_of_embeds hembeds]
  · rw [parents, hplain h, readValue_of_embeds hembeds]
  · rw [parents, hget, if_pos h, readValue_of_not_embeds (Coercion.not_embeds_sanitized _)]
    exact Coercion.splitList_sanitized _
  · rw [ParentView.runFrom_expand, MemoryStore.views_eq, ParentView.references_eq,
      List.flatMap_singleton]

private def parentTags : FieldSet := [⟨Query.parentField, .tag, false⟩]

private def blankSpace : Workspace MemoryStore :=
  ⟨.empty, ⟨.ofLoader (fun _ => .error (.embeddingUnavailable "")) 1, ⟨toString, 0⟩⟩⟩

private def naming (raw : Json) : Json.Members := [("id", .str "1"), (Query.parentField, raw)]

/-- Two parents that are named by tags. -/
theorem parents_of_record_tagged :
    ∃ record after, (Ingest.record .standard "i" parentTags
        (naming (.strings ["p", "q"]))).runFrom blankSpace = (.ok record, after) ∧
      (ofDocument (Key.space "i") parentTags ⟨record.key, after.store.hash record.key⟩).parents =
        ["p", "q"] := by
  obtain ⟨record, after, hrun, -⟩ := Attempt.exists_of_map_toOption
    (show (((Ingest.record .standard "i" parentTags (naming (.strings ["p", "q"]))).runFrom
      blankSpace).1.toOption.map fun record => record.key) = some "vs:i:1" by decide +kernel)
  have huids : ∀ uid ∈ ["p", "q"], Text.IsEntry uid := by
    simp only [List.forall_mem_cons, List.not_mem_nil, false_imp_iff, implies_true, and_true]
    exact ⟨⟨by decide, by decide, by decide⟩, ⟨by decide, by decide, by decide⟩⟩
  have hembeds : ∀ document, ¬Text.Embeds (Text.joined "," ["p", "q"]) document := by
    intro document h
    rw [← readDocument?_eq_some_iff,
      show readDocument? (Text.joined "," ["p", "q"]) = none by decide] at h
    cases h
  have hdocument : after.store.Returns "i" record.key ⟨record.key, after.store.hash record.key⟩ :=
    .inl rfl
  have hparents := parents_of_record (show (parentTags.map Field.name).Nodup by decide) rfl
    (.inr rfl) rfl (.inl rfl) huids MemoryStore.HasDistinctFields.empty hrun hdocument
  exact ⟨record, after, hrun, hparents.1 (by decide) hembeds⟩

/-- A record whose parent has a document for its name, and what is stored then. -/
private def namedByDocument : Except IngestError Record × Workspace MemoryStore :=
  (Ingest.record .standard "i" parentTags (naming (.str "\x7b\x7d"))).runFrom blankSpace

/-- A parent whose name is a document is not found again. -/
theorem not_parents_of_record :
    ¬∀ (options : CoercionOptions) (index : String) (fields : FieldSet) (field : Field)
      (source : Json.Members) (raw : Json) (uids : List String)
      (workspace after : Workspace MemoryStore) (record : Record),
      (fields.map Field.name).Nodup → fields.get? Query.parentField = some field →
      field.type ≠ .vector → Source.find? source Query.parentField = some raw →
      NamesParents raw uids → (∀ uid ∈ uids, Text.IsEntry uid) →
      (field.type = .numeric → ∃ n : ℤ, uids = [toString n]) →
      workspace.store.HasDistinctFields →
      (Ingest.record options index fields source).runFrom workspace = (.ok record, after) →
      (ofDocument (Key.space index) fields
        ⟨record.key, after.store.hash record.key⟩).parents = uids := by
  intro hall
  obtain ⟨record, after, hrun, -⟩ := Attempt.exists_of_map_toOption
    (show (namedByDocument.1.toOption.map fun record => record.key) = some "vs:i:1" by
      decide +kernel)
  have hparents := hall .standard "i" parentTags ⟨Query.parentField, .tag, false⟩ _ _ _ _ _ _
    (by decide) rfl (by decide) rfl (.inr ⟨_, rfl, rfl⟩)
    (List.forall_mem_singleton.mpr ⟨by decide, by decide, by decide⟩) nofun
    MemoryStore.HasDistinctFields.empty hrun
  have hnone : (namedByDocument.1.toOption.map fun record =>
      (ofDocument (Key.space "i") parentTags
        ⟨record.key, namedByDocument.2.store.hash record.key⟩).parents) = some [] := by
    decide +kernel
  rw [show namedByDocument = (.ok record, after) from hrun, Except.toOption, Option.map_some,
    hparents] at hnone
  cases hnone

end Hit

end HybridSearch
