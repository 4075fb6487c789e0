import HybridSearch.Proofs.Ingest.Numeric
import HybridSearch.Proofs.Ingest.Values
import HybridSearch.Proofs.Number.Order
import HybridSearch.Proofs.Number.RoundTrip
import HybridSearch.Proofs.Text.Lowercase
import HybridSearch.Proofs.Text.Split
import HybridSearch.Proofs.Text.Trim
import HybridSearch.Proofs.Text.Utf8
import HybridSearch.Store.Matching

/-!
# Records found by their own values

A filter with the value that an attribute was made from finds that attribute: by its number, by all
of its words, or by one of its tags. Tags alone may fail to be found. The stored tags are parted at
commas, and so is a filter that is a text; the items of an array are taken as they are, so an item
with a comma in it is none of the stored tags.

## Main definitions

* `Text.IsPlainTag` — a tag that stays in one piece when it is stored.
* `Predicate.Recalls` — whether a filter finds what was made from its own value.

## Main results

* `Predicate.accepts_range_self`, `Predicate.accepts_tokens_self` — numbers and words are found.
* `Predicate.accepts_tags_iff` — which tags are found.
* `Predicate.holds_own_iff` — a record is found by its own values unless these are tags in an array
  none of which is plain.
-/

namespace HybridSearch

/-! ### Words and tags of a text -/

namespace Text

/-- A text with a letter or a number in it has words. -/
theorem tokens_ne_nil {text : String} (h : ∃ c ∈ text.toList, isAlphanumeric c = true) :
    tokens text ≠ [] := by
  obtain ⟨c, hc, hword⟩ := h
  obtain ⟨run, hrun, hmem⟩ :=
    (exists_mem_pieces_iff fun c => !isAlphanumeric c).mpr ⟨hc, by rw [hword]; rfl⟩
  rw [tokens, ne_eq, List.map_eq_nil_iff, List.filter_eq_nil_iff]
  intro hnone
  refine hnone run hrun ?_
  cases run with
  | nil => cases hmem
  | cons a run => rfl

theorem tagForm_trim (tag : String) : tagForm (trim tag) = tagForm tag := by
  rw [tagForm, trim_trim, ← tagForm]

theorem mem_tagForm_iff {tag : String} : ',' ∈ (tagForm tag).toList ↔ ',' ∈ tag.toList := by
  rw [tagForm, mem_lowercase_iff (by decide), trim, String.toList_ofList,
    mem_trimChars_iff (by decide)]

/-- A tag that is not blank and has no comma in it, so that it is stored in one piece. -/
def IsPlainTag (tag : String) : Prop := trim tag ≠ "" ∧ ',' ∉ tag.toList

end Text

theorem Json.texts_eq_map (items : List Json) : texts items = items.map text := by
  induction items with
  | nil => rfl
  | cons item items ih => rw [texts, ih, List.map_cons]

namespace Predicate

/-- Whether a filter finds the attribute that was made from its own value: of an array of tags one
must be plain. -/
def Recalls : FieldType → Json → Prop
  | .tag, .arr items => ∃ item ∈ items, Text.IsPlainTag item.text
  | _, _ => True

variable {name : String}

theorem holds_of_get? {hash : StoredHash} {predicate : Predicate} {stored : String}
    (h : StoredHash.get? hash predicate.field = some (Text.encode stored)) :
    predicate.holds hash = predicate.accepts stored := by
  rw [StoredHash.get?] at h
  rw [holds, StoredHash.text?, h, Option.map_some, Option.any_some, Text.decodeLossy_encode]

/-! ### Numbers and words -/

theorem accepts_range_self {x : Float} (hx : x.isFinite = true) :
    (range name x x).accepts (Layout.plain.render x) = true := by
  have hnan := (Binary64.not_special hx).1
  have hle : x ≤ x := (FloatOrder.le_iff_rank_le hnan hnan).mpr le_rfl
  rw [accepts, Layout.trim_render_plain hx, Layout.parse?_render Layout.plain hx, Option.any_some,
    decide_eq_true hle, Bool.and_self]

theorem accepts_tokens_self {text : String}
    (h : ∃ c ∈ text.toList, Text.isAlphanumeric c = true) :
    (tokens name text).accepts text = true := by
  have hne : (Text.tokens text).isEmpty = false := by simpa using Text.tokens_ne_nil h
  rw [accepts, Text.allAmong, hne, Bool.not_false, Bool.true_and, List.all_eq_true]
  intro word hword
  exact List.contains_iff_mem.mpr hword

/-! ### Tags -/

theorem accepts_tags_iff {stored : String} {values : List String} :
    (tags name values).accepts stored = true ↔
      ∃ member ∈ Text.split ',' stored, ∃ value ∈ values,
        Text.tagForm value = Text.tagForm member := by
  simp only [accepts, List.any_eq_true, beq_iff_eq]

theorem mem_filterTags_arr {items : List Json} {tag : String} :
    tag ∈ filterTags (.arr items) ↔ (∃ item ∈ items, Text.trim item.text = tag) ∧ tag ≠ "" := by
  rw [filterTags, List.mem_filter, List.map_map, List.mem_map, Bool.not_eq_true',
    String.isEmpty_eq_false_iff]
  rfl

theorem mem_filterTags_of_ne_arr {value : Json} (h : ∀ items, value ≠ .arr items) {tag : String} :
    tag ∈ filterTags value ↔
      (∃ piece ∈ Text.split ',' value.text, Text.trim piece = tag) ∧ tag ≠ "" := by
  rw [filterTags, List.mem_filter, List.mem_map, Bool.not_eq_true', String.isEmpty_eq_false_iff]
  exact h

/-- The tags of a text are parted in the filter as they are in the record. -/
theorem accepts_filterTags_of_ne_arr {value : Json} (h : ∀ items, value ≠ .arr items)
    (hne : filterTags value ≠ []) : (tags name (filterTags value)).accepts value.text = true := by
  obtain ⟨tag, htag⟩ := List.exists_mem_of_ne_nil _ hne
  obtain ⟨⟨piece, hpiece, rfl⟩, -⟩ := (mem_filterTags_of_ne_arr h).mp htag
  exact accepts_tags_iff.mpr ⟨piece, hpiece, _, htag, Text.tagForm_trim piece⟩

/-- Of the tags of an array the plain ones are found. -/
theorem accepts_filterTags_arr_iff {items : List Json} (hne : filterTags (.arr items) ≠ []) :
    (tags name (filterTags (.arr items))).accepts (Json.arr items).text = true ↔
      ∃ item ∈ items, Text.IsPlainTag item.text := by
  have hitems : items.map Json.text ≠ [] := by
    rintro hnil
    rw [List.map_eq_nil_iff] at hnil
    subst hnil
    exact hne rfl
  rw [accepts_tags_iff, Json.text, Json.texts_eq_map, Text.split_joined rfl hitems]
  constructor
  · rintro ⟨member, hmember, tag, htag, hform⟩
    obtain ⟨⟨item, hitem, rfl⟩, hblank⟩ := mem_filterTags_arr.mp htag
    refine ⟨item, hitem, hblank, ?_⟩
    obtain ⟨text, -, hpiece⟩ := List.mem_flatMap.mp hmember
    rw [← Text.mem_tagForm_iff, ← Text.tagForm_trim, hform, Text.mem_tagForm_iff]
    exact Text.not_mem_of_mem_split hpiece
  · rintro ⟨item, hitem, hblank, hplain⟩
    refine ⟨item.text, List.mem_flatMap.mpr ⟨item.text, List.mem_map_of_mem hitem, ?_⟩,
      Text.trim item.text, mem_filterTags_arr.mpr ⟨⟨item, hitem, rfl⟩, hblank⟩, Text.tagForm_trim _⟩
    rw [Text.split_of_not_mem hplain]
    exact List.mem_singleton_self _

/-! ### Own values -/

variable {options : CoercionOptions} {raw : Json} {value : FieldValue} {predicate : Predicate}

theorem ofFilter_numeric_eq_ok (h : ofFilter name .numeric raw = .ok predicate) :
    ∃ x, filterNumber? raw = some x ∧ predicate = range name x x := by
  rw [ofFilter] at h
  split at h
  · rename_i x hx
    cases h
    exact ⟨x, hx, rfl⟩
  · cases h

theorem ofFilter_tag_eq_ok (h : ofFilter name .tag raw = .ok predicate) :
    filterTags raw ≠ [] ∧ predicate = tags name (filterTags raw) := by
  rw [ofFilter] at h
  split at h
  · cases h
  · rename_i hne
    cases h
    exact ⟨mt List.isEmpty_iff.mpr hne, rfl⟩

theorem ofFilter_text_eq_ok (h : ofFilter name .text raw = .ok predicate) :
    predicate = tokens name raw.text := by
  rw [ofFilter] at h
  split at h
  · cases h
  · cases h
    rfl

/-- The predicate of a value against the text that is stored for it. -/
theorem accepts_own_iff {type : FieldType} (htype : type ≠ .vector)
    (hvalue : Coercion.coerce options name type raw = .ok value)
    (hfilter : ofFilter name type raw = .ok predicate)
    (htext : type = .text →
      options.sanitizes = false ∧ ∃ c ∈ raw.text.toList, Text.isAlphanumeric c = true) :
    predicate.field = name ∧ ∃ stored, value.toBytes = Text.encode stored ∧
      (predicate.accepts stored = true ↔ Recalls type raw) := by
  cases type with
  | numeric =>
    obtain ⟨x, hx, rfl⟩ := ofFilter_numeric_eq_ok hfilter
    have hnumber := Coercion.number?_of_filterNumber? hx
    rw [Coercion.coerce, Coercion.numeric_of_number? hnumber] at hvalue
    cases hvalue
    have hfinite := Coercion.isFinite_of_number? hnumber
    exact ⟨rfl, _, rfl, iff_of_true (accepts_range_self hfinite) trivial⟩
  | tag =>
    obtain ⟨hne, rfl⟩ := ofFilter_tag_eq_ok hfilter
    cases hvalue
    refine ⟨rfl, _, rfl, ?_⟩
    cases raw with
    | arr items => exact accepts_filterTags_arr_iff hne
    | _ =>
      refine iff_of_true (accepts_filterTags_of_ne_arr ?_ hne) trivial
      rintro items ⟨⟩
  | text =>
    obtain ⟨hsanitizes, hword⟩ := htext rfl
    obtain rfl := ofFilter_text_eq_ok hfilter
    rw [Coercion.coerce, if_neg (by simp [hsanitizes])] at hvalue
    cases hvalue
    exact ⟨rfl, _, rfl, iff_of_true (accepts_tokens_self hword) trivial⟩
  | vector => exact absurd rfl htype

/-- **A record is found by its own values**, unless these are tags in an array none of which is
plain. -/
theorem holds_own_iff {index : String} {fields : FieldSet} {source : Json.Members} {field : Field}
    {intake after : Intake} {record : Record} {predicates : List Predicate} {hash : StoredHash}
    (hfield : fields.get? name = some field) (hname : name ≠ Key.idAttribute)
    (htype : field.type ≠ .vector)
    (htext : field.type = .text →
      options.sanitizes = false ∧ ∃ c ∈ raw.text.toList, Text.isAlphanumeric c = true)
    (hraw : Source.find? source name = some raw)
    (hrecord : (Record.ofSource options index fields source).runFrom intake = (.ok record, after))
    (hvalue : record.get? name = some value)
    (hfilter : ofFilters fields [(name, raw)] = .ok predicates)
    (hstored : StoredHash.get? hash name = some value.toBytes) :
    ∃ predicate, predicates = [predicate] ∧
      (predicate.holds hash = true ↔ Recalls field.type raw) := by
  obtain ⟨predicate, hpredicate, rfl⟩ :
      ∃ predicate, ofFilter name field.type raw = .ok predicate ∧ predicates = [predicate] := by
    simp only [ofFilters, List.filterMapM_cons, List.filterMapM_nil, hfield] at hfilter
    cases hpredicate : ofFilter name field.type raw with
    | error cause =>
      rw [hpredicate] at hfilter
      cases hfilter
    | ok predicate =>
      rw [hpredicate] at hfilter
      cases hfilter
      exact ⟨predicate, rfl, rfl⟩
  have hcoerce := Record.coerce_of_get? hrecord hfield hname htype hraw hvalue
  obtain ⟨hname, stored, hbytes, haccepts⟩ := accepts_own_iff htype hcoerce hpredicate htext
  refine ⟨predicate, rfl, ?_⟩
  rw [holds_of_get? (by rw [hname, hstored, hbytes]), haccepts]

/-! ### Tags with commas -/

private def tagged : FieldSet := [⟨"t", .tag, false⟩]

/-- Records without vectors are made while the model does not load. -/
private def idle : Intake := ⟨.ofLoader (fun _ => .error (.embeddingUnavailable "")) 1, ⟨toString, 0⟩⟩

private def mixed : Json := .arr [.str "a,b", .str "c"]

/-- A tag without a comma next to one with a comma. -/
theorem holds_own_of_plain :
    ∃ record after value predicate,
      (Record.ofSource .standard "i" tagged [("id", .str "1"), ("t", mixed)]).runFrom idle =
        (.ok record, after) ∧
      record.get? "t" = some value ∧ ofFilters tagged [("t", mixed)] = .ok [predicate] ∧
      predicate.holds [("t", value.toBytes)] = true := by
  obtain ⟨record, after, value, hrecord, hvalue⟩ : ∃ record after value,
      (Record.ofSource .standard "i" tagged [("id", .str "1"), ("t", mixed)]).runFrom idle =
        (.ok record, after) ∧ record.get? "t" = some value := ⟨_, _, _, rfl, rfl⟩
  obtain ⟨predicates, hfilter⟩ : ∃ predicates, ofFilters tagged [("t", mixed)] = .ok predicates :=
    ⟨_, rfl⟩
  have hfield : FieldSet.get? tagged "t" = some ⟨"t", .tag, false⟩ := rfl
  have hraw : Source.find? [("id", .str "1"), ("t", mixed)] "t" = some mixed := rfl
  have hstored : StoredHash.get? [("t", value.toBytes)] "t" = some value.toBytes := rfl
  obtain ⟨predicate, rfl, hholds⟩ := holds_own_iff hfield (by decide) (by decide) (by decide) hraw
    hrecord hvalue hfilter hstored
  have hplain : Text.IsPlainTag (Json.text (.str "c")) := ⟨by decide, by decide⟩
  exact ⟨record, after, value, predicate, hrecord, hvalue, hfilter,
    hholds.mpr ⟨.str "c", by simp, hplain⟩⟩

/-- A tag with a comma is not found by itself. -/
theorem not_holds_own :
    ¬∀ options index fields source intake record after name field raw value predicates hash,
      FieldSet.get? fields name = some field → name ≠ Key.idAttribute → field.type ≠ .vector →
      (field.type = .text →
        options.sanitizes = false ∧ ∃ c ∈ raw.text.toList, Text.isAlphanumeric c = true) →
      Source.find? source name = some raw →
      (Record.ofSource options index fields source).runFrom intake = (.ok record, after) →
      record.get? name = some value →
      ofFilters fields [(name, raw)] = .ok predicates →
      StoredHash.get? hash name = some value.toBytes →
      ∃ predicate, predicates = [predicate] ∧ predicate.holds hash = true := by
  intro hall
  obtain ⟨predicate, heq, hholds⟩ := hall .standard "i" tagged
    [("id", .str "1"), ("t", .arr [.str "a,b"])] idle _ _ "t" _
    (.arr [.str "a,b"]) (.text "a,b") _ [("t", Text.encode "a,b")] rfl (by decide) (by decide) nofun
    rfl rfl rfl rfl rfl
  obtain rfl : predicate = .tags "t" ["a,b"] := List.singleton_inj.mp heq.symm
  have hfalse : (Predicate.tags "t" ["a,b"]).holds [("t", Text.encode "a,b")] = false := by
    decide +kernel
  rw [hholds] at hfalse
  cases hfalse

end Predicate

end HybridSearch
