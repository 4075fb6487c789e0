import HybridSearch.Proofs.Embedding.LifeCycle
import HybridSearch.Proofs.Schema.Attributes
import HybridSearch.Proofs.Search.Compile
import HybridSearch.Proofs.Text.Trim
import HybridSearch.Proofs.Vector.Codec

/-!
# The shape of a compiled query

Filters are read before anything is embedded, so a filter that cannot be read fails the search and
leaves the gateway alone. A text on an index with a vector becomes a query for the nearest, in which
the clause, the bound parameter, the order and the wanted attributes belong together; any other query
has none of them.

## Main definitions

* `Predicate.IsMalformed` — a filter from which no predicate can be made.
* `Predicate.HasMalformed`, `Predicate.declaredKeys` — a malformed filter on an attribute, and the
  attributes that filters name.
* `FieldSet.IsFirstVector` — the vector that an index is searched by.
* `Query.IsNearest`, `Query.IsPlain` — the two shapes of a query.

## Main results

* `Predicate.ofFilters_cases` — filters fail together, or each on an attribute is a predicate.
* `Query.isNearest_nearestTo` — what belongs together in a query for the nearest.
* `Query.compile_shape` — what a search is compiled to, and when the gateway is asked.
-/

namespace HybridSearch

/-! ### Malformed filters -/

namespace Predicate

/-- A filter that holds nothing to compare an attribute of the type with: no number, no tag that is
not blank, or no text that is not blank. -/
def IsMalformed : FieldType → Json → Prop
  | .numeric, .num _ => False
  | .numeric, .str text => Coercion.amount? text = none
  | .numeric, _ => True
  | .tag, .arr items => ∀ item ∈ items, Text.IsBlankText item.text
  | .tag, value => ∀ piece ∈ Text.split ',' value.text, Text.IsBlankText piece
  | .text, value => Text.IsBlankText value.text
  | .vector, value => Text.IsBlankText value.text

/-- Some filter on an attribute is malformed. -/
def HasMalformed (fields : FieldSet) (filters : Json.Members) : Prop :=
  ∃ filter ∈ filters, ∃ field, fields.get? filter.1 = some field ∧
    IsMalformed field.type filter.2

/-- The attributes that filters name. -/
def declaredKeys (fields : FieldSet) (filters : Json.Members) : List String :=
  (filters.map Prod.fst).filter fun key => (fields.get? key).isSome

variable {fields : FieldSet} {filters : Json.Members} {key : String} {value : Json}

theorem filterNumber?_eq_none_iff :
    filterNumber? value = none ↔ IsMalformed .numeric value := by
  cases value with
  | num number => exact iff_of_false nofun id
  | str text => exact Iff.rfl
  | null => exact iff_of_true rfl trivial
  | bool flag => exact iff_of_true rfl trivial
  | arr items => exact iff_of_true rfl trivial
  | obj members => exact iff_of_true rfl trivial

theorem isEmpty_filterTags : (filterTags value).isEmpty = true ↔ IsMalformed .tag value := by
  have hraw (raw : List String) :
      (((raw.map Text.trim).filter fun tag => !tag.isEmpty).isEmpty = true) ↔
        ∀ piece ∈ raw, Text.IsBlankText piece := by
    rw [List.isEmpty_iff, List.filter_eq_nil_iff, List.forall_mem_map]
    simp only [Bool.not_eq_true', Bool.not_eq_false, Text.isEmpty_trim]
  cases value with
  | arr items => exact (hraw _).trans List.forall_mem_map
  | num number => exact hraw _
  | str text => exact hraw _
  | null => exact hraw _
  | bool flag => exact hraw _
  | obj members => exact hraw _

/-- Escaping adds to a text, so nothing is left of it only where trimming leaves nothing. -/
theorem isEmpty_escape {text : String} :
    (Escape.text text).isEmpty = true ↔ Text.IsBlankText text := by
  rw [String.isEmpty_iff, ← String.toList_eq_nil_iff, Escape.text, String.toList_ofList,
    Escape.escapeChars, List.flatMap_eq_nil_iff, ← Text.isEmpty_trim, String.isEmpty_iff,
    ← String.toList_eq_nil_iff, Text.trim, String.toList_ofList, List.eq_nil_iff_forall_not_mem]
  refine forall₂_congr fun c _ => iff_of_false ?_ id
  split <;> exact List.cons_ne_nil _ _

/-- A filter is malformed, or becomes a predicate on the attribute it names. -/
theorem ofFilter_cases (key : String) (type : FieldType) (value : Json) :
    (IsMalformed type value ∧ ∃ details, ofFilter key type value = .error (.queryCompile details)) ∨
      (¬IsMalformed type value ∧ ∃ p, ofFilter key type value = .ok p ∧ p.field = key) := by
  cases type with
  | numeric =>
    rw [← filterNumber?_eq_none_iff, ofFilter]
    cases filterNumber? value with
    | none => exact .inl ⟨rfl, _, rfl⟩
    | some number => exact .inr ⟨nofun, _, rfl, rfl⟩
  | tag =>
    rw [← isEmpty_filterTags, ofFilter]
    cases (filterTags value).isEmpty with
    | true => exact .inl ⟨rfl, _, if_pos rfl⟩
    | false => exact .inr ⟨nofun, _, if_neg Bool.false_ne_true, rfl⟩
  | text | vector =>
    rw [IsMalformed, ← isEmpty_escape, ofFilter]
    cases (Escape.text value.text).isEmpty with
    | true => exact .inl ⟨rfl, _, if_pos rfl⟩
    | false => exact .inr ⟨nofun, _, if_neg Bool.false_ne_true, rfl⟩

theorem ofFilters_cons (fields : FieldSet) (filter : String × Json) (filters : Json.Members) :
    ofFilters fields (filter :: filters) =
      match fields.get? filter.1 with
      | some field => (ofFilter filter.1 field.type filter.2).bind fun p =>
          (ofFilters fields filters).map (p :: ·)
      | none => ofFilters fields filters := by
  obtain ⟨key, value⟩ := filter
  simp only [ofFilters, List.filterMapM_cons]
  cases fields.get? key with
  | none => rfl
  | some field =>
    dsimp only
    cases ofFilter key field.type value with
    | error cause => rfl
    | ok p =>
      cases filters.filterMapM (m := Except SearchError) _ with
      | error cause => rfl
      | ok rest => rfl

theorem hasMalformed_cons {filter : String × Json} :
    HasMalformed fields (filter :: filters) ↔
      (∃ field, fields.get? filter.1 = some field ∧ IsMalformed field.type filter.2) ∨
        HasMalformed fields filters :=
  List.exists_mem_cons_iff _ _ _

/-- **Filters fail together where one is malformed, and otherwise each on an attribute is a
predicate.** -/
theorem ofFilters_cases (fields : FieldSet) (filters : Json.Members) :
    (HasMalformed fields filters ∧
        ∃ details, ofFilters fields filters = .error (.queryCompile details)) ∨
      (¬HasMalformed fields filters ∧ ∃ predicates, ofFilters fields filters = .ok predicates ∧
        predicates.map field = declaredKeys fields filters) := by
  induction filters with
  | nil => exact .inr ⟨fun ⟨_, h, _⟩ => List.not_mem_nil h, [], rfl, rfl⟩
  | cons filter filters ih =>
    rw [ofFilters_cons, hasMalformed_cons, declaredKeys, List.map_cons, List.filter_cons]
    cases hfield : fields.get? filter.1 with
    | none =>
      have hfirst : ¬∃ field : Field, none = some field ∧ IsMalformed field.type filter.2 := by
        simp
      rw [or_iff_right hfirst]
      exact ih
    | some field =>
      have hfirst : (∃ other, some field = some other ∧ IsMalformed other.type filter.2) ↔
          IsMalformed field.type filter.2 := by simp
      dsimp only
      rw [hfirst]
      rcases ofFilter_cases filter.1 field.type filter.2 with
        ⟨hbad, details, hp⟩ | ⟨hgood, p, hp, hkey⟩
      · rw [hp]
        exact .inl ⟨.inl hbad, details, rfl⟩
      rw [hp, or_iff_right hgood]
      rcases ih with ⟨hbad, details, hrest⟩ | ⟨hgoods, predicates, hrest, hkeys⟩
      · rw [hrest]
        exact .inl ⟨hbad, details, rfl⟩
      · rw [hrest]
        refine .inr ⟨hgoods, p :: predicates, rfl, ?_⟩
        rw [List.map_cons, hkey, hkeys]
        rfl

end Predicate

/-! ### The searched vector -/

namespace FieldSet

/-- The vector that stands before all others. -/
def IsFirstVector (fields : FieldSet) (field : Field) : Prop :=
  ∃ before after, fields = before ++ field :: after ∧ field.type = .vector ∧
    ∀ other ∈ before, other.type ≠ .vector

theorem vectorField?_eq_some_iff {fields : FieldSet} {field : Field} :
    fields.vectorField? = some field ↔ fields.IsFirstVector field := by
  rw [vectorField?, List.find?_eq_some_iff_append]
  simp only [IsFirstVector, beq_iff_eq, Bool.not_eq_true', beq_eq_false_iff_ne]
  constructor
  · rintro ⟨htype, before, after, hfields, hbefore⟩
    exact ⟨before, after, hfields, htype, hbefore⟩
  · rintro ⟨before, after, hfields, htype, hbefore⟩
    exact ⟨htype, before, after, hfields, hbefore⟩

theorem vectorField?_eq_none_iff {fields : FieldSet} :
    fields.vectorField? = none ↔ ∀ field ∈ fields, field.type ≠ .vector := by
  rw [vectorField?, List.find?_eq_none]
  simp only [beq_iff_eq, ne_eq]

end FieldSet

theorem freeText?_eq_none_iff {text : Option String} :
    freeText? text = none ↔ ∀ given ∈ text, Text.IsBlankText given := by
  cases text with
  | none => exact iff_of_true rfl nofun
  | some given =>
    simp only [freeText?, Option.map_some, Option.filter_some, Option.mem_some_iff,
      forall_eq', ← Text.isEmpty_trim]
    cases (Text.trim given).isEmpty <;> simp

theorem freeText?_of_not_blank {given : String} (h : ¬Text.IsBlankText given) :
    freeText? (some given) = some (Text.trim given) := by
  rw [← Text.isEmpty_trim, Bool.not_eq_true] at h
  rw [freeText?, Option.map_some, Option.filter_some, h]
  rfl

/-- A gateway gives vectors of its own dimension only. -/
theorem Gateway.length_of_embed {gateway after : Gateway} {input : EmbeddingInput}
    {vector : Embedding} (h : (embed input).runFrom gateway = (.ok vector, after)) :
    vector.length = gateway.dimensions := by
  have hend := embed_cases input gateway
  rw [h] at hend
  rcases hend with ⟨model, -, hcall⟩ | ⟨-, details, hcall⟩
  · exact length_of_embedWith hcall.symm
  · cases hcall

/-! ### The two shapes -/

namespace Query

/-- A query with one predicate for each filter on an attribute, put together as asked. -/
structure IsFor (fields : FieldSet) (filters : Json.Members) (combinator : Combinator)
    (limit : Nat) (query : Query) : Prop where
  predicates_eq : query.predicates.map Predicate.field = Predicate.declaredKeys fields filters
  combinator_eq : query.combinator = combinator
  limit_eq : query.limit = limit

/-- A query for the nearest to a vector of a given length, with the parameter that holds it, the
distance as its order, and everything but vectors wanted. -/
structure IsNearest (fields : FieldSet) (dimensions limit : Nat) (wantParents : Bool)
    (field : Field) (vector : Embedding) (query : Query) : Prop where
  nearest_eq : query.nearest = some ⟨field.name, vector, limit⟩
  length_vector : vector.length = dimensions
  params_eq : query.params = [(vectorParam, vector.encode)]
  length_param : vector.encode.length = 4 * dimensions
  sortBy_eq : query.sortBy = some ⟨distanceField, true⟩
  literal_eq : query.literal = none
  distance_mem : distanceField ∈ query.returnFields
  name_mem : ∀ other ∈ fields, other.type ≠ .vector → other.name ∈ query.returnFields
  parent_mem : wantParents = true → parentField ∈ query.returnFields
  vector_notMem : ∀ other ∈ fields, other.type = .vector → other.name ∉ query.returnFields

/-- A query that is answered by words and predicates alone. -/
structure IsPlain (text : Option String) (query : Query) : Prop where
  nearest_eq : query.nearest = none
  sortBy_eq : query.sortBy = none
  params_eq : query.params = []
  returnFields_eq : query.returnFields = []
  literal_eq : query.literal = freeText? text

variable {fields : FieldSet} {definition : IndexDefinition} {space : VectorSpace} {index : String}
  {filters : Json.Members} {predicates : List Predicate} {combinator : Combinator}
  {limit dimensions : Nat} {wantParents : Bool} {text : Option String} {given : String}
  {vector : Embedding} {field : Field} {gateway after : Gateway}

/-- Vectors are named so that they are neither the distance nor the parents, and no other attribute
has the name of one. -/
theorem vector_notMem_projection (hwell : definition.WellFormed space index) {other : Field}
    (hother : other ∈ definition.fieldSet) (hvector : other.type = .vector) :
    other.name ∉ projection definition.fieldSet wantParents := by
  obtain ⟨a, ha, rfl⟩ := List.mem_map.mp hother
  have hname : Key.isVectorAttribute a.name = true :=
    IndexDefinition.DeclaresVector.isVectorAttribute ⟨a, ha, rfl, hvector⟩ hwell
  rw [mem_projection_iff]
  rintro (⟨same, hsame, htype, heq⟩ | hdistance | ⟨-, hparent⟩)
  · have hget := FieldSet.get?_of_mem hwell.nodup_fieldSet hsame
    rw [heq, FieldSet.get?_of_mem hwell.nodup_fieldSet hother] at hget
    exact htype (Option.some.inj hget ▸ hvector)
  · rw [show a.name = distanceField from hdistance] at hname
    exact absurd hname (by decide)
  · rw [show a.name = parentField from hparent] at hname
    exact absurd hname (by decide)

theorem isNearest_nearestTo (hwell : definition.WellFormed space index)
    (hlength : vector.length = dimensions) :
    ((ofPredicates predicates combinator limit).nearestTo field.name vector
      (projection definition.fieldSet wantParents)).IsNearest definition.fieldSet dimensions limit
        wantParents field vector where
  nearest_eq := rfl
  length_vector := hlength
  params_eq := rfl
  length_param := by rw [Embedding.length_encode, hlength]
  sortBy_eq := rfl
  literal_eq := rfl
  distance_mem := mem_projection_iff.mpr (.inr (.inl rfl))
  name_mem other hother htype := mem_projection_iff.mpr (.inl ⟨other, hother, htype, rfl⟩)
  parent_mem hwant := mem_projection_iff.mpr (.inr (.inr ⟨hwant, rfl⟩))
  vector_notMem _ hother hvector := vector_notMem_projection hwell hother hvector

/-! ### What a search is compiled to -/

/-- A search for blanks has its predicates, if it has any. -/
theorem runFrom_compile_of_blank (hfilters : Predicate.ofFilters fields filters = .ok predicates)
    (htext : freeText? text = none) :
    (compile fields text filters combinator limit wantParents).runFrom gateway =
      (.ok (if predicates.isEmpty then none else some (ofPredicates predicates combinator limit)),
        gateway) := by
  rw [compile, hfilters, htext]
  rfl

/-- Without a vector the words of a text are looked for. -/
theorem runFrom_compile_of_words (hfilters : Predicate.ofFilters fields filters = .ok predicates)
    (htext : freeText? text = some given) (hvector : fields.vectorField? = none) :
    (compile fields text filters combinator limit wantParents).runFrom gateway =
      (.ok (some { ofPredicates predicates combinator limit with literal := some given }),
        gateway) := by
  rw [compile, hfilters, htext, hvector]
  rfl

theorem runFrom_compile_of_embed (hfilters : Predicate.ofFilters fields filters = .ok predicates)
    (htext : freeText? text = some given) (hvector : fields.vectorField? = some field)
    (hembed : (Gateway.embed (.text given)).runFrom gateway = (.ok vector, after)) :
    (compile fields text filters combinator limit wantParents).runFrom gateway =
      (.ok (some ((ofPredicates predicates combinator limit).nearestTo field.name vector
        (projection fields wantParents))), after) := by
  have hbind {α : Type} (next : List Predicate → Attempt SearchError Gateway α) :
      Attempt.ofExcept (.ok predicates) >>= next = next predicates := rfl
  rw [compile, hfilters, hbind, htext, hvector]
  exact Attempt.runFrom_bind_of_ok hembed

/-- A search for blanks or on an index without a vector. -/
theorem exists_plain (hfilters : Predicate.ofFilters fields filters = .ok predicates)
    (hkeys : predicates.map Predicate.field = Predicate.declaredKeys fields filters)
    (hcase : (∀ given ∈ text, Text.IsBlankText given) ∨ ∀ field ∈ fields, field.type ≠ .vector) :
    ∃ result, (∀ gateway, (compile fields text filters combinator limit wantParents).runFrom
        gateway = (.ok result, gateway)) ∧
      (result = none ↔
        (∀ given ∈ text, Text.IsBlankText given) ∧ Predicate.declaredKeys fields filters = []) ∧
      ∀ query ∈ result, query.IsFor fields filters combinator limit ∧ query.IsPlain text := by
  cases hfree : freeText? text with
  | none =>
    refine ⟨_, fun gateway => runFrom_compile_of_blank hfilters hfree, ?_, ?_⟩
    · rw [and_iff_right (freeText?_eq_none_iff.mp hfree), ← hkeys, List.map_eq_nil_iff]
      cases predicates <;> simp
    · intro query hquery
      obtain ⟨-, hquery⟩ := Option.ite_none_left_eq_some.mp hquery
      obtain rfl := Option.some.inj hquery
      exact ⟨⟨hkeys, rfl, rfl⟩, rfl, rfl, rfl, rfl, hfree.symm⟩
  | some given =>
    have hblank : ¬∀ given ∈ text, Text.IsBlankText given := fun h => by
      rw [freeText?_eq_none_iff.mpr h] at hfree
      cases hfree
    have hvector := FieldSet.vectorField?_eq_none_iff.mpr (hcase.resolve_left hblank)
    refine ⟨_, fun gateway => runFrom_compile_of_words hfilters hfree hvector, ?_, ?_⟩
    · exact iff_of_false nofun fun h => hblank h.1
    · rintro _ ⟨⟩
      exact ⟨⟨hkeys, rfl, rfl⟩, rfl, rfl, rfl, rfl, hfree.symm⟩

/-- **The shape of a compiled query, and when the gateway is asked for a vector.**

A malformed filter on an attribute fails the search. Without one, a search for blanks or on an index
without a vector is compiled from the filters and the words; it is nothing only if there are neither.
Both end alike from every gateway and leave it as it is. Any other text is embedded as the vector of
a query for the nearest. -/
theorem compile_shape (index : String) (space : VectorSpace) (declared : List Field)
    (text : Option String) (filters : Json.Members) (combinator : Combinator) (limit : Nat)
    (wantParents : Bool) :
    let fields := (IndexDefinition.compile index space declared).fieldSet
    let run := (compile fields text filters combinator limit wantParents).runFrom
    let isBlank := ∀ given ∈ text, Text.IsBlankText given
    (Predicate.HasMalformed fields filters →
      ∃ details, ∀ gateway, run gateway = (.error (.queryCompile details), gateway)) ∧
    (¬Predicate.HasMalformed fields filters →
      (isBlank ∨ ∀ field ∈ fields, field.type ≠ .vector) →
      ∃ result, (∀ gateway, run gateway = (.ok result, gateway)) ∧
        (result = none ↔ isBlank ∧ Predicate.declaredKeys fields filters = []) ∧
        ∀ query ∈ result, query.IsFor fields filters combinator limit ∧ query.IsPlain text) ∧
    (¬Predicate.HasMalformed fields filters →
      ∀ given, text = some given → ¬Text.IsBlankText given →
      ∀ field, fields.IsFirstVector field →
      ∀ gateway after vector,
        (Gateway.embed (.text (Text.trim given))).runFrom gateway = (.ok vector, after) →
      ∃ query, run gateway = (.ok (some query), after) ∧
        query.IsFor fields filters combinator limit ∧
        query.IsNearest fields gateway.dimensions limit wantParents field vector) := by
  intro fields run isBlank
  have hwell := IndexDefinition.wellFormed_compile index space declared
  rcases Predicate.ofFilters_cases fields filters with
    ⟨hbad, details, hfilters⟩ | ⟨hgood, predicates, hfilters, hkeys⟩
  · exact ⟨fun _ => ⟨details, fun gateway => compile_of_error hfilters⟩,
      fun h => absurd hbad h, fun h => absurd hbad h⟩
  refine ⟨fun h => absurd h hgood, fun _ hcase => exists_plain hfilters hkeys hcase, ?_⟩
  intro _ given htext hgiven field hfield gateway after vector hembed
  have hfree : freeText? text = some (Text.trim given) := by
    rw [htext, freeText?_of_not_blank hgiven]
  have hvector := FieldSet.vectorField?_eq_some_iff.mpr hfield
  exact ⟨_, runFrom_compile_of_embed hfilters hfree hvector hembed, ⟨hkeys, rfl, rfl⟩,
    isNearest_nearestTo hwell (Gateway.length_of_embed hembed)⟩

end Query

end HybridSearch
