import HybridSearch.Proofs.Ingest.Ingested
import HybridSearch.Proofs.Ingest.Making
import HybridSearch.Proofs.Schema.Attributes
import HybridSearch.Proofs.Schema.Expansion
import HybridSearch.Proofs.Search.Compile
import HybridSearch.Proofs.Search.Failure
import HybridSearch.Proofs.Search.Neighbours
import HybridSearch.Proofs.Search.Repetition
import HybridSearch.Proofs.Search.StoredReferences

/-!
# What the nearest show of a record

A search by filters returns a record as it is stored, and a search for the nearest the attributes
that it wants of it, to which the store adds the distance. Of a record that was ingested for the
attributes of the index both show the same, except under the name of the distance. An attribute that
is declared under that name is wanted twice, and the nearest show the distance in its place.

## Main definitions

* `Hit.ShowsWith` — a hit that shows what another one shows, and a distance.
* `Hit.ShowsDeclared` — a hit that shows nothing but attributes of the index.
* `Service.Compares` — a request for the nearest and one by filters, over one store.
* `Service.Measures` — the distance of a record from what a request asks for.

## Main results

* `MemoryStore.lookup_project_distance` — the distance comes before what is stored under its name.
* `Hit.showsWith_ofDocument` — one record with its distance and without.
* `Service.nearest_shows_scalar` — a record that is returned by both searches.
-/

namespace HybridSearch

namespace Hit

/-- A hit shows what another one shows, and the distance under its name. -/
structure ShowsWith (distance : Float) (hit plain : Hit) : Prop where
  distance : hit.get? Query.distanceField =
    some (readValue (Layout.plain.render distance) true)
  others : ∀ name, name ≠ Query.distanceField → hit.get? name = plain.get? name

/-- A hit shows nothing but attributes of the index that are no vectors. -/
def ShowsDeclared (definition : IndexDefinition) (hit : Hit) : Prop :=
  ∀ name, (hit.get? name).isSome →
    name ∈ definition.attributes.map Attribute.name ∧ ¬definition.DeclaresVector name

end Hit

/-! ### Names of attributes -/

namespace IndexDefinition

variable {index name : String} {space : VectorSpace} {declared : List Field}
  {definition : IndexDefinition}

/-- Apart from the id and from vectors, the attributes of an index are named as its fields. -/
theorem mem_names_compile_iff (hid : name ≠ Key.idAttribute)
    (hvector : Key.isVectorAttribute name = false) :
    name ∈ (compile index space declared).attributes.map Attribute.name ↔
      name ∈ declared.map Field.name := by
  have hdeclared : name ∈ (Attribute.compile space declared).map Attribute.name ↔
      name ∈ declared.map Field.name := by
    rw [Attribute.mem_names_compile_iff, List.mem_map]
    refine exists_congr fun field => and_congr_right fun _ => ?_
    rw [or_iff_left, eq_comm]
    rintro ⟨-, rfl⟩
    rw [Key.isVectorAttribute_vectorAttribute] at hvector
    cases hvector
  rw [← hdeclared, List.mem_map, List.mem_map]
  constructor
  · rintro ⟨a, ha, rfl⟩
    rcases Attribute.mem_addNew ha with ha | rfl
    · exact ⟨a, ha, rfl⟩
    · exact absurd rfl hid
  · rintro ⟨a, ha, rfl⟩
    exact ⟨a, Attribute.subset_addNew _ ha, rfl⟩

/-- An attribute that is not a vector is a field of the index that is none. -/
theorem exists_field_of_mem_names (hwell : definition.WellFormed space index)
    (hname : name ∈ definition.attributes.map Attribute.name)
    (hvector : Hit.isVector (some definition.fieldSet) name = false) :
    ∃ field ∈ definition.fieldSet, field.type ≠ .vector ∧ field.name = name := by
  rw [← map_name_fieldSet] at hname
  obtain ⟨field, hfield, rfl⟩ := List.mem_map.mp hname
  refine ⟨field, hfield, fun htype => ?_, rfl⟩
  rw [Hit.isVector, FieldSet.get?_of_mem hwell.nodup_fieldSet hfield, Option.any_some,
    htype] at hvector
  cases hvector

theorem isVector_distanceField (hwell : definition.WellFormed space index) :
    Hit.isVector (some definition.fieldSet) Query.distanceField = false := by
  refine Bool.eq_false_iff.mpr fun hvector => ?_
  have hname := ((isVector_iff hwell).mp hvector).isVectorAttribute hwell
  exact absurd hname (by decide)

/-- Every wanted attribute is named once, unless one is declared under the name of the distance. -/
theorem nodup_projection_iff (hwell : definition.WellFormed space index) (wantParents : Bool) :
    (Query.projection definition.fieldSet wantParents).Nodup ↔
      Query.distanceField ∉ definition.attributes.map Attribute.name := by
  rw [Query.nodup_projection_iff hwell.nodup_fieldSet]
  constructor
  · intro h hname
    obtain ⟨field, hfield, htype, hdist⟩ :=
      definition.exists_field_of_mem_names hwell hname (definition.isVector_distanceField hwell)
    exact h field hfield htype hdist
  · intro h field hfield _ hdist
    rw [← map_name_fieldSet, ← hdist] at h
    exact h (List.mem_map_of_mem hfield)

end IndexDefinition

/-! ### One record -/

/-- The distance comes before what is stored under its name. -/
theorem MemoryStore.lookup_project_distance {returnFields : List String} {m : Match}
    {distance : Float} (hdistance : m.distance = some distance)
    (hwanted : Query.distanceField ∈ returnFields) :
    (project returnFields m).reverse.lookup Query.distanceField =
      some (Text.encode (Layout.plain.render distance)) := by
  have hcontains : (returnFields.isEmpty || returnFields.contains Query.distanceField) = true := by
    simp [hwanted]
  rw [project, hdistance]
  dsimp only
  rw [if_pos hcontains, List.reverse_append, List.reverse_singleton, List.singleton_append,
    lookup_cons_ite, if_pos rfl]

/-- **One record with its distance and without**: the wanted attributes and all that is stored. -/
theorem Hit.showsWith_ofDocument {definition : IndexDefinition} {space : VectorSpace}
    {index : String} (hwell : definition.WellFormed space index) {m plain : MemoryStore.Match}
    (hingested : StoredHash.Ingested definition.fieldSet m.hash) (hhash : plain.hash = m.hash)
    {distance : Float} (hdistance : m.distance = some distance) (wantParents : Bool) :
    ShowsWith distance
      (ofDocument (Key.space index) definition.fieldSet
        ⟨m.key, MemoryStore.project (Query.projection definition.fieldSet wantParents) m⟩)
      (ofDocument (Key.space index) definition.fieldSet
        ⟨plain.key, MemoryStore.project [] plain⟩) where
  distance := by
    have hwanted : Query.distanceField ∈ Query.projection definition.fieldSet wantParents :=
      Query.mem_projection_iff.mpr (Or.inr (Or.inl rfl))
    rw [get?, ofDocument, get?_readFields, definition.isVector_distanceField hwell,
      MemoryStore.lookup_project_distance hdistance hwanted, if_neg Bool.false_ne_true,
      Option.map_some, Text.decodeLossy_encode, isNumeric, beq_self_eq_true, Bool.true_or]
  others name hname := by
    have hnodup : (plain.hash.map Prod.fst).Nodup := hhash ▸ hingested.nodup
    have hall := MemoryStore.lookup_project [] hnodup hname
    rw [get?, get?, ofDocument, ofDocument, get?_readFields, get?_readFields,
      MemoryStore.lookup_project _ hingested.nodup hname, hall, if_pos (Or.inl rfl), hhash]
    cases hvector : isVector (some definition.fieldSet) name with
    | true => rfl
    | false =>
      cases hstored : StoredHash.get? m.hash name with
      | none => simp
      | some bytes =>
        have hnames := hingested.mem_attributes hwell (Option.isSome_of_eq_some hstored)
        have hwanted : name ∈ Query.projection definition.fieldSet wantParents :=
          Query.mem_projection_iff.mpr
            (Or.inl (definition.exists_field_of_mem_names hwell hnames hvector))
        rw [if_pos (Or.inr hwanted)]

/-- A whole record shows nothing but attributes of the index that are no vectors. -/
theorem Hit.showsDeclared_ofDocument {definition : IndexDefinition} {space : VectorSpace}
    {index : String} (hwell : definition.WellFormed space index) {m : MemoryStore.Match}
    (hingested : StoredHash.Ingested definition.fieldSet m.hash) (hplain : m.distance = none) :
    (ofDocument (Key.space index) definition.fieldSet
      ⟨m.key, MemoryStore.project [] m⟩).ShowsDeclared definition := by
  have hproject : MemoryStore.project [] m = m.hash := by
    rw [MemoryStore.project, hplain]
    rfl
  intro name hname
  rw [get?, ofDocument, hproject, get?_readFields] at hname
  split at hname
  · cases hname
  · rename_i hvector
    rw [Option.isSome_map, lookup_reverse hingested.nodup] at hname
    rw [IndexDefinition.isVector_iff hwell] at hvector
    exact ⟨hingested.mem_attributes hwell hname, hvector⟩

/-! ### Both searches -/

namespace MemoryStore

variable {definition : IndexDefinition} {query : Query} {m : Match}

/-- What matches a query for the nearest is one of its candidates. -/
theorem exists_isCandidate_of_match? {store : MemoryStore} {clause : VectorClause}
    (hnearest : query.nearest = some clause) (hmember : (m.key, m.hash) ∈ store.members definition)
    (h : match? definition query m.key m.hash = some m) :
    ∃ candidate, store.IsCandidate definition query clause candidate ∧ candidate.toMatch = m := by
  rw [match?_of_nearest hnearest (m.key, m.hash), Option.map_eq_some_iff] at h
  obtain ⟨candidate, hcandidate, hmatch⟩ := h
  exact ⟨candidate, mem_candidates_iff.mp (List.mem_filterMap.mpr ⟨_, hmember, hcandidate⟩), hmatch⟩

theorem distance_of_not_nearest (hnearest : query.nearest = none)
    (h : match? definition query m.key m.hash = some m) : m.distance = none := by
  rw [match?, hnearest] at h
  dsimp only at h
  split at h
  · rw [← Option.some.inj h]
  · cases h

end MemoryStore

namespace Service

variable {α : Type} {service : Service MemoryStore α} {definition : IndexDefinition}
  {space : VectorSpace} {request : SearchRequest} {response : SearchResponse} {hit : Hit}

/-- A hit shows a member of the index that matches the query of the request. -/
theorem exists_match_of_mem_hits (hwell : definition.WellFormed space request.index)
    (hindex : service.store.indexes.get? request.index = some definition)
    (hresult : service.result request = .ok response) (hhit : hit ∈ response.hits) :
    ∃ query m, ((compiled request definition.fieldSet).runFrom
        service.workspace.intake.gateway).1 = .ok (some query) ∧
      (m.key, m.hash) ∈ service.store.members definition ∧
      MemoryStore.match? definition query m.key m.hash = some m ∧
      m.key = Key.record request.index hit.id ∧
      hit = .ofDocument (Key.space request.index) definition.fieldSet
        ⟨m.key, MemoryStore.project query.returnFields m⟩ := by
  rw [result_eq_bind, MemoryStore.definition_eq_ok_iff.mpr hindex] at hresult
  obtain ⟨_, hcompiled, hanswer⟩ := Attempt.except_bind_eq_ok.mp
    (show (Except.bind _ (answer service.store request definition.fieldSet)) = _ from hresult)
  obtain ⟨query, documents, rfl, hsearch, document, hdocument, rfl⟩ :=
    exists_documents_of_answer hanswer hhit
  obtain ⟨other, hother, hdocuments⟩ := MemoryStore.search_eq_ok hsearch
  obtain rfl := Option.some.inj (hindex.symm.trans hother)
  obtain ⟨m, hmember, hmatch, rfl⟩ := hdocuments document hdocument
  refine ⟨query, m, hcompiled, hmember, hmatch, ?_, rfl⟩
  have hstart := (MemoryStore.mem_members_iff.mp hmember).2
  rw [hwell.keySpace_eq] at hstart
  obtain ⟨id, hid⟩ := Option.isSome_iff_exists.mp hstart
  rw [Hit.ofDocument, StoredDocument.id, hid, Option.getD_some]
  exact Key.startsWith?_space.mp hid

/-- How a compiled query came out of the request. -/
theorem returnFields_of_compiled {fields : FieldSet} {gateway : Gateway} {query : Query}
    (h : ((compiled request fields).runFrom gateway).1 = .ok (some query)) :
    (query.nearest.isSome ∧ query.returnFields = Query.projection fields request.parents ∧
        request.freeText?.isSome) ∨
      query.nearest = none ∧ query.returnFields = [] ∧
        (request.freeText? = none ∨ fields.vectorField? = none) := by
  obtain ⟨_, hcompile⟩ := exists_compile_of_compiled h
  have hfree : HybridSearch.freeText? request.freeText? = request.freeText? :=
    freeText?_freeText? request.query
  rw [← hfree]
  exact Query.returnFields_of_runFrom_compile hcompile

/-- Two requests to one index of ingested records, over one store: one for the nearest, and one by
filters alone. -/
structure Compares (definition : IndexDefinition) (near plain : Service MemoryStore α)
    (nearest scalar : SearchRequest) : Prop where
  store_eq : plain.store = near.store
  index_eq : scalar.index = nearest.index
  indexed : near.store.indexes.get? nearest.index = some definition
  ingested : near.store.IngestedUnder definition
  text : nearest.freeText?.isSome
  vector : definition.fieldSet.vectorField?.isSome
  no_text : scalar.freeText? = none

/-- The record of that id is a candidate of the request, at that distance. -/
def Measures (definition : IndexDefinition) (service : Service MemoryStore α)
    (request : SearchRequest) (id : String) (distance : Float) : Prop :=
  ∃ query clause candidate,
    ((compiled request definition.fieldSet).runFrom service.workspace.intake.gateway).1 =
      .ok (some query) ∧
    query.nearest = some clause ∧
    service.store.IsCandidate definition query clause candidate ∧
    candidate.key = Key.record request.index id ∧ candidate.distance = distance

namespace Compares

variable {near plain : Service MemoryStore α} {nearest scalar : SearchRequest}

/-- The request for the nearest wants the projection, whatever the gateway embeds. -/
theorem returnFields_eq (h : Compares definition near plain nearest scalar) {gateway : Gateway}
    {query : Query} (hquery : ((compiled nearest definition.fieldSet).runFrom gateway).1 =
      .ok (some query)) :
    query.nearest.isSome ∧
      query.returnFields = Query.projection definition.fieldSet nearest.parents := by
  rcases returnFields_of_compiled hquery with ⟨hnearest, hreturn, -⟩ | ⟨-, -, hnone | hnone⟩
  · exact ⟨hnearest, hreturn⟩
  · exact absurd h.text (by simp [hnone])
  · exact absurd h.vector (by simp [hnone])

/-- The two hits of one record. -/
theorem showsWith (h : Compares definition near plain nearest scalar)
    (hwell : definition.WellFormed space nearest.index) {found listed : SearchResponse}
    (hfound : near.result nearest = .ok found) (hlisted : plain.result scalar = .ok listed)
    {hit other : Hit} (hhit : hit ∈ found.hits) (hother : other ∈ listed.hits)
    (hid : hit.id = other.id) :
    (∃ distance, Measures definition near nearest hit.id distance ∧ hit.ShowsWith distance other) ∧
      other.ShowsDeclared definition := by
  have hplainWell : definition.WellFormed space scalar.index := h.index_eq ▸ hwell
  have hplainIndexed : plain.store.indexes.get? scalar.index = some definition := by
    rw [h.store_eq, h.index_eq, h.indexed]
  obtain ⟨query, m, hquery, hmember, hmatch, hkey, hshown⟩ :=
    exists_match_of_mem_hits hwell h.indexed hfound hhit
  obtain ⟨filter, whole, hfilter, hwhole, hlistedMatch, hwholeKey, hotherShown⟩ :=
    exists_match_of_mem_hits hplainWell hplainIndexed hlisted hother
  obtain ⟨hnearest, hreturn⟩ := h.returnFields_eq hquery
  obtain ⟨clause, hclause⟩ := Option.isSome_iff_exists.mp hnearest
  obtain ⟨candidate, hcandidate, rfl⟩ :=
    MemoryStore.exists_isCandidate_of_match? hclause hmember hmatch
  obtain ⟨hplain, hall⟩ : filter.nearest = none ∧ filter.returnFields = [] := by
    rcases returnFields_of_compiled hfilter with ⟨-, -, htext⟩ | ⟨hnone, hall, -⟩
    · rw [h.no_text] at htext
      cases htext
    · exact ⟨hnone, hall⟩
  have hhash : whole.hash = candidate.toMatch.hash := by
    rw [h.store_eq] at hwhole
    have hsame : whole.key = candidate.toMatch.key := by
      rw [hwholeKey, hkey, hid, h.index_eq]
    have hstored := (MemoryStore.mem_members_iff.mp hwhole).1
    rw [hsame, (MemoryStore.mem_members_iff.mp hmember).1] at hstored
    exact (Option.some.inj hstored).symm
  have hingested := h.ingested _ hmember
  rw [hotherShown, hall, h.index_eq]
  refine ⟨⟨candidate.distance, ⟨query, clause, candidate, hquery, hclause, hcandidate, hkey, rfl⟩,
    ?_⟩, ?_⟩
  · rw [hshown, hreturn]
    exact Hit.showsWith_ofDocument hwell hingested hhash rfl nearest.parents
  · exact Hit.showsDeclared_ofDocument hwell (hhash ▸ hingested)
      (MemoryStore.distance_of_not_nearest hplain hlistedMatch)

end Compares

/-- **What the nearest show is what filters show, and a distance.** A record that is returned by
both requests shows the same under all names but that of the distance, and by filters nothing but
declared attributes. Where an attribute is declared under the name of the distance it is wanted
twice of the nearest, and they agree on all declared attributes only if the record holds the
distance itself under that name. -/
theorem nearest_shows_scalar {declared : List Field} {near plain : Service MemoryStore α}
    {nearest scalar : SearchRequest}
    (h : Compares (.compile nearest.index space declared) near plain nearest scalar) :
    (∀ gateway query,
      ((compiled nearest (IndexDefinition.compile nearest.index space declared).fieldSet).runFrom
        gateway).1 = .ok (some query) →
      (query.returnFields.Nodup ↔ Query.distanceField ∉ declared.map Field.name)) ∧
    ∀ found listed, near.result nearest = .ok found → plain.result scalar = .ok listed →
      ∀ hit ∈ found.hits, ∀ other ∈ listed.hits, hit.id = other.id →
        (∃ distance,
          Measures (.compile nearest.index space declared) near nearest hit.id distance ∧
            hit.ShowsWith distance other) ∧
        other.ShowsDeclared (.compile nearest.index space declared) ∧
        ((∀ a ∈ (IndexDefinition.compile nearest.index space declared).attributes,
            hit.get? a.name = other.get? a.name) ↔
          (Query.distanceField ∈ declared.map Field.name →
            hit.get? Query.distanceField = other.get? Query.distanceField)) := by
  have hnames : Query.distanceField ∈
      (IndexDefinition.compile nearest.index space declared).attributes.map Attribute.name ↔
        Query.distanceField ∈ declared.map Field.name :=
    IndexDefinition.mem_names_compile_iff (by decide) (by decide)
  have hwell := IndexDefinition.wellFormed_compile nearest.index space declared
  generalize IndexDefinition.compile nearest.index space declared = definition at *
  refine ⟨fun gateway query hquery => ?_,
    fun found listed hfound hlisted hit hhit other hother hid => ?_⟩
  · rw [(h.returnFields_eq hquery).2, definition.nodup_projection_iff hwell, hnames]
  · obtain ⟨⟨distance, hmeasures, hshows⟩, hdeclared⟩ :=
      h.showsWith hwell hfound hlisted hhit hother hid
    refine ⟨⟨distance, hmeasures, hshows⟩, hdeclared, ?_⟩
    rw [← hnames]
    constructor
    · intro hagree hname
      obtain ⟨a, ha, hdist⟩ := List.mem_map.mp hname
      rw [← hdist]
      exact hagree a ha
    · intro hdist a ha
      by_cases hname : a.name = Query.distanceField
      · rw [hname]
        exact hdist (hname ▸ List.mem_map_of_mem ha)
      · exact hshows.others a.name hname

/-- A service with one index, into which one row was ingested. -/
private def stocked (declared : List Field) (row : Json.Members) : Service MemoryStore Unit :=
  let definition := IndexDefinition.compile "i" ⟨1, .l2⟩ declared
  let store : MemoryStore := ⟨Dict.empty.insert "i" definition, .empty⟩
  ⟨.standard, none, ((Ingest.inOrder .standard "i" definition.fieldSet
    [(1, .ok (.obj row))]).run ⟨store, .sample⟩).2⟩

private def byText : SearchRequest := { SearchRequest.ofIndex "i" with query := some "x" }

private def byTag : SearchRequest := { SearchRequest.ofIndex "i" with filters := [("t", .str "y")] }

private theorem ingestedUnder_stocked (declared : List Field) (row : Json.Members) :
    (stocked declared row).store.IngestedUnder (.compile "i" ⟨1, .l2⟩ declared) :=
  .ends (Ingest.ends_inOrder .standard "i" _ _ _) nofun

private theorem exists_hit_of_result {β : Type} {service : Service MemoryStore Unit}
    {request : SearchRequest} {f : Hit → β} {b : β}
    (h : (service.result request).toOption.map (fun response => response.hits.map f) = some [b]) :
    ∃ response, service.result request = .ok response ∧ ∃ hit ∈ response.hits, f hit = b := by
  cases hresult : service.result request with
  | error cause =>
    rw [hresult] at h
    cases h
  | ok response =>
    rw [hresult] at h
    have hhits : response.hits.map f = [b] := Option.some.inj h
    exact ⟨response, rfl, List.mem_map.mp (hhits ▸ List.mem_cons_self)⟩

private def plainFields : List Field := [⟨"e", .vector, false⟩, ⟨"t", .tag, false⟩]

private def plainRow : Json.Members := [("e", .str "x"), ("id", .str "1"), ("t", .str "y")]

/-- A record that is found for its vector and by its tag. -/
theorem nearest_shows_scalar_of_tagged :
    ∃ found listed hit other, (stocked plainFields plainRow).result byText = .ok found ∧
      (stocked plainFields plainRow).result byTag = .ok listed ∧ hit ∈ found.hits ∧
      other ∈ listed.hits ∧ hit.id = other.id ∧
      ∀ a ∈ (IndexDefinition.compile "i" ⟨1, .l2⟩ plainFields).attributes,
        hit.get? a.name = other.get? a.name := by
  have hcompares : Compares (.compile "i" ⟨1, .l2⟩ plainFields) (stocked plainFields plainRow)
      (stocked plainFields plainRow) byText byTag :=
    ⟨rfl, rfl, by decide +kernel, ingestedUnder_stocked plainFields plainRow, by decide +kernel,
      by decide +kernel, rfl⟩
  obtain ⟨found, hfound, hit, hhit, hid⟩ := exists_hit_of_result
    (show ((stocked plainFields plainRow).result byText).toOption.map
      (fun response => response.hits.map Hit.id) = some ["1"] by decide +kernel)
  obtain ⟨listed, hlisted, other, hother, hotherId⟩ := exists_hit_of_result
    (show ((stocked plainFields plainRow).result byTag).toOption.map
      (fun response => response.hits.map Hit.id) = some ["1"] by decide +kernel)
  have hsame : hit.id = other.id := hid.trans hotherId.symm
  refine ⟨found, listed, hit, other, hfound, hlisted, hhit, hother, hsame, ?_⟩
  exact ((nearest_shows_scalar hcompares).2 found listed hfound hlisted hit hhit other hother
    hsame).2.2.mpr fun hdist => absurd hdist (by decide)

private def namedFields : List Field := plainFields ++ [⟨"dist", .tag, false⟩]

private def namedRow : Json.Members := ("dist", .str "far") :: plainRow

/-- A tag under the name of the distance is not shown for the vector. -/
theorem not_nearest_shows_scalar :
    ¬∀ (space : VectorSpace) (declared : List Field) (near plain : Service MemoryStore Unit)
      (nearest scalar : SearchRequest),
      Compares (.compile nearest.index space declared) near plain nearest scalar →
      ∀ found listed, near.result nearest = .ok found → plain.result scalar = .ok listed →
        ∀ hit ∈ found.hits, ∀ other ∈ listed.hits, hit.id = other.id →
          ∀ a ∈ (IndexDefinition.compile nearest.index space declared).attributes,
            hit.get? a.name = other.get? a.name := by
  intro hall
  have hcompares : Compares (.compile "i" ⟨1, .l2⟩ namedFields) (stocked namedFields namedRow)
      (stocked namedFields namedRow) byText byTag :=
    ⟨rfl, rfl, by decide +kernel, ingestedUnder_stocked namedFields namedRow, by decide +kernel,
      by decide +kernel, rfl⟩
  let shown (hit : Hit) : String × Option String :=
    (hit.id, (hit.get? Query.distanceField).map Json.text)
  obtain ⟨found, hfound, hit, hhit, hshown⟩ := exists_hit_of_result
    (show ((stocked namedFields namedRow).result byText).toOption.map
      (fun response => response.hits.map shown) = some [("1", some "0.0")] by decide +kernel)
  obtain ⟨listed, hlisted, other, hother, hotherShown⟩ := exists_hit_of_result
    (show ((stocked namedFields namedRow).result byTag).toOption.map
      (fun response => response.hits.map shown) = some [("1", some "far")] by decide +kernel)
  obtain ⟨hid, hdist⟩ := Prod.mk.inj hshown
  obtain ⟨hotherId, hotherDist⟩ := Prod.mk.inj hotherShown
  have hsame : hit.get? Query.distanceField = other.get? Query.distanceField :=
    hall ⟨1, .l2⟩ namedFields _ _ byText byTag hcompares found listed hfound hlisted hit hhit other
      hother (hid.trans hotherId.symm) ⟨"dist", .tag, false⟩ (by decide +kernel)
  rw [hsame, hotherDist] at hdist
  exact absurd hdist (by decide)

end Service

end HybridSearch
