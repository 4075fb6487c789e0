import HybridSearch.Proofs.Number.RoundTrip
import HybridSearch.Proofs.Search.Neighbours
import HybridSearch.Proofs.Search.References
import HybridSearch.Proofs.Search.Repetition
import HybridSearch.Proofs.Text.Utf8

/-!
# Searching with a smaller limit

The limit of a request is the number of the nearest that are asked for, the number of documents that
the store gives, and the number of parents that are shown. A smaller limit takes the first of the hits
that a larger one gives, and the parents of those come first. A query for the nearest is ranked twice,
by the store and by the distances of the hits. The second ranking changes nothing where the distances
are numbers, since every such number is read back from its text.

## Main definitions

* `SearchRequest.withLimit`, `Query.withLimit` — a request and its query with another limit.
* `Service.RanksNumbers` — the distances that a request is ranked by are numbers.

## Main results

* `Query.compile_withLimit` — the limit of a request becomes that of its query, and nothing else.
* `MemoryStore.search_withLimit` — the documents of a smaller limit are the first of those of a larger
  one.
* `MemoryStore.nearestFirst_ofDocument` — the nearest documents are ranked already.
* `Service.result_withLimit` — a smaller limit gives the first hits and the first parents.
-/

namespace HybridSearch

/-! ### Queries with another limit -/

namespace Query

/-- The query with another limit, which is the number of the nearest as well. -/
def withLimit (query : Query) (n : Nat) : Query :=
  { query with limit := n, nearest := query.nearest.map fun clause => { clause with k := n } }

variable (fields : FieldSet) (text : Option String) (filters : Json.Members)
  (combinator : Combinator) (limit n : Nat) (wantParents : Bool)

/-- The limit of a request becomes that of its query, and nothing else. -/
theorem compile_withLimit :
    compile fields text filters combinator n wantParents =
      (Option.map (withLimit · n)) <$>
        compile fields text filters combinator limit wantParents := by
  rw [compile, compile]
  cases Predicate.ofFilters fields filters with
  | error cause => rfl
  | ok predicates =>
    rw [map_bind]
    refine bind_congr fun predicates => ?_
    cases freeText? text with
    | none => cases predicates <;> rfl
    | some text =>
      cases fields.vectorField? with
      | none => rfl
      | some field =>
        rw [map_bind]
        rfl

variable {fields text filters combinator limit wantParents} {gateway after : Gateway} {query : Query}

/-- A query for the nearest asks for their distances. -/
theorem mem_returnFields_of_runFrom_compile
    (h : (compile fields text filters combinator limit wantParents).runFrom gateway =
      (.ok (some query), after)) (hnearest : query.nearest.isSome) :
    distanceField ∈ query.returnFields := by
  rcases returnFields_of_runFrom_compile h with ⟨-, hreturn, -⟩ | ⟨hnone, -⟩
  · rw [hreturn]
    exact mem_projection_iff.mpr (Or.inr (Or.inl rfl))
  · rw [hnone] at hnearest
    cases hnearest

end Query

/-! ### Documents -/

namespace MemoryStore

variable {store : MemoryStore} {definition : IndexDefinition} {query : Query}
  {clause : VectorClause} {index : String} {n m : ℕ}

/-- Which records match does not depend on the limit. -/
theorem match?_withLimit (definition : IndexDefinition) (query : Query) (n : ℕ) :
    match? definition (query.withLimit n) = match? definition query := by
  funext key hash
  rw [match?, match?, Query.withLimit]
  cases query.nearest <;> rfl

/-- **The documents of a smaller limit** are the first of those of a larger one. -/
theorem search_withLimit (store : MemoryStore) (index : String) (query : Query) (hnm : n ≤ m) :
    store.search index (query.withLimit n) =
      (store.search index (query.withLimit m)).map (List.take n) := by
  rw [search, search]
  cases store.definition index with
  | error cause => rfl
  | ok definition =>
    dsimp only [bind, Except.bind, pure, Except.pure, Except.map]
    rw [match?_withLimit, match?_withLimit, ← List.map_take, List.take_take]
    have hlimit (n : ℕ) : (query.withLimit n).limit = n := rfl
    have hreturn (n : ℕ) : (query.withLimit n).returnFields = query.returnFields := rfl
    rw [hlimit, hlimit, hreturn, hreturn, Nat.min_eq_left hnm]
    refine congrArg Except.ok (congrArg (List.map _) ?_)
    rw [ordered, ordered, Query.withLimit, Query.withLimit]
    cases query.nearest with
    | none => rfl
    | some clause =>
      dsimp only [Option.map]
      rw [List.take_take, List.take_take, Nat.min_self, Nat.min_eq_left hnm]

theorem IsCandidate.of_withLimit {candidate : Candidate}
    (h : store.IsCandidate definition (query.withLimit n) { clause with k := n } candidate) :
    store.IsCandidate definition query clause candidate :=
  ⟨h.stored, h.member, h.admitted, h.apart⟩

/-! ### Hits of the nearest -/

/-- A hit is as far as its candidate, unless the index declares the distance a vector. -/
theorem effectiveDistance_document (space : String) (fields : FieldSet) {candidate : Candidate}
    (hreturn : Query.distanceField ∈ query.returnFields)
    (hnumber : candidate.distance.isNaN = false) :
    (Hit.ofDocument space fields (candidate.document query)).effectiveDistance =
      if Hit.isVector (some fields) Query.distanceField then 0.0 else candidate.distance := by
  obtain ⟨rest, hfields⟩ : ∃ rest, (candidate.document query).fields = rest ++
      [(Query.distanceField, Text.encode (Layout.plain.render candidate.distance))] := by
    have hcontains : query.returnFields.contains Query.distanceField = true :=
      List.contains_iff_mem.mpr hreturn
    exact ⟨_, if_pos (by rw [hcontains, Bool.or_true])⟩
  rw [Hit.effectiveDistance_ofDocument, StoredDocument.distance?, StoredDocument.distanceBytes?,
    hfields]
  split
  · rfl
  · rw [List.reverse_append, List.reverse_singleton, List.singleton_append, List.lookup_cons_self,
      Option.bind_some, Text.decodeLossy_encode, Layout.parse?_trim_render_plain hnumber,
      Option.getD_some]

/-- **The nearest documents are ranked already.** -/
theorem nearestFirst_ofDocument (space : String) (fields : FieldSet)
    (hreturn : Query.distanceField ∈ query.returnFields)
    (hnumber : ∀ c, store.IsCandidate definition query clause c → c.distance.isNaN = false)
    (n : ℕ) :
    let documents := ((ranked Candidate.isNearer (store.candidates definition query clause)).take
      n).map (Candidate.document query)
    Hit.nearestFirst (documents.map (Hit.ofDocument space fields)) =
      documents.map (Hit.ofDocument space fields) := by
  have hranking := isRanking_nearest hnumber
  refine ranked_eq_self ?_
  rw [List.map_map, List.pairwise_map]
  refine (hranking.pairwise.sublist (List.take_sublist n _)).imp_of_mem fun {a b} ha hb hab => ?_
  have hnan (c) (hc : c ∈ (ranked Candidate.isNearer
      (store.candidates definition query clause)).take n) : c.distance.isNaN = false :=
    hnumber c ((hranking.mem_iff c).mp (List.mem_of_mem_take hc))
  rw [Hit.isNearer, Function.comp, Function.comp,
    effectiveDistance_document space fields hreturn (hnan a ha),
    effectiveDistance_document space fields hreturn (hnan b hb)]
  split
  -- A distance that is read as a vector leaves every hit at zero.
  · decide +kernel
  · have hle := (FloatOrder.le_iff_rank_le (hnan a ha) (hnan b hb)).mp (hab.le (hnan a ha) (hnan b hb))
    exact decide_eq_false (mt (FloatOrder.lt_iff_rank_lt (hnan b hb) (hnan a ha)).mp hle.not_gt)

/-- What a query must meet for its documents to be ranked already: it asks for the distances, and
these are numbers. -/
def Ranks (store : MemoryStore) (definition : IndexDefinition) (query : Query) : Prop :=
  ∀ clause, query.nearest = some clause → Query.distanceField ∈ query.returnFields ∧
    ∀ c, store.IsCandidate definition query clause c → c.distance.isNaN = false

theorem Ranks.withLimit (h : store.Ranks definition query) (n : ℕ) :
    store.Ranks definition (query.withLimit n) := by
  intro clause hclause
  obtain ⟨original, horiginal, rfl⟩ := Option.map_eq_some_iff.mp hclause
  obtain ⟨hreturn, hnumber⟩ := h original horiginal
  exact ⟨hreturn, fun c hc => hnumber c hc.of_withLimit⟩

/-- The hits of a query are its documents as they come. -/
theorem runFrom_execute_of_ranks (hindex : store.indexes.get? index = some definition)
    (h : store.Ranks definition query) (fields : FieldSet) :
    ((query.execute index fields).runFrom store).1 =
      ((store.search index query).mapError SearchError.ofExecution).map
        (List.map (Hit.ofDocument (Key.space index) fields)) := by
  rw [Query.runFrom_execute, runFrom_search]
  cases hnearest : query.nearest with
  | none => rfl
  | some clause =>
    obtain ⟨hreturn, hnumber⟩ := h clause hnearest
    rw [search_of_nearest hindex hnearest]
    exact congrArg Except.ok (nearestFirst_ofDocument (Key.space index) fields hreturn hnumber _)

/-- The hits of a smaller limit are the first of those of a larger one. -/
theorem runFrom_execute_withLimit (hindex : store.indexes.get? index = some definition)
    (h : store.Ranks definition query) (fields : FieldSet) (hnm : n ≤ m) :
    (((query.withLimit n).execute index fields).runFrom store).1 =
      (((query.withLimit m).execute index fields).runFrom store).1.map (List.take n) := by
  rw [runFrom_execute_of_ranks hindex (h.withLimit n), search_withLimit store index query hnm,
    runFrom_execute_of_ranks hindex (h.withLimit m)]
  cases store.search index (query.withLimit m) with
  | error cause => rfl
  | ok documents => exact congrArg Except.ok (List.map_take ..)

end MemoryStore

/-! ### Answers -/

def SearchRequest.withLimit (request : SearchRequest) (n : Nat) : SearchRequest :=
  { request with limit := n }

namespace Service

variable {α : Type}

/-- The distances that a request is ranked by are numbers: where its query asks for the nearest, no
candidate is at a distance that is no number. -/
def RanksNumbers (service : Service MemoryStore α) (request : SearchRequest) : Prop :=
  ∀ definition query clause, service.store.indexes.get? request.index = some definition →
    ((compiled request definition.fieldSet).runFrom service.workspace.intake.gateway).1 =
      .ok (some query) →
    query.nearest = some clause →
    ∀ c, service.store.IsCandidate definition query clause c → c.distance.isNaN = false

theorem compiled_withLimit (request : SearchRequest) (fields : FieldSet) (n : ℕ)
    (gateway : Gateway) :
    ((compiled (request.withLimit n) fields).runFrom gateway).1 =
      ((compiled request fields).runFrom gateway).1.map (Option.map (Query.withLimit · n)) := by
  have hcompile := Query.compile_withLimit fields request.freeText? request.filters
    request.combinator request.limit n request.parents
  have hcompiled : compiled (request.withLimit n) fields =
      (Query.compile fields request.freeText? request.filters request.combinator n
        request.parents).recast compileFailure := rfl
  rw [hcompiled, hcompile, compiled, Attempt.runFrom_recast, Attempt.runFrom_recast,
    Attempt.runFrom_map]
  rcases (Query.compile fields request.freeText? request.filters request.combinator request.limit
    request.parents).runFrom gateway with ⟨_ | _, _⟩ <;> rfl

theorem ranks_of_ranksNumbers {service : Service MemoryStore α} {request : SearchRequest}
    (h : service.RanksNumbers request) {definition : IndexDefinition}
    (hindex : service.store.indexes.get? request.index = some definition) {query : Query}
    (hquery : ((compiled request definition.fieldSet).runFrom
      service.workspace.intake.gateway).1 = .ok (some query)) :
    service.store.Ranks definition query := by
  intro clause hclause
  refine ⟨?_, h definition query clause hindex hquery hclause⟩
  obtain ⟨_, hcompile⟩ := exists_compile_of_compiled hquery
  exact Query.mem_returnFields_of_runFrom_compile hcompile (Option.isSome_of_eq_some hclause)

/-- How the results of two requests that differ in the limit are related: both fail alike, or the
smaller limit gives the first hits and the first parents. -/
def Shortens (n : ℕ) (few many : Except SearchError SearchResponse) : Prop :=
  (∃ cause, few = .error cause ∧ many = .error cause) ∨
    ∃ first all, few = .ok first ∧ many = .ok all ∧ first.hits = all.hits.take n ∧
      first.parents <+: all.parents

/-- The parents are read from what is there, so that only the query can fail. -/
theorem answer_some (store : MemoryStore) (request : SearchRequest) (fields : FieldSet)
    (query : Query) :
    answer store request fields (some query) =
      ((query.execute request.index fields).runFrom store).1.map fun hits =>
        ⟨hits, if request.parents then store.views request.index hits request.limit else []⟩ := by
  rw [answer]
  cases ((query.execute request.index fields).runFrom store).1 with
  | error cause => rfl
  | ok hits =>
    dsimp only [bind, Except.bind]
    rw [ParentView.runFrom_expand]
    cases request.parents <;> rfl

theorem shortens_answer {store : MemoryStore} {request : SearchRequest}
    {definition : IndexDefinition} {query : Query}
    (hindex : store.indexes.get? request.index = some definition)
    (h : store.Ranks definition query) (fields : FieldSet) {n m : ℕ} (hnm : n ≤ m) :
    Shortens n (answer store (request.withLimit n) fields (some (query.withLimit n)))
      (answer store (request.withLimit m) fields (some (query.withLimit m))) := by
  have hhits := MemoryStore.runFrom_execute_withLimit hindex h fields hnm
  have hindex_eq (n : ℕ) : (request.withLimit n).index = request.index := rfl
  rw [answer_some, answer_some, hindex_eq, hindex_eq, hhits]
  cases (((query.withLimit m).execute request.index fields).runFrom store).1 with
  | error cause => exact .inl ⟨cause, rfl, rfl⟩
  | ok hits =>
    refine .inr ⟨_, _, rfl, rfl, rfl, ?_⟩
    show (if request.parents then _ else _) <+: (if request.parents then _ else _)
    split
    · exact store.views_prefix request.index (List.take_prefix n hits) hnm
    · exact List.prefix_rfl

/-- **A smaller limit gives the first hits and the first parents.** If the distances that a request is
ranked by are numbers, it fails alike under either limit, or it is answered under both. The smaller
limit then gives the first of the hits that the larger one gives, as many as it allows, and the parents
under the smaller limit are the first of those under the larger one. -/
theorem result_withLimit (service : Service MemoryStore α) (request : SearchRequest)
    (hnumber : service.RanksNumbers request) {n m : ℕ} (hnm : n ≤ m) :
    (∃ cause, service.result (request.withLimit n) = .error cause ∧
      service.result (request.withLimit m) = .error cause) ∨
    ∃ few many, service.result (request.withLimit n) = .ok few ∧
      service.result (request.withLimit m) = .ok many ∧ few.hits = many.hits.take n ∧
      few.parents <+: many.parents := by
  rw [result_eq_bind, result_eq_bind]
  show Shortens n ((service.store.definition request.index).bind _)
    ((service.store.definition request.index).bind _)
  cases hdefinition : service.store.definition request.index with
  | error cause => exact .inl ⟨cause, rfl, rfl⟩
  | ok definition =>
    have hindex := MemoryStore.definition_eq_ok_iff.mp hdefinition
    dsimp only [Except.bind]
    rw [compiled_withLimit, compiled_withLimit]
    cases hquery : ((compiled request definition.fieldSet).runFrom
      service.workspace.intake.gateway).1 with
    | error cause => exact .inl ⟨cause, rfl, rfl⟩
    | ok query =>
      cases query with
      | none => exact .inr ⟨.empty, .empty, rfl, rfl, List.take_nil.symm, List.prefix_rfl⟩
      | some query =>
        exact shortens_answer hindex (ranks_of_ranksNumbers hnumber hindex hquery)
          definition.fieldSet hnm

/-- Two records with vectors, of which the farther one names a parent, next to a model that has one
vector for every text. -/
private def nearAndFar : Service MemoryStore Unit :=
  let store : MemoryStore :=
    ⟨Dict.empty.insert "i" (.compile "i" ⟨1, .l2⟩ [⟨"e", .vector, false⟩]), .empty⟩
  let model : Model := ⟨1, fun _ => .ok [Trigram.one]⟩
  (fresh .standard none ⟨.ofLoader (fun _ => .ok model) 1, ⟨toString, 0⟩⟩).withStore <|
    ((store.hashSet "vs:i:1" [("e_vec", .vector [Single.zero]), (Query.parentField, .text "p")]).hashSet
      "vs:i:2" [("e_vec", .vector [Trigram.one])]).hashSet (Key.parent "i" "p") [("items", .text "1")]

private def anyText : SearchRequest :=
  { SearchRequest.ofIndex "i" with query := some "x", parents := true }

/-- The nearer record alone, and both of them. -/
theorem result_withLimit_of_two :
    ∃ few many, nearAndFar.result (anyText.withLimit 1) = .ok few ∧
      nearAndFar.result (anyText.withLimit 2) = .ok many ∧ few.hits = many.hits.take 1 ∧
      few.parents <+: many.parents := by
  have hnumber : nearAndFar.RanksNumbers anyText := by
    intro definition query clause hindex hquery hclause c hc
    have hall : (nearAndFar.store.indexes.get? anyText.index).all (fun definition =>
        ((compiled anyText definition.fieldSet).runFrom
          nearAndFar.workspace.intake.gateway).1.toOption.join.all fun query =>
            query.nearest.all fun clause =>
              (nearAndFar.store.candidates definition query clause).all fun c =>
                !c.distance.isNaN) = true := by decide +kernel
    rw [hindex, Option.all_some, hquery, Except.toOption, Option.join_some, Option.all_some, hclause,
      Option.all_some, List.all_eq_true] at hall
    simpa using hall c (MemoryStore.mem_candidates_iff.mpr hc)
  rcases result_withLimit nearAndFar anyText hnumber (show 1 ≤ 2 by decide) with
    ⟨cause, hcause, -⟩ | h
  · have hok : (nearAndFar.result (anyText.withLimit 1)).isOk = true := by decide +kernel
    rw [hcause] at hok
    cases hok
  · exact h

end Service

end HybridSearch
