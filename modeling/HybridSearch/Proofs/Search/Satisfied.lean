import HybridSearch.Proofs.Search.Compile
import HybridSearch.Proofs.Search.Membership

/-!
# The records that satisfy a query

Which records a query finds in memory when its limit cuts nothing off, and how that depends on the
predicates of the query.

## Main definitions

* `MemoryStore.Satisfied` — that a record satisfies a query.

## Main results

* `MemoryStore.satisfied_restrict_and_iff`, `MemoryStore.satisfied_restrict_or_iff` — several
  predicates as one at a time.
* `MemoryStore.exists_search_eq_ok` — the documents that are found stand for the records that
  satisfy the query.
-/

namespace HybridSearch

namespace MemoryStore

variable {definition : IndexDefinition} {query : Query} {hash : StoredHash}
  {predicates : List Predicate}

/-- Whether a record satisfies a query: it must be near enough to be compared if the query asks for
the nearest, and the text and the predicates must hold for it. -/
def Satisfied (definition : IndexDefinition) (query : Query) (hash : StoredHash) : Prop :=
  match query.nearest with
  | some clause =>
    isCandidate query hash = true ∧ (distance? definition clause hash).isSome
  | none => satisfies definition query hash = true

theorem isSome_match?_iff {key : String} :
    (match? definition query key hash).isSome ↔ Satisfied definition query hash := by
  rw [match?, Satisfied]
  split
  · split <;> simp [*]
  · split <;> simp [*]

/-- What a query asks of a record beside its predicates, where a combinator has no part in it. -/
def isComparable (definition : IndexDefinition) (query : Query) (hash : StoredHash) : Bool :=
  query.nearest.all fun clause => (distance? definition clause hash).isSome

/-- Whether the literal text of a query holds for a record, if there is one. -/
def literalAnswer (definition : IndexDefinition) (query : Query) (hash : StoredHash) : List Bool :=
  match query.nearest with
  | some _ => []
  | none => (query.literal.map (definition.mentions hash)).toList

theorem satisfied_restrict_iff (hsome : predicates ≠ []) (combinator : Combinator) :
    Satisfied definition (query.restrict predicates combinator) hash ↔
      isComparable definition query hash = true ∧
        combinator.combine
          (literalAnswer definition query hash ++ predicates.map (·.holds hash)) = true := by
  have hempty : predicates.isEmpty = false := List.isEmpty_eq_false_iff.mpr hsome
  rw [Satisfied, isComparable, literalAnswer]
  cases hnearest : query.nearest with
  | none => simp [Query.restrict, hnearest, satisfies, hsome]
  | some clause => simp [Query.restrict, hnearest, isCandidate, hempty, and_comm]

/-- A record satisfies all predicates together if it satisfies each alone. -/
theorem satisfied_restrict_and_iff (hsome : predicates ≠ []) :
    Satisfied definition (query.restrict predicates .and) hash ↔
      ∀ p ∈ predicates, Satisfied definition (query.restrict [p] .and) hash := by
  obtain ⟨p, hp⟩ := List.exists_mem_of_ne_nil predicates hsome
  simp only [satisfied_restrict_iff hsome, satisfied_restrict_iff (List.cons_ne_nil _ []),
    Combinator.combine, List.all_append, List.all_map, List.all_cons, List.all_nil, Bool.and_true,
    Bool.and_eq_true, List.all_eq_true]
  constructor
  · rintro ⟨hcomparable, hliteral, hholds⟩ q hq
    exact ⟨hcomparable, hliteral, hholds q hq⟩
  · intro h
    obtain ⟨hcomparable, hliteral, -⟩ := h p hp
    exact ⟨hcomparable, hliteral, fun q hq => (h q hq).2.2⟩

/-- A record satisfies one of the predicates if it satisfies one of them alone. -/
theorem satisfied_restrict_or_iff (hsome : predicates ≠ []) :
    Satisfied definition (query.restrict predicates .or) hash ↔
      ∃ p ∈ predicates, Satisfied definition (query.restrict [p] .or) hash := by
  obtain ⟨p, hp⟩ := List.exists_mem_of_ne_nil predicates hsome
  simp only [satisfied_restrict_iff hsome, satisfied_restrict_iff (List.cons_ne_nil _ []),
    Combinator.combine, List.any_append, List.any_map, List.any_cons, List.any_nil, Bool.or_false,
    Bool.or_eq_true, List.any_eq_true]
  constructor
  · rintro ⟨hcomparable, hliteral | ⟨q, hq, hholds⟩⟩
    · exact ⟨p, hp, hcomparable, Or.inl hliteral⟩
    · exact ⟨q, hq, hcomparable, Or.inr hholds⟩
  · rintro ⟨q, hq, hcomparable, hliteral | hholds⟩
    · exact ⟨hcomparable, Or.inl hliteral⟩
    · exact ⟨hcomparable, Or.inr ⟨q, hq, hholds⟩⟩

/-- Without a literal text there is nothing that a single predicate is combined with. -/
theorem satisfied_restrict_singleton_iff (hliteral : query.literal = none) (p : Predicate)
    (left right : Combinator) :
    Satisfied definition (query.restrict [p] left) hash ↔
      Satisfied definition (query.restrict [p] right) hash := by
  have hanswer : literalAnswer definition query hash = [] := by
    rw [literalAnswer, hliteral]
    split <;> rfl
  have hcombine (combinator : Combinator) :
      combinator.combine [p.holds hash] = p.holds hash := by
    cases combinator <;> simp [Combinator.combine]
  simp only [satisfied_restrict_iff (List.cons_ne_nil p []), hanswer, List.nil_append,
    List.map_cons, List.map_nil, hcombine]

variable {store : MemoryStore} {index : String}

theorem length_ordered_le (found : List Match) :
    (ordered query found).length ≤ found.length := by
  rw [ordered]
  split
  · exact (List.length_take_le' _ _).trans (ranked_perm _ found).length_eq.le
  · exact le_rfl

/-- With a limit that cuts nothing off, all matches are given. -/
theorem mem_take_ordered {found : List Match} (hlimit : found.length ≤ query.limit)
    (hk : ∀ clause, query.nearest = some clause → found.length ≤ clause.k) {m : Match} :
    m ∈ (ordered query found).take query.limit ↔ m ∈ found := by
  rw [List.take_of_length_le ((length_ordered_le found).trans hlimit), ordered]
  split
  · rename_i clause hclause
    rw [List.take_of_length_le ((ranked_perm _ found).length_eq.le.trans (hk clause hclause)),
      mem_ranked]
  · exact Iff.rfl

/-- Once the index is there, a search in memory cannot fail. -/
theorem search_of_get? (hindex : store.indexes.get? index = some definition) (query : Query) :
    store.search index query = .ok (((ordered query ((store.members definition).filterMap
      fun (key, hash) => match? definition query key hash)).take query.limit).map fun m =>
        ⟨m.key, project query.returnFields m⟩) := by
  rw [search, definition_eq_ok_iff.mpr hindex]
  rfl

/-- The documents that are found stand for the records that satisfy the query. -/
theorem exists_search_eq_ok (hindex : store.indexes.get? index = some definition) (query : Query)
    (hlimit : store.records.entries.length ≤ query.limit)
    (hk : ∀ clause, query.nearest = some clause → clause.k = query.limit) :
    ∃ documents, store.search index query = .ok documents ∧ ∀ key,
      (∃ document ∈ documents, document.key = key) ↔
        ∃ hash, store.get? key = some hash ∧
          (Text.startsWith? definition.keySpace key).isSome ∧ Satisfied definition query hash := by
  have hmembers : ((store.members definition).filterMap fun (key, hash) =>
      match? definition query key hash).length ≤ query.limit :=
    (List.length_filterMap_le ..).trans ((List.length_filter_le ..).trans hlimit)
  refine ⟨_, search_of_get? hindex query, fun key => ?_⟩
  have hmem (m : Match) : m ∈ (ordered query _).take query.limit ↔ m ∈ _ :=
    mem_take_ordered hmembers fun clause hclause => (hk clause hclause).symm ▸ hmembers
  constructor
  · rintro ⟨document, hdocument, rfl⟩
    obtain ⟨m, hm, rfl⟩ := List.mem_map.mp hdocument
    obtain ⟨⟨key, hash⟩, hentry, hmatch⟩ := List.mem_filterMap.mp ((hmem m).mp hm)
    obtain ⟨hget, hstart⟩ := mem_members_iff.mp hentry
    rw [key_of_match?_eq_some hmatch]
    exact ⟨hash, hget, hstart, isSome_match?_iff.mp (Option.isSome_of_eq_some hmatch)⟩
  · rintro ⟨hash, hget, hstart, hsatisfied⟩
    obtain ⟨m, hmatch⟩ := Option.isSome_iff_exists.mp (isSome_match?_iff.mpr hsatisfied)
    have hfound : m ∈ (store.members definition).filterMap fun (key, hash) =>
        match? definition query key hash :=
      List.mem_filterMap.mpr ⟨(key, hash), mem_members_iff.mpr ⟨hget, hstart⟩, hmatch⟩
    exact ⟨_, List.mem_map_of_mem ((hmem m).mpr hfound), key_of_match?_eq_some hmatch⟩

end MemoryStore

end HybridSearch
