import HybridSearch.Proofs.Search.Satisfied

/-!
# The nearest neighbours in memory

A query for the nearest considers every member of the index that its predicates let pass and that
holds a vector as long as its own. Where their distances are numbers, what it returns is the start
of one list: all of these candidates by distance, and by key where distances are equal.

## Main definitions

* `Query.Admits` — whether the predicates of a query let a record pass.
* `Candidate` — a record with its distance from the vector of a query.
* `MemoryStore.IsCandidate` — the candidates of a query.
* `MemoryStore.IsRanking` — all candidates, by distance and key.

## Main results

* `MemoryStore.search_of_nearest` — the documents of a query for the nearest, whatever the distances
  are.
* `MemoryStore.isRanking_nearest` — the candidates by distance and key.
* `MemoryStore.search_exact` — the nearest candidates are returned, and nothing else.
-/

namespace HybridSearch

/-- A record with its distance from the vector of a query. -/
structure Candidate where
  key : String
  hash : StoredHash
  distance : Float

namespace Candidate

/-- The one at the smaller distance comes first, and of two at one distance the one whose key does.
-/
def Precedes (left right : Candidate) : Prop :=
  left.distance < right.distance ∨
    (left.distance == right.distance) = true ∧ left.key < right.key

def toMatch (candidate : Candidate) : MemoryStore.Match :=
  ⟨candidate.key, candidate.hash, some candidate.distance⟩

/-- What a query returns for a candidate. -/
def document (query : Query) (candidate : Candidate) : StoredDocument :=
  ⟨candidate.key, MemoryStore.project query.returnFields candidate.toMatch⟩

def isNearer (left right : Candidate) : Bool := left.distance < right.distance

end Candidate

/-- There are no predicates, or all of them or one of them hold, as the combinator says. -/
def Query.Admits (query : Query) (hash : StoredHash) : Prop :=
  query.predicates = [] ∨
    match query.combinator with
    | .and => ∀ predicate ∈ query.predicates, predicate.holds hash = true
    | .or => ∃ predicate ∈ query.predicates, predicate.holds hash = true

/-- The metric of the vectors of an index; without vectors it is the cosine. -/
def IndexDefinition.metric (definition : IndexDefinition) : Metric :=
  (definition.vectorSpace?.map VectorSpace.metric).getD .cosine

namespace MemoryStore

variable (store : MemoryStore) (definition : IndexDefinition) (query : Query)
  (clause : VectorClause)

/-- A record of the index that the predicates let pass, with a vector as long as that of the query,
and the distance between the two. -/
structure IsCandidate (candidate : Candidate) : Prop where
  stored : store.get? candidate.key = some candidate.hash
  member : ∃ rest, candidate.key = definition.keySpace ++ rest
  admitted : query.Admits candidate.hash
  apart : ∃ bytes vector, candidate.hash.get? clause.field = some bytes ∧
    Embedding.decode? bytes = some vector ∧ vector.length = clause.vector.length ∧
    candidate.distance = definition.metric.distance vector clause.vector

/-- All candidates of a query, by distance and key. -/
structure IsRanking (ranking : List Candidate) : Prop where
  mem_iff : ∀ candidate, candidate ∈ ranking ↔ store.IsCandidate definition query clause candidate
  pairwise : ranking.Pairwise Candidate.Precedes

/-! ### The candidates in the order of their keys -/

/-- The candidate that a record is, if it is one. -/
def candidate? (entry : String × StoredHash) : Option Candidate :=
  if isCandidate query entry.2 then
    (distance? definition clause entry.2).map fun distance => ⟨entry.1, entry.2, distance⟩
  else none

def candidates : List Candidate :=
  (store.members definition).filterMap (candidate? definition query clause)

variable {store definition query clause}

theorem isCandidate_iff {hash : StoredHash} : isCandidate query hash = true ↔ query.Admits hash := by
  rw [isCandidate, Bool.or_eq_true, List.isEmpty_iff, Query.Admits]
  cases query.combinator <;> simp [Combinator.combine]

theorem distance?_eq_some_iff {hash : StoredHash} {x : Float} :
    distance? definition clause hash = some x ↔
      ∃ bytes vector, hash.get? clause.field = some bytes ∧ Embedding.decode? bytes = some vector ∧
        vector.length = clause.vector.length ∧
        x = definition.metric.distance vector clause.vector := by
  rw [distance?, ← IndexDefinition.metric]
  cases hash.get? clause.field with
  | none => simp
  | some bytes =>
    rw [Option.bind_some]
    cases hdecode : Embedding.decode? bytes with
    | none => simp [hdecode]
    | some vector => simp [hdecode, eq_comm (a := x)]

theorem candidate?_eq_some_iff {entry : String × StoredHash} {candidate : Candidate} :
    candidate? definition query clause entry = some candidate ↔
      entry = (candidate.key, candidate.hash) ∧ query.Admits candidate.hash ∧
        distance? definition clause candidate.hash = some candidate.distance := by
  obtain ⟨key, hash⟩ := entry
  rw [candidate?, Option.ite_none_right_eq_some, Option.map_eq_some_iff, isCandidate_iff]
  constructor
  · rintro ⟨hadmits, distance, hdistance, rfl⟩
    exact ⟨rfl, hadmits, hdistance⟩
  · rintro ⟨⟨⟩, hadmits, hdistance⟩
    exact ⟨hadmits, candidate.distance, hdistance, rfl⟩

theorem mem_candidates_iff {candidate : Candidate} :
    candidate ∈ store.candidates definition query clause ↔
      store.IsCandidate definition query clause candidate := by
  rw [candidates, List.mem_filterMap]
  simp only [candidate?_eq_some_iff, mem_members_iff, Text.isSome_startsWith?,
    distance?_eq_some_iff]
  constructor
  · rintro ⟨_, ⟨hstored, hmember⟩, rfl, hadmits, hdistance⟩
    exact ⟨hstored, hmember, hadmits, hdistance⟩
  · rintro ⟨hstored, hmember, hadmits, hdistance⟩
    exact ⟨_, ⟨hstored, hmember⟩, rfl, hadmits, hdistance⟩

/-- Candidates are found in the order of their keys. -/
theorem pairwise_candidates :
    (store.candidates definition query clause).Pairwise fun a b => a.key < b.key := by
  have hmembers : (store.members definition).Pairwise fun a b => a.1 < b.1 :=
    store.records.sorted.filter _
  refine hmembers.filterMap _ fun a b hab left hleft right hright => ?_
  obtain ⟨rfl, -⟩ := candidate?_eq_some_iff.mp hleft
  obtain ⟨rfl, -⟩ := candidate?_eq_some_iff.mp hright
  exact hab

/-! ### The documents of a query for the nearest -/

theorem match?_of_nearest (hnearest : query.nearest = some clause)
    (entry : String × StoredHash) :
    match? definition query entry.1 entry.2 =
      (candidate? definition query clause entry).map Candidate.toMatch := by
  rw [match?, candidate?]
  simp only [hnearest]
  split
  · rw [Option.map_map]
    rfl
  · rfl

/-- The documents of a query for the nearest are the first of its candidates as they are ranked. -/
theorem search_of_nearest {index : String} (hindex : store.indexes.get? index = some definition)
    (hnearest : query.nearest = some clause) :
    store.search index query =
      .ok (((ranked Candidate.isNearer (store.candidates definition query clause)).take
        (min clause.k query.limit)).map (Candidate.document query)) := by
  have hfound : ((store.members definition).filterMap fun entry =>
      match? definition query entry.1 entry.2) =
        (store.candidates definition query clause).map Candidate.toMatch := by
    rw [candidates, List.map_filterMap]
    exact List.filterMap_congr fun entry _ => match?_of_nearest hnearest entry
  have hsearch : store.search index query = .ok (((ordered query
      ((store.members definition).filterMap fun entry =>
        match? definition query entry.1 entry.2)).take query.limit).map fun m =>
          ⟨m.key, project query.returnFields m⟩) :=
    search_of_get? hindex query
  rw [hsearch, hfound, ordered, hnearest]
  dsimp only
  rw [ranked_map, ← List.map_take, ← List.map_take, List.take_take, Nat.min_comm, List.map_map]
  rfl

end MemoryStore

/-! ### Distances that are numbers -/

namespace Candidate

variable {a b : Candidate}

theorem isNearer_eq_decide (ha : a.distance.isNaN = false) (hb : b.distance.isNaN = false) :
    isNearer a b = decide (FloatOrder.rank a.distance < FloatOrder.rank b.distance) :=
  decide_eq_decide.mpr (FloatOrder.lt_iff_rank_lt ha hb)

theorem precedes_iff (ha : a.distance.isNaN = false) (hb : b.distance.isNaN = false) :
    Precedes a b ↔ FloatOrder.rank a.distance < FloatOrder.rank b.distance ∨
      FloatOrder.rank a.distance = FloatOrder.rank b.distance ∧ a.key < b.key := by
  rw [Precedes, FloatOrder.lt_iff_rank_lt ha hb, FloatOrder.beq_iff_rank_eq ha hb]

theorem Precedes.le (ha : a.distance.isNaN = false) (hb : b.distance.isNaN = false)
    (h : Precedes a b) : a.distance ≤ b.distance := by
  rw [FloatOrder.le_iff_rank_le ha hb]
  exact ((precedes_iff ha hb).mp h).elim le_of_lt fun h => h.1.le

/-- Neither of two precedes the other and is preceded by it. -/
theorem Precedes.asymm (ha : a.distance.isNaN = false) (hb : b.distance.isNaN = false)
    (hab : Precedes a b) : ¬Precedes b a := by
  intro hba
  rcases (precedes_iff ha hb).mp hab with hlt | ⟨heq, hkey⟩
  · rcases (precedes_iff hb ha).mp hba with hgt | ⟨heq, -⟩
    · exact lt_asymm hlt hgt
    · exact hlt.ne heq.symm
  · rcases (precedes_iff hb ha).mp hba with hgt | ⟨-, hother⟩
    · exact hgt.ne heq.symm
    · exact String.lt_irrefl _ (String.lt_trans hkey hother)

end Candidate

namespace MemoryStore

variable {store : MemoryStore} {definition : IndexDefinition} {query : Query}
  {clause : VectorClause} {index : String} {ranking other : List Candidate}

/-- The candidates are ranked by distance and key. -/
theorem isRanking_nearest
    (hnumber : ∀ c, store.IsCandidate definition query clause c → c.distance.isNaN = false) :
    store.IsRanking definition query clause
      (ranked Candidate.isNearer (store.candidates definition query clause)) := by
  have hcandidates : ∀ c ∈ store.candidates definition query clause, c.distance.isNaN = false :=
    fun c hc => hnumber c (mem_candidates_iff.mp hc)
  have hbefore : ∀ a ∈ store.candidates definition query clause,
      ∀ b ∈ store.candidates definition query clause, Candidate.isNearer a b =
        decide (FloatOrder.rank a.distance < FloatOrder.rank b.distance) :=
    fun a ha b hb => Candidate.isNearer_eq_decide (hcandidates a ha) (hcandidates b hb)
  refine ⟨fun c => mem_ranked.trans mem_candidates_iff, ?_⟩
  refine (pairwise_ranked_of_pairwise pairwise_candidates hbefore).imp_of_mem
    fun {a b} ha hb hab => ?_
  exact (Candidate.precedes_iff (hcandidates a (mem_ranked.mp ha))
    (hcandidates b (mem_ranked.mp hb))).mpr hab

namespace IsRanking

variable (hnumber : ∀ c, store.IsCandidate definition query clause c → c.distance.isNaN = false)

include hnumber

theorem nodup (h : store.IsRanking definition query clause ranking) : ranking.Nodup := by
  refine h.pairwise.imp_of_mem fun {a b} ha _ hab => ?_
  rintro rfl
  have ha := hnumber a ((h.mem_iff a).mp ha)
  exact hab.asymm ha ha hab

/-- There is one ranking. -/
theorem unique (h : store.IsRanking definition query clause ranking)
    (hother : store.IsRanking definition query clause other) : ranking = other := by
  have hperm : ranking.Perm other :=
    (List.perm_ext_iff_of_nodup (h.nodup hnumber) (hother.nodup hnumber)).mpr fun c =>
      (h.mem_iff c).trans (hother.mem_iff c).symm
  refine hperm.eq_of_pairwise (fun a b ha hb hab hba => ?_) h.pairwise hother.pairwise
  exact absurd hba (hab.asymm (hnumber a ((h.mem_iff a).mp ha))
    (hnumber b ((hother.mem_iff b).mp hb)))

/-- The first of a ranking are no farther than those after them. -/
theorem le_of_not_mem_take (h : store.IsRanking definition query clause ranking) {n : ℕ}
    {near far : Candidate} (hnear : near ∈ ranking.take n) (hfar : far ∈ ranking)
    (hleft : far ∉ ranking.take n) : near.distance ≤ far.distance := by
  have hsplit := h.pairwise
  rw [← List.take_append_drop n ranking] at hsplit hfar
  have hrest := (List.mem_append.mp hfar).resolve_left hleft
  refine ((List.pairwise_append.mp hsplit).2.2 near hnear far hrest).le ?_ ?_
  · exact hnumber near ((h.mem_iff near).mp (List.mem_of_mem_take hnear))
  · exact hnumber far ((h.mem_iff far).mp (List.mem_of_mem_drop hrest))

end IsRanking

/-- Of one record there is one candidate. -/
theorem IsCandidate.eq_of_key_eq {a b : Candidate}
    (ha : store.IsCandidate definition query clause a)
    (hb : store.IsCandidate definition query clause b) (hkey : a.key = b.key) : a = b := by
  obtain ⟨key, hash, distance⟩ := a
  obtain ⟨otherKey, otherHash, otherDistance⟩ := b
  obtain rfl : key = otherKey := hkey
  obtain rfl : hash = otherHash := Option.some.inj (ha.stored.symm.trans hb.stored)
  have hdistance := (distance?_eq_some_iff.mpr ha.apart).symm.trans
    (distance?_eq_some_iff.mpr hb.apart)
  exact congrArg (Candidate.mk key hash) (Option.some.inj hdistance)

/-- **The nearest candidates are returned, and nothing else.** If no candidate is at a distance that
is no number, there is one list of all candidates by distance and key, and a query for the nearest
returns its start, as long as the clause and the limit allow. So whatever is left out is at least as
far as what is returned, and nothing is returned twice. -/
theorem search_exact (hindex : store.indexes.get? index = some definition)
    (hnearest : query.nearest = some clause)
    (hnumber : ∀ c, store.IsCandidate definition query clause c → c.distance.isNaN = false) :
    ∃ ranking returned : List Candidate,
      store.IsRanking definition query clause ranking ∧
      (∀ other, store.IsRanking definition query clause other → other = ranking) ∧
      returned = ranking.take (min clause.k query.limit) ∧
      store.search index query = .ok (returned.map (Candidate.document query)) ∧
      (∀ near ∈ returned, store.IsCandidate definition query clause near) ∧
      (returned.map Candidate.key).Nodup ∧
      ∀ far, store.IsCandidate definition query clause far → far ∉ returned →
        ∀ near ∈ returned, near.distance ≤ far.distance := by
  have hranking := isRanking_nearest hnumber
  generalize hlist : ranked Candidate.isNearer _ = ranking at hranking
  have hreturned : ∀ near ∈ ranking.take (min clause.k query.limit),
      store.IsCandidate definition query clause near :=
    fun near hnear => (hranking.mem_iff near).mp (List.mem_of_mem_take hnear)
  refine ⟨ranking, _, hranking, fun other hother => hother.unique hnumber hranking, rfl, ?_,
    hreturned, ?_, fun far hfar hleft near hnear => ?_⟩
  · rw [search_of_nearest hindex hnearest, hlist]
  · refine ((hranking.nodup hnumber).sublist (List.take_sublist _ _)).map_on fun a ha b hb => ?_
    exact (hreturned a ha).eq_of_key_eq (hreturned b hb)
  · exact hranking.le_of_not_mem_take hnumber hnear ((hranking.mem_iff far).mpr hfar) hleft

private def lines : IndexDefinition := .compile "i" ⟨1, .l2⟩ [⟨"e", .vector, false⟩]

/-- Two records with one vector, and one whose vector is longer. -/
private def twins : MemoryStore :=
  let store : MemoryStore := ⟨Dict.empty.insert "i" lines, .empty⟩
  let pairs : List (String × Embedding) := [("b", [⟨0⟩]), ("c", [⟨0⟩, ⟨0⟩]), ("a", [⟨0⟩])]
  pairs.foldl (fun store (id, vector) =>
    store.hashSet (Key.record "i" id) [("e_vec", .vector vector)]) store

private def origin : VectorClause := ⟨"e_vec", [⟨0⟩], 2⟩

private def nearestOne : Query := { Query.ofPredicates [] .and 1 with nearest := some origin }

/-- Of two records at one distance the limit leaves one. -/
theorem search_exact_of_twins :
    ∃ ranking, twins.IsRanking lines nearestOne origin ranking ∧
      twins.search "i" nearestOne =
        .ok ((ranking.take 1).map (Candidate.document nearestOne)) := by
  have hindex : twins.indexes.get? "i" = some lines := by decide +kernel
  have hnumber : ∀ c, twins.IsCandidate lines nearestOne origin c → c.distance.isNaN = false := by
    have hall : (twins.candidates lines nearestOne origin).all
        (fun c => !c.distance.isNaN) = true := by decide +kernel
    intro c hc
    simpa using List.all_eq_true.mp hall c (mem_candidates_iff.mpr hc)
  obtain ⟨ranking, _, hranking, -, rfl, hsearch, -⟩ := search_exact hindex rfl hnumber
  exact ⟨ranking, hranking, hsearch⟩

end MemoryStore

end HybridSearch
