import HybridSearch.Proofs.Attempt
import HybridSearch.Proofs.Number.Order
import HybridSearch.Proofs.Ranking
import HybridSearch.Proofs.Search.Distance
import HybridSearch.Search.Execute
import HybridSearch.Server.Store

/-!
# The nearest first

The hits of a query for the nearest stand in the order of their distances, if the distances are
numbers. A distance that is no number counts as zero, and yet no hit comes before or after such a
one. Where hits are put in place one by one, nothing moves past it: it parts the hits that were
found before it from those that were found after it, and each part is ranked by itself.

Beside different numbers, a distance that is none makes the comparison no order. A sort of more than
twenty hits is then bound to no result but that it keeps the hits, and nothing is said of their
order.

## Main definitions

* `Hit.IsRanking` — hits in the order of their scores, equal ones as they were found.
* `Hit.IsParted` — around each hit without a number the scores are on the right side of zero.
* `StoredDocument.AreSettled` — documents that a sort by distance brings into one order.

## Main results

* `Hit.isRanking_nearestFirst_iff` — the nearest come first just in that case, where hits are put
  in place one by one.
* `Query.runFrom_execute` — the hits of a query from the documents of any store.
* `Query.execute_nearest` — when those of a query for the nearest are ranked.
-/

namespace HybridSearch

/-! ### Scores -/

section Score

theorem orZero_of_isNaN {x : Float} (h : x.isNaN = true) : orZero x = 0.0 := if_pos h

theorem orZero_of_not_isNaN {x : Float} (h : x.isNaN = false) : orZero x = x := by
  rw [orZero, h, if_neg Bool.false_ne_true]

theorem isNaN_orZero (x : Float) : (orZero x).isNaN = false := by
  cases h : x.isNaN with
  | false =>
    rw [orZero_of_not_isNaN h]
    exact h
  | true =>
    rw [orZero_of_isNaN h]
    decide

end Score

namespace Hit

variable {found first last hits : List Hit} {hit : Hit}

theorem score_le_iff {a b : Hit} :
    a.score ≤ b.score ↔ FloatOrder.rank a.score ≤ FloatOrder.rank b.score :=
  FloatOrder.le_iff_rank_le (isNaN_orZero _) (isNaN_orZero _)

theorem score_beq_iff {a b : Hit} :
    (a.score == b.score) = true ↔ FloatOrder.rank a.score = FloatOrder.rank b.score :=
  FloatOrder.beq_iff_rank_eq (isNaN_orZero _) (isNaN_orZero _)

theorem score_le_trans {a b c : Hit} (hab : a.score ≤ b.score) (hbc : b.score ≤ c.score) :
    a.score ≤ c.score :=
  score_le_iff.mpr (le_trans (score_le_iff.mp hab) (score_le_iff.mp hbc))

theorem isNearer_eq_decide {a b : Hit} (ha : a.effectiveDistance.isNaN = false)
    (hb : b.effectiveDistance.isNaN = false) :
    isNearer a b = decide (FloatOrder.rank a.score < FloatOrder.rank b.score) := by
  rw [isNearer, score, score, orZero_of_not_isNaN ha, orZero_of_not_isNaN hb]
  exact decide_eq_decide.mpr (FloatOrder.lt_iff_rank_lt ha hb)

theorem isNearer_eq_false_of_isNaN {a b : Hit}
    (h : a.effectiveDistance.isNaN = true ∨ b.effectiveDistance.isNaN = true) :
    isNearer a b = false :=
  decide_eq_false (FloatOrder.not_lt_of_isNaN h)

/-! ### Rankings -/

/-- The hits are those that were found, in the order of their scores, and those of one score in the
order in which they were found. -/
structure IsRanking (found hits : List Hit) : Prop where
  perm : hits.Perm found
  ascending : hits.Pairwise fun a b => a.score ≤ b.score
  stable (hit : Hit) :
    (hits.filter fun other => other.score == hit.score) =
      found.filter fun other => other.score == hit.score

/-- Where a distance is no number, no hit before has a score above zero and none after it a score
below zero. -/
def IsParted (found : List Hit) : Prop :=
  ∀ first hit last, found = first ++ hit :: last → hit.effectiveDistance.isNaN = true →
    (∀ a ∈ first, a.score ≤ 0.0) ∧ ∀ a ∈ last, 0.0 ≤ a.score

theorem IsParted.left (h : IsParted (first ++ hit :: last)) : IsParted first := by
  rintro before other after rfl hnan
  obtain ⟨hbefore, hafter⟩ := h before other (after ++ hit :: last) (by simp) hnan
  exact ⟨hbefore, fun a ha => hafter a (List.mem_append_left _ ha)⟩

theorem IsParted.right (h : IsParted (first ++ hit :: last)) : IsParted last := by
  rintro before other after rfl hnan
  obtain ⟨hbefore, hafter⟩ := h (first ++ hit :: before) other after (by simp) hnan
  exact ⟨fun a ha => hbefore a (List.mem_append_right _ (List.mem_cons_of_mem _ ha)), hafter⟩

theorem nearestFirst_append_cons (hnan : hit.effectiveDistance.isNaN = true)
    (first last : List Hit) :
    nearestFirst (first ++ hit :: last) = nearestFirst first ++ hit :: nearestFirst last :=
  ranked_append_cons (fun _ => isNearer_eq_false_of_isNaN (Or.inl hnan))
    (fun _ => isNearer_eq_false_of_isNaN (Or.inr hnan)) first last

/-- Distances that are numbers are ranked without more. -/
theorem isRanking_nearestFirst (h : ∀ a ∈ found, a.effectiveDistance.isNaN = false) :
    IsRanking found (nearestFirst found) := by
  have hbefore : ∀ a ∈ found, ∀ b ∈ found,
      isNearer a b = decide (FloatOrder.rank a.score < FloatOrder.rank b.score) :=
    fun a ha b hb => isNearer_eq_decide (h a ha) (h b hb)
  have hfilter (hits : List Hit) (hit : Hit) :
      (hits.filter fun other => other.score == hit.score) =
        hits.filter fun other => FloatOrder.rank other.score = FloatOrder.rank hit.score :=
    List.filter_congr fun _ _ => Bool.eq_iff_iff.mpr (score_beq_iff.trans decide_eq_true_iff.symm)
  refine ⟨ranked_perm isNearer found, ?_, fun hit => ?_⟩
  · exact (ranked_pairwise hbefore).imp fun hab => score_le_iff.mpr hab
  · rw [hfilter, hfilter]
    exact filter_ranked hbefore (FloatOrder.rank hit.score)

theorem IsRanking.append_cons {ranked : List Hit} (hfirst : IsRanking first hits)
    (hlast : IsRanking last ranked) (hle : ∀ a ∈ first, a.score ≤ hit.score)
    (hge : ∀ a ∈ last, hit.score ≤ a.score) :
    IsRanking (first ++ hit :: last) (hits ++ hit :: ranked) where
  perm := hfirst.perm.append (hlast.perm.cons hit)
  ascending := by
    refine List.pairwise_append.mpr ⟨hfirst.ascending, List.pairwise_cons.mpr
      ⟨fun b hb => hge b (hlast.perm.mem_iff.mp hb), hlast.ascending⟩, fun a ha b hb => ?_⟩
    have hle := hle a (hfirst.perm.mem_iff.mp ha)
    rcases List.mem_cons.mp hb with rfl | hb
    · exact hle
    · exact score_le_trans hle (hge b (hlast.perm.mem_iff.mp hb))
  stable other := by
    rw [List.filter_append, List.filter_append, List.filter_cons, List.filter_cons,
      hfirst.stable other, hlast.stable other]

theorem score_of_isNaN (hnan : hit.effectiveDistance.isNaN = true) : hit.score = 0.0 :=
  orZero_of_isNaN hnan

private theorem isRanking_nearestFirst_of_isParted (h : IsParted found) :
    IsRanking found (nearestFirst found) := by
  induction hlength : found.length using Nat.strong_induction_on generalizing found with
  | _ n ih =>
    by_cases hany : ∃ hit ∈ found, hit.effectiveDistance.isNaN = true
    · obtain ⟨hit, hhit, hnan⟩ := hany
      obtain ⟨first, last, rfl⟩ := List.append_of_mem hhit
      rw [List.length_append, List.length_cons] at hlength
      obtain ⟨hle, hge⟩ := h first hit last rfl hnan
      rw [nearestFirst_append_cons hnan]
      rw [← score_of_isNaN hnan] at hle hge
      exact (ih first.length (by omega) h.left rfl).append_cons
        (ih last.length (by omega) h.right rfl) hle hge
    · refine isRanking_nearestFirst fun hit hhit => Bool.eq_false_iff.mpr fun hnan => ?_
      exact hany ⟨hit, hhit, hnan⟩

/-- **The nearest come first just in case that the hits are parted**, where they are put in place
one by one. -/
theorem isRanking_nearestFirst_iff :
    IsRanking found (nearestFirst found) ↔ IsParted found := by
  refine ⟨fun h => ?_, isRanking_nearestFirst_of_isParted⟩
  rintro first hit last rfl hnan
  have hascending := h.ascending
  rw [nearestFirst_append_cons hnan] at hascending
  obtain ⟨-, hlast, hcross⟩ := List.pairwise_append.mp hascending
  rw [← score_of_isNaN hnan]
  constructor
  · intro a ha
    exact hcross a (mem_ranked.mpr ha) hit List.mem_cons_self
  · intro a ha
    exact (List.pairwise_cons.mp hlast).1 a (mem_ranked.mpr ha)

end Hit

/-! ### Documents of a store -/

namespace StoredDocument

/-- Where the distance of a document is no number, no document before it has a score above zero and
none after it a score below zero. -/
def AreParted (fields : FieldSet) (documents : List StoredDocument) : Prop :=
  ∀ first document last, documents = first ++ document :: last → document.ReadsNaN fields →
    (∀ d ∈ first, d.score fields ≤ 0.0) ∧ ∀ d ∈ last, 0.0 ≤ d.score fields

/-- There are at most twenty documents, which are put in place one by one, or the comparison of
distances is an order: either all of them are numbers, or all that are numbers are the same. -/
def AreSettled (fields : FieldSet) (documents : List StoredDocument) : Prop :=
  documents.length ≤ 20 ∨ (∀ d ∈ documents, ¬d.ReadsNaN fields) ∨
    ∀ a ∈ documents, ∀ b ∈ documents, ¬a.ReadsNaN fields → ¬b.ReadsNaN fields →
      (a.score fields == b.score fields) = true

theorem areParted_of_forall_not {fields : FieldSet} {documents : List StoredDocument}
    (h : ∀ d ∈ documents, ¬d.ReadsNaN fields) : AreParted fields documents := by
  rintro first document last rfl hnan
  exact absurd hnan (h document (List.mem_append_right _ List.mem_cons_self))

theorem readsNaN_iff (space : String) {fields : FieldSet} {document : StoredDocument} :
    document.ReadsNaN fields ↔
      (Hit.ofDocument space fields document).effectiveDistance.isNaN = true := by
  rw [Hit.effectiveDistance_ofDocument, ReadsNaN]
  cases document.distance? fields with
  | none => simpa using by decide
  | some x => simp

theorem areParted_iff (space : String) {fields : FieldSet} {documents : List StoredDocument} :
    AreParted fields documents ↔ Hit.IsParted (documents.map (Hit.ofDocument space fields)) := by
  constructor
  · intro h first hit last hsplit hnan
    obtain ⟨first, rest, rfl, rfl, hrest⟩ := List.map_eq_append_iff.mp hsplit
    obtain ⟨document, last, rfl, rfl, rfl⟩ := List.map_eq_cons_iff.mp hrest
    obtain ⟨hle, hge⟩ := h first document last rfl ((readsNaN_iff space).mpr hnan)
    simp only [List.forall_mem_map, Hit.score_ofDocument]
    exact ⟨hle, hge⟩
  · rintro h first document last rfl hnan
    have hparts := h (first.map (Hit.ofDocument space fields))
      (Hit.ofDocument space fields document) (last.map (Hit.ofDocument space fields)) (by simp)
      ((readsNaN_iff space).mp hnan)
    simpa only [List.forall_mem_map, Hit.score_ofDocument] using hparts

end StoredDocument

namespace Query

variable {σ : Type} [Store σ] {query : Query} {index : String} {fields : FieldSet}
  {state after : σ} {documents : List StoredDocument}

/-- A query that is executed makes each document a hit. -/
theorem runFrom_execute (query : Query) (index : String) (fields : FieldSet) (state : σ) :
    (query.execute index fields).runFrom state =
      (((((Store.search index query).runFrom state).1.mapError SearchError.ofExecution).map
        fun documents =>
          let hits := documents.map (Hit.ofDocument (Key.space index) fields)
          if query.nearest.isSome then Hit.nearestFirst hits else hits),
        ((Store.search index query).runFrom state).2) := by
  rw [execute, Attempt.runFrom_bind, Attempt.runFrom_recast]
  rcases (Store.search index query).runFrom state with ⟨cause | documents, after⟩
  · rfl
  · rfl

theorem runFrom_execute_of_nearest (hnearest : query.nearest.isSome = true)
    (hsearch : (Store.search index query).runFrom state = (.ok documents, after)) :
    (query.execute index fields).runFrom state =
      (.ok (Hit.nearestFirst (documents.map (Hit.ofDocument (Key.space index) fields))),
        after) := by
  rw [runFrom_execute, hsearch, hnearest]
  rfl

/-- The two nearest. -/
private def nearestTwo : Query :=
  { literal := none, predicates := [], nearest := some ⟨"e_vec", [], 2⟩, combinator := .and,
    sortBy := none, returnFields := [], limit := 2 }

/-- A document at distance one and a document whose distance is no number. -/
private def unreadableLast : List StoredDocument :=
  [⟨"vs:i:one", [("dist", Text.encode "1")]⟩, ⟨"vs:i:unreadable", [("dist", Text.encode "nan")]⟩]

/-- A server that has these two documents to give. -/
private def twoFound : ServerStore Script :=
  ⟨.ofEvents [.reply (.array [.int 2, .simple "vs:i:one", .array [.simple "dist", .simple "1"],
    .simple "vs:i:unreadable", .array [.simple "dist", .simple "nan"]])]⟩

private def twoGiven : ServerStore Script := ⟨⟨[], false, [.search "i" nearestTwo]⟩⟩

private theorem search_twoFound :
    (Store.search "i" nearestTwo).runFrom twoFound = (.ok unreadableLast, twoGiven) := by
  with_unfolding_all rfl

end Query

end HybridSearch
