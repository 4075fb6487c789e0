import HybridSearch.Proofs.Search.Compile
import HybridSearch.Proofs.Search.Escape

/-!
# The free text in the text of a query

Without a vector the free text stands in the query as it is, next to the clauses of the filters. It
is literal there if and only if it was written so; otherwise its operators are operators of the query.

## Main definitions

* `Query.around` — the text of a query with a given clause in the place of the free text.

## Main results

* `Query.exists_operators_around` — the operators of a clause stand among those of the filters.
* `Query.literal_iff` — when the free text is literal, and when it brings operators.
-/

namespace HybridSearch.Query

open Escape (IsLiteral operators isTextChar)

/-- The text of the query with the clause in the place of the free text. -/
def around (query : Query) (clause : String) : String :=
  match query.predicates.map Predicate.render with
  | [] => clause
  | clauses => query.combinator.join (clause :: clauses)

/-- A clause stands alone or before a blank, and at the start or after a bracket. -/
theorem exists_toList_around (query : Query) :
    ∃ first last, (first = [] ∨ first = ['(']) ∧ (last = [] ∨ ∃ rest, last = ' ' :: rest) ∧
      ∀ clause, (query.around clause).toList = first ++ (clause.toList ++ last) := by
  cases hclauses : query.predicates.map Predicate.render with
  | nil =>
    refine ⟨[], [], Or.inl rfl, Or.inl rfl, fun clause => ?_⟩
    rw [around, hclauses, List.nil_append, List.append_nil]
  | cons next rest =>
    cases hcombinator : query.combinator with
    | and =>
      refine ⟨[], ' ' :: (Text.joined " " (next :: rest)).toList, Or.inl rfl, Or.inr ⟨_, rfl⟩,
        fun clause => ?_⟩
      simp [around, hclauses, hcombinator, Combinator.join, Text.joined]
    | or =>
      refine ⟨['('], ' ' :: '|' :: ' ' :: ((Text.joined " | " (next :: rest)).toList ++ [')']),
        Or.inr rfl, Or.inr ⟨_, rfl⟩, fun clause => ?_⟩
      simp [around, hclauses, hcombinator, Combinator.join, Text.joined]

theorem around_injective (query : Query) : Function.Injective query.around := by
  obtain ⟨first, last, -, -, haround⟩ := query.exists_toList_around
  intro left right h
  have htoList := congrArg String.toList h
  rw [haround, haround, List.append_cancel_left_eq, List.append_cancel_right_eq] at htoList
  exact String.toList_inj.mp htoList

theorem text_eq_around {query : Query} {literal : String} (hnearest : query.nearest = none)
    (hliteral : query.literal = some literal) : query.text = query.around literal := by
  rw [Query.text, around, hnearest, hliteral]
  cases query.predicates <;> rfl

/-- **The operators of a clause** stand among those of the filters, whatever they are. -/
theorem exists_operators_around (query : Query) :
    ∃ first last, ∀ clause, operators isTextChar (query.around clause).toList =
      first ++ operators isTextChar clause.toList ++ last := by
  have hblank : isTextChar ' ' = true := by decide +kernel
  have hbracket : isTextChar '(' = false := by decide +kernel
  obtain ⟨first, last, hfirst, hlast, haround⟩ := query.exists_toList_around
  have hends : ∃ ending, ∀ clause : List Char,
      operators isTextChar (clause ++ last) = operators isTextChar clause ++ ending := by
    rcases hlast with rfl | ⟨rest, rfl⟩
    · exact ⟨[], fun clause => by simp⟩
    · exact ⟨_, fun clause => Escape.operators_append_cons hblank (by decide) clause rest⟩
  obtain ⟨ending, hending⟩ := hends
  refine ⟨first, ending, fun clause => ?_⟩
  rw [haround, List.append_assoc, ← hending]
  rcases hfirst with rfl | rfl
  · rfl
  · rw [List.singleton_append, Escape.operators_cons_of_ne (by decide), hbracket]
    rfl

variable {fields : FieldSet} {text : Option String} {literal : String} {filters : Json.Members}
  {combinator : Combinator} {limit : Nat} {wantParents : Bool} {gateway after : Gateway}
  {query : Query}

/-- Without a vector a text becomes the literal of its query. -/
theorem eq_of_compile_literal (hvector : fields.vectorField? = none)
    (htext : freeText? text = some literal)
    (h : (compile fields text filters combinator limit wantParents).runFrom gateway =
      (.ok (some query), after)) :
    Predicate.ofFilters fields filters = .ok query.predicates ∧
      query = { ofPredicates query.predicates combinator limit with literal := some literal } := by
  obtain ⟨predicates, _, hfilters, hquery⟩ := Attempt.runFrom_bind_eq_ok.mp h
  rw [htext, hvector] at hquery
  cases hquery
  exact ⟨congrArg Prod.fst hfilters, rfl⟩

/-- **The free text of a query without a vector** stands in its text as it is. The query can be read
as one with a literal clause if and only if the free text is literal, and it has the operators of
its filters alone if and only if the free text has none. -/
theorem literal_iff (hvector : fields.vectorField? = none)
    (htext : freeText? text = some literal)
    (h : (compile fields text filters combinator limit wantParents).runFrom gateway =
      (.ok (some query), after)) :
    Predicate.ofFilters fields filters = .ok query.predicates ∧ query.combinator = combinator ∧
      query.text = query.around literal ∧
      ((∃ clause, query.text = query.around clause ∧ IsLiteral isTextChar clause.toList) ↔
        IsLiteral isTextChar literal.toList) ∧
      (operators isTextChar query.text.toList = operators isTextChar (query.around "").toList ↔
        operators isTextChar literal.toList = []) := by
  obtain ⟨hfilters, hquery⟩ := eq_of_compile_literal hvector htext h
  have haround : query.text = query.around literal :=
    text_eq_around (by rw [hquery]; rfl) (by rw [hquery])
  refine ⟨hfilters, by rw [hquery]; rfl, haround, ⟨?_, fun hliteral => ⟨literal, haround, hliteral⟩⟩,
    ?_⟩
  · rintro ⟨clause, hclause, hliteral⟩
    rwa [query.around_injective (haround.symm.trans hclause)]
  · obtain ⟨first, last, hoperators⟩ := query.exists_operators_around
    rw [haround, hoperators, hoperators, List.append_cancel_right_eq, List.append_cancel_left_eq]
    rfl

private def tagOnly : FieldSet := [⟨"t", .tag, false⟩]

private def noModel : Gateway := .ofLoader (fun _ => .error (.embeddingUnavailable "no model")) 1

/-- The search for a text next to a tag. -/
private def compileTagged (text : String) : Attempt SearchError Gateway (Option Query) :=
  compile tagOnly (some text) [("t", .str "x")] .and 10 false

private theorem exists_compileTagged {text clauses : String}
    (h : ((compileTagged text).runFrom noModel).1.toOption.map (Option.map Query.text) =
      some (some clauses)) :
    ∃ query after, (compileTagged text).runFrom noModel = (.ok (some query), after) ∧
      query.text = clauses := by
  obtain ⟨result, after, hrun, hresult⟩ := Attempt.exists_of_map_toOption h
  obtain ⟨query, rfl, htext⟩ := Option.map_eq_some_iff.mp hresult
  exact ⟨query, after, hrun, htext⟩

/-- A text that was escaped before it was searched for. -/
theorem literal_iff_escaped :
    ∃ query after, (compileTagged (Escape.text "a|b c")).runFrom noModel =
        (.ok (some query), after) ∧
      query.text = "a\\|b c @t:\x7bx\x7d" ∧
      (∃ clause, query.text = query.around clause ∧ IsLiteral isTextChar clause.toList) ∧
      operators isTextChar query.text.toList = operators isTextChar (query.around "").toList := by
  obtain ⟨query, after, hrun, htext⟩ := exists_compileTagged
    (show ((compileTagged (Escape.text "a|b c")).runFrom noModel).1.toOption.map
      (Option.map Query.text) = some (some "a\\|b c @t:\x7bx\x7d") by decide +kernel)
  have hfree : freeText? (some (Escape.text "a|b c")) = some (Escape.text "a|b c") := by
    decide +kernel
  have hliteral := Escape.isLiteral_text "a|b c"
  obtain ⟨-, -, -, hread, hoperators⟩ := literal_iff (by decide) hfree hrun
  exact ⟨query, after, hrun, htext, hread.mpr hliteral,
    hoperators.mpr (hliteral.operators_eq_nil (by decide +kernel))⟩

/-- The free text is not always literal: a bar in it is an operator of the query. -/
theorem not_literal :
    ¬∀ (fields : FieldSet) (text : Option String) (literal : String) (filters : Json.Members)
      (combinator : Combinator) (limit : Nat) (wantParents : Bool) (gateway after : Gateway)
      (query : Query), fields.vectorField? = none → freeText? text = some literal →
      (compile fields text filters combinator limit wantParents).runFrom gateway =
        (.ok (some query), after) →
      ∃ clause, query.text = query.around clause ∧ IsLiteral isTextChar clause.toList := by
  intro hall
  obtain ⟨query, after, hrun, -⟩ := exists_compileTagged
    (show ((compileTagged "a | b").runFrom noModel).1.toOption.map (Option.map Query.text) =
      some (some "a | b @t:\x7bx\x7d") by decide +kernel)
  have hfree : freeText? (some "a | b") = some "a | b" := by decide +kernel
  obtain ⟨clause, hclause, hliteral⟩ := hall _ _ _ _ _ _ _ _ _ _ (by decide) hfree hrun
  obtain ⟨-, hquery⟩ := eq_of_compile_literal (by decide) hfree hrun
  have haround : query.text = query.around "a | b" :=
    text_eq_around (by rw [hquery]; rfl) (by rw [hquery])
  rw [← query.around_injective (haround.symm.trans hclause)] at hliteral
  have hnone := hliteral.operators_eq_nil (by decide +kernel)
  revert hnone
  decide +kernel

end HybridSearch.Query
