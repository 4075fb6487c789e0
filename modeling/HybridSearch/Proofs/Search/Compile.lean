import HybridSearch.Proofs.Attempt
import HybridSearch.Query.Compile

/-!
# What a search is compiled to

Each filter on a declared field becomes one predicate, whatever the others are. The free text becomes
a query of its own, into which the predicates are put.

## Main definitions

* `Query.ofText`, `Query.restrict` — the query of a free text, and with predicates put into it.

## Main results

* `Predicate.exists_ofFilters_eq_ok_iff`, `Predicate.mem_of_ofFilters_eq_ok` — the predicates of
  filters are those of each alone.
* `Query.compile_eq` — a compiled query as that of its text with the predicates put into it.
* `Query.mem_projection_iff`, `Query.nodup_projection_iff` — what is wanted of the nearest, and
  whether it is named once.
* `Query.returnFields_of_runFrom_compile` — a query for the nearest wants that, any other everything.
-/

namespace HybridSearch

/-! ### Predicates of filters -/

namespace Predicate

variable {fields : FieldSet} {filters : Json.Members} {predicates : List Predicate}

/-- On a declared field a filter becomes the predicate that it becomes alone. -/
theorem ofFilters_cons_eq_ok_iff {filter : String × Json}
    (hdeclared : (fields.get? filter.1).isSome) :
    ofFilters fields (filter :: filters) = .ok predicates ↔
      ∃ p rest, ofFilters fields [filter] = .ok [p] ∧ ofFilters fields filters = .ok rest ∧
        predicates = p :: rest := by
  obtain ⟨key, value⟩ := filter
  obtain ⟨field, hfield⟩ := Option.isSome_iff_exists.mp hdeclared
  simp only [ofFilters, List.filterMapM_cons, List.filterMapM_nil, hfield]
  cases ofFilter key field.type value with
  | error cause => exact iff_of_false nofun fun ⟨_, _, h, _⟩ => nomatch h
  | ok predicate =>
    cases filters.filterMapM (m := Except SearchError) _ with
    | error cause => exact iff_of_false nofun fun ⟨_, _, _, h, _⟩ => nomatch h
    | ok rest =>
      constructor
      · rintro ⟨⟩
        exact ⟨predicate, rest, rfl, rfl, rfl⟩
      · rintro ⟨_, _, ⟨⟩, ⟨⟩, rfl⟩
        rfl

theorem exists_ofFilters_eq_ok_iff (hdeclared : ∀ filter ∈ filters, (fields.get? filter.1).isSome) :
    (∃ predicates, ofFilters fields filters = .ok predicates) ↔
      ∀ filter ∈ filters, ∃ p, ofFilters fields [filter] = .ok [p] := by
  induction filters with
  | nil => exact iff_of_true ⟨[], rfl⟩ nofun
  | cons filter filters ih =>
    obtain ⟨hfilter, hfilters⟩ := List.forall_mem_cons.mp hdeclared
    rw [List.forall_mem_cons, ← ih hfilters]
    constructor
    · rintro ⟨predicates, h⟩
      obtain ⟨p, rest, hp, hrest, -⟩ := (ofFilters_cons_eq_ok_iff hfilter).mp h
      exact ⟨⟨p, hp⟩, rest, hrest⟩
    · rintro ⟨⟨p, hp⟩, rest, hrest⟩
      exact ⟨p :: rest, (ofFilters_cons_eq_ok_iff hfilter).mpr ⟨p, rest, hp, hrest, rfl⟩⟩

theorem mem_of_ofFilters_eq_ok (hdeclared : ∀ filter ∈ filters, (fields.get? filter.1).isSome)
    (h : ofFilters fields filters = .ok predicates) {p : Predicate} :
    p ∈ predicates ↔ ∃ filter ∈ filters, ofFilters fields [filter] = .ok [p] := by
  induction filters generalizing predicates with
  | nil =>
    cases h
    simp
  | cons filter filters ih =>
    obtain ⟨hfilter, hfilters⟩ := List.forall_mem_cons.mp hdeclared
    obtain ⟨first, rest, hfirst, hrest, rfl⟩ := (ofFilters_cons_eq_ok_iff hfilter).mp h
    simp only [List.mem_cons, exists_eq_or_imp, ih hfilters hrest, hfirst, Except.ok.injEq,
      List.cons.injEq, and_true, eq_comm (a := p)]

theorem ne_nil_of_ofFilters_eq_ok (hdeclared : ∀ filter ∈ filters, (fields.get? filter.1).isSome)
    (hfilters : filters ≠ []) (h : ofFilters fields filters = .ok predicates) :
    predicates ≠ [] := by
  obtain ⟨filter, rest, rfl⟩ := List.exists_cons_of_ne_nil hfilters
  obtain ⟨p, predicates, -, -, rfl⟩ :=
    (ofFilters_cons_eq_ok_iff (hdeclared filter List.mem_cons_self)).mp h
  exact List.cons_ne_nil p predicates

end Predicate

/-! ### Compiled queries -/

namespace Query

/-- The query of a free text, without predicates. -/
def ofText (fields : FieldSet) (text : Option String) (limit : Nat) (wantParents : Bool) :
    Attempt SearchError Gateway Query :=
  let query := ofPredicates [] .and limit
  match freeText? text, fields.vectorField? with
  | some text, some field => do
    let vector ← Gateway.embed (.text text)
    return query.nearestTo field.name vector (projection fields wantParents)
  | some text, none => return { query with literal := some text }
  | none, _ => return query

/-- The query with other predicates. -/
def restrict (query : Query) (predicates : List Predicate) (combinator : Combinator) : Query :=
  { query with predicates := predicates, combinator := combinator }

variable {fields : FieldSet} {text : Option String} {filters : Json.Members} {limit : Nat}
  {wantParents : Bool} {predicates : List Predicate} {gateway after : Gateway} {query : Query}

/-- **The predicates are put into the query of the text.** -/
theorem compile_eq (hfilters : Predicate.ofFilters fields filters = .ok predicates)
    (hsome : predicates ≠ []) (combinator : Combinator) :
    compile fields text filters combinator limit wantParents =
      (fun query => some (query.restrict predicates combinator)) <$>
        ofText fields text limit wantParents := by
  have hempty : predicates.isEmpty = false := List.isEmpty_eq_false_iff.mpr hsome
  have hbind {α : Type} (next : List Predicate → Attempt SearchError Gateway α) :
      Attempt.ofExcept (.ok predicates) >>= next = next predicates := rfl
  rw [compile, hfilters, hbind, ofText, hempty]
  cases freeText? text with
  | none => rfl
  | some text =>
    cases fields.vectorField? with
    | none => rfl
    | some field =>
      rw [map_bind]
      rfl

theorem compile_of_error {cause : SearchError} {combinator : Combinator}
    (hfilters : Predicate.ofFilters fields filters = .error cause) :
    (compile fields text filters combinator limit wantParents).runFrom gateway =
      (.error cause, gateway) := by
  rw [compile, hfilters]
  rfl

/-- The query of a text has the limit of the request, and no literal text if it asks for the
nearest. -/
theorem eq_of_runFrom_ofText
    (h : (ofText fields text limit wantParents).runFrom gateway = (.ok query, after)) :
    query.limit = limit ∧ (∀ clause, query.nearest = some clause → clause.k = limit) ∧
      (query.literal.isSome → (freeText? text).isSome ∧ fields.vectorField? = none) := by
  rw [ofText] at h
  cases htext : freeText? text with
  | none =>
    rw [htext] at h
    cases h
    exact ⟨rfl, nofun, nofun⟩
  | some trimmed =>
    cases hfield : fields.vectorField? with
    | none =>
      rw [htext, hfield] at h
      cases h
      exact ⟨rfl, nofun, fun _ => ⟨rfl, rfl⟩⟩
    | some field =>
      rw [htext, hfield] at h
      obtain ⟨vector, _, -, hquery⟩ := Attempt.runFrom_bind_eq_ok.mp h
      cases hquery
      refine ⟨rfl, ?_, nofun⟩
      rintro _ ⟨⟩
      rfl

/-! ### Wanted attributes -/

variable {combinator : Combinator} {name : String}

theorem mem_projection_iff :
    name ∈ projection fields wantParents ↔
      (∃ field ∈ fields, field.type ≠ .vector ∧ field.name = name) ∨ name = distanceField ∨
        wantParents = true ∧ name = parentField := by
  have hnames : name ∈ (fields.filter fun field => field.type != .vector).map Field.name ↔
      ∃ field ∈ fields, field.type ≠ .vector ∧ field.name = name := by
    simp [and_assoc]
  rw [projection]
  split
  · rename_i h
    obtain ⟨hwant, -⟩ := Bool.and_eq_true_iff.mp h
    simp only [List.mem_append, hnames, List.mem_singleton, hwant, true_and, or_assoc]
  · rename_i h
    rw [← hnames, ← or_assoc, ← List.mem_singleton, ← List.mem_append, iff_self_or]
    rintro ⟨hwant, rfl⟩
    refine Decidable.byContradiction fun hnew => h ?_
    simpa only [hwant, Bool.true_and, Bool.not_eq_true', List.contains_eq_mem,
      decide_eq_false_iff_not] using hnew

theorem nodup_projection_iff (hnodup : (fields.map Field.name).Nodup) :
    (projection fields wantParents).Nodup ↔
      ∀ field ∈ fields, field.type ≠ .vector → field.name ≠ distanceField := by
  have hnames : ((fields.filter fun field => field.type != .vector).map Field.name).Nodup :=
    hnodup.sublist (List.filter_sublist.map _)
  have hconcat {names : List String} {name : String} :
      (names ++ [name]).Nodup ↔ names.Nodup ∧ name ∉ names := by
    rw [List.nodup_append]
    constructor
    · rintro ⟨hold, -, hne⟩
      exact ⟨hold, fun hmem => hne name hmem name List.mem_cons_self rfl⟩
    · rintro ⟨hold, hnew⟩
      refine ⟨hold, List.pairwise_singleton _ _, fun other hother _ hname heq => hnew ?_⟩
      rwa [heq, List.mem_singleton.mp hname] at hother
  have hdistance : ((fields.filter fun field => field.type != .vector).map Field.name ++
      [distanceField]).Nodup ↔
        ∀ field ∈ fields, field.type ≠ .vector → field.name ≠ distanceField := by
    rw [hconcat, and_iff_right hnames]
    simp
  rw [← hdistance, projection]
  split
  · rename_i h
    rw [hconcat, and_iff_left]
    simpa using (Bool.and_eq_true_iff.mp h).2
  · exact Iff.rfl

/-- A query for the nearest wants the projection, and one without a text wants everything. -/
theorem returnFields_of_runFrom_compile
    (h : (compile fields text filters combinator limit wantParents).runFrom gateway =
      (.ok (some query), after)) :
    (query.nearest.isSome ∧ query.returnFields = projection fields wantParents ∧
        (freeText? text).isSome) ∨
      query.nearest = none ∧ query.returnFields = [] ∧
        (freeText? text = none ∨ fields.vectorField? = none) := by
  obtain ⟨predicates, _, -, h⟩ := Attempt.runFrom_bind_eq_ok.mp h
  cases htext : freeText? text with
  | none =>
    rw [htext] at h
    cases hempty : predicates.isEmpty with
    | true => simp [hempty] at h
    | false =>
      obtain ⟨rfl, -⟩ : ofPredicates predicates combinator limit = query ∧ _ := by
        simpa [hempty] using h
      exact Or.inr ⟨rfl, rfl, Or.inl rfl⟩
  | some trimmed =>
    cases hfield : fields.vectorField? with
    | none =>
      rw [htext, hfield] at h
      cases h
      exact Or.inr ⟨rfl, rfl, Or.inr rfl⟩
    | some field =>
      rw [htext, hfield] at h
      obtain ⟨vector, _, -, hquery⟩ := Attempt.runFrom_bind_eq_ok.mp h
      cases hquery
      exact Or.inl ⟨rfl, rfl, rfl⟩

end Query

end HybridSearch
