import HybridSearch.Attempt

/-!
# Running steps that may fail

What a step from a given state ends with and leaves, by the way in which the step is put together.

## Main definitions

* `Attempt.Keeps`, `Attempt.IsReadOnly` — a step that leaves a part of every state, or all of it,
  as it is.
* `Attempt.Settles` — a step that ends alike from every state of a region and stays in it.

## Main results

* `Attempt.runFrom_bind`, `Attempt.runFrom_bind_eq_ok` — a step after another.
* `Attempt.runFrom_within` — a step on a part of a state.
* `Attempt.mapM_id_eq_ok`, `Attempt.mapM_id_eq_error` — results that are values together, or fail
  with the first that is none.
* `Attempt.Keeps.bind`, `Attempt.Keeps.mapM` — steps put together from those that keep a part.
* `Attempt.Settles.bind` — a step after another, where both end alike.
-/

namespace HybridSearch

namespace Attempt

variable {ε δ σ τ α β : Type}

/-! ### Single steps -/

@[simp] theorem runFrom_mk (f : σ → Except ε α × σ) (s : σ) :
    runFrom (ExceptT.mk f : Attempt ε σ α) s = f s :=
  rfl

@[simp] theorem runFrom_pure (a : α) (s : σ) : runFrom (pure a : Attempt ε σ α) s = (.ok a, s) :=
  rfl

@[simp] theorem runFrom_throw (e : ε) (s : σ) :
    runFrom (throw e : Attempt ε σ α) s = (.error e, s) :=
  rfl

@[simp] theorem runFrom_get (s : σ) : runFrom (get : Attempt ε σ σ) s = (.ok s, s) :=
  rfl

@[simp] theorem runFrom_ofExcept (result : Except ε α) (s : σ) :
    runFrom (ofExcept result) s = (result, s) :=
  rfl

@[simp] theorem runFrom_lift (step : StateM σ α) (s : σ) :
    runFrom (ExceptT.lift step : Attempt ε σ α) s = (.ok (step.run s).1, (step.run s).2) :=
  rfl

@[simp] theorem runFrom_outcome (step : Attempt ε σ α) (s : σ) :
    runFrom (step.outcome : Attempt δ σ _) s = (.ok (step.runFrom s).1, (step.runFrom s).2) :=
  rfl

@[simp] theorem runFrom_recast (f : ε → δ) (step : Attempt ε σ α) (s : σ) :
    runFrom (step.recast f) s = ((step.runFrom s).1.mapError f, (step.runFrom s).2) :=
  rfl

@[simp] theorem runFrom_within (part : τ → σ) (put : τ → σ → τ) (step : Attempt ε σ α) (t : τ) :
    runFrom (step.within part put) t =
      ((step.runFrom (part t)).1, put t (step.runFrom (part t)).2) :=
  rfl

theorem runFrom_within_eq_iff {part : τ → σ} {put : τ → σ → τ} {step : Attempt ε σ α} {t u : τ}
    {result : Except ε α} :
    runFrom (step.within part put) t = (result, u) ↔
      ∃ s, step.runFrom (part t) = (result, s) ∧ u = put t s := by
  rw [runFrom_within, Prod.mk.injEq]
  constructor
  · rintro ⟨rfl, rfl⟩
    exact ⟨_, rfl, rfl⟩
  · rintro ⟨s, h, rfl⟩
    rw [h]
    exact ⟨rfl, rfl⟩

/-! ### Steps in a row -/

theorem except_bind_eq_ok {result : Except ε α} {next : α → Except ε β} {b : β} :
    result.bind next = .ok b ↔ ∃ a, result = .ok a ∧ next a = .ok b := by
  cases result with
  | error e => simp [Except.bind]
  | ok a => simp [Except.bind]

theorem except_map_eq_ok {result : Except ε α} {f : α → β} {b : β} :
    result.map f = .ok b ↔ ∃ a, result = .ok a ∧ f a = b := by
  cases result with
  | error e => simp [Except.map]
  | ok a => simp [Except.map]

theorem except_map_eq_error {result : Except ε α} {f : α → β} {e : ε} :
    result.map f = .error e ↔ result = .error e := by
  cases result with
  | error e => simp [Except.map]
  | ok a => simp [Except.map]

theorem mapM_id_ok_cons (value : α) (results : List (Except ε α)) :
    (Except.ok value :: results).mapM id = (results.mapM id).map (value :: ·) := by
  rw [List.mapM_cons]
  cases results.mapM id <;> rfl

/-- Results are values together if every one is a value. -/
theorem mapM_id_eq_ok {results : List (Except ε α)} {values : List α} :
    results.mapM id = .ok values ↔ results = values.map .ok := by
  induction results generalizing values with
  | nil => cases values <;> simp [pure, Except.pure]
  | cons result results ih =>
    cases result with
    | error e => cases values <;> simp [bind, Except.bind]
    | ok value =>
      rw [mapM_id_ok_cons, except_map_eq_ok]
      simp only [ih]
      constructor
      · rintro ⟨_, rfl, rfl⟩
        rfl
      · intro h
        obtain ⟨_, rest, rfl, ⟨⟩, rfl⟩ := List.map_eq_cons_iff.mp h.symm
        exact ⟨rest, rfl, rfl⟩

/-- Results fail together with the first that is no value. -/
theorem mapM_id_eq_error {results : List (Except ε α)} {e : ε} :
    results.mapM id = .error e ↔
      ∃ (values : List α) (rest : List (Except ε α)),
        results = values.map .ok ++ .error e :: rest := by
  induction results with
  | nil => simp [pure, Except.pure]
  | cons result results ih =>
    cases result with
    | error first =>
      constructor
      · rintro ⟨⟩
        exact ⟨[], results, rfl⟩
      · rintro ⟨_ | _, rest, h⟩
        · cases h
          rfl
        · cases h
    | ok value =>
      rw [mapM_id_ok_cons, except_map_eq_error, ih]
      constructor
      · rintro ⟨values, rest, rfl⟩
        exact ⟨value :: values, rest, rfl⟩
      · rintro ⟨_ | ⟨_, values⟩, rest, h⟩
        · cases h
        · cases h
          exact ⟨values, rest, rfl⟩

theorem runFrom_bind (step : Attempt ε σ α) (next : α → Attempt ε σ β) (s : σ) :
    runFrom (step >>= next) s =
      match step.runFrom s with
      | (.ok a, t) => (next a).runFrom t
      | (.error e, t) => (.error e, t) := by
  simp only [runFrom, ExceptT.run_bind, StateT.run_bind]
  rcases StateT.run step.run s with ⟨e | a, t⟩
  · rfl
  · rfl

theorem runFrom_bind_of_ok {step : Attempt ε σ α} {next : α → Attempt ε σ β} {s t : σ} {a : α}
    (h : step.runFrom s = (.ok a, t)) : runFrom (step >>= next) s = (next a).runFrom t := by
  rw [runFrom_bind, h]

theorem runFrom_bind_of_error {step : Attempt ε σ α} {next : α → Attempt ε σ β} {s t : σ} {e : ε}
    (h : step.runFrom s = (.error e, t)) : runFrom (step >>= next) s = (.error e, t) := by
  rw [runFrom_bind, h]

/-- Two steps in a row succeed only through a success of the first. -/
theorem runFrom_bind_eq_ok {step : Attempt ε σ α} {next : α → Attempt ε σ β} {s u : σ} {b : β} :
    runFrom (step >>= next) s = (.ok b, u) ↔
      ∃ a t, step.runFrom s = (.ok a, t) ∧ (next a).runFrom t = (.ok b, u) := by
  rw [runFrom_bind]
  rcases step.runFrom s with ⟨e | a, t⟩
  · simp
  · constructor
    · intro h
      exact ⟨a, t, rfl, h⟩
    · rintro ⟨_, _, ⟨⟩, h⟩
      exact h

theorem runFrom_map (f : α → β) (step : Attempt ε σ α) (s : σ) :
    runFrom (f <$> step) s = ((step.runFrom s).1.map f, (step.runFrom s).2) := by
  rw [map_eq_pure_bind, runFrom_bind]
  rcases step.runFrom s with ⟨e | a, t⟩ <;> rfl

/-- A step that cannot fail, after another. -/
theorem run_bind_of_eq {step : StateM σ α} {next : α → StateM σ β} {s t : σ} {a : α}
    (h : step.run s = (a, t)) : (step >>= next).run s = (next a).run t := by
  rw [StateT.run_bind, h]
  rfl

/-- What is read off the end of a step that ends well. -/
theorem exists_of_map_toOption {step : Attempt ε σ α} {f : α → β} {s : σ} {b : β}
    (h : (step.runFrom s).1.toOption.map f = some b) :
    ∃ a t, step.runFrom s = (.ok a, t) ∧ f a = b := by
  rcases hrun : step.runFrom s with ⟨e | a, t⟩
  · rw [hrun] at h
    cases h
  · rw [hrun] at h
    exact ⟨a, t, rfl, Option.some.inj h⟩

/-! ### Steps that leave a part alone -/

/-- However the step ends, the given part of the state is as it was. -/
def Keeps (part : σ → τ) (step : Attempt ε σ α) : Prop := ∀ s, part (step.runFrom s).2 = part s

abbrev IsReadOnly (step : Attempt ε σ α) : Prop := step.Keeps id

namespace Keeps

variable {part : σ → τ}

theorem pure (a : α) : Keeps part (Pure.pure a : Attempt ε σ α) := fun _ => rfl

theorem outcome {step : Attempt ε σ α} (h : step.Keeps part) :
    (step.outcome : Attempt δ σ _).Keeps part :=
  h

theorem bind {step : Attempt ε σ α} {next : α → Attempt ε σ β} (h : step.Keeps part)
    (hnext : ∀ a, (next a).Keeps part) : (step >>= next).Keeps part := by
  intro s
  have hs := h s
  rw [runFrom_bind]
  rcases hstep : step.runFrom s with ⟨e | a, t⟩
  · rw [hstep] at hs
    exact hs
  · rw [hstep] at hs
    exact (hnext a t).trans hs

theorem mapM {step : α → Attempt ε σ β} (h : ∀ a, (step a).Keeps part) (l : List α) :
    (l.mapM step).Keeps part := by
  induction l with
  | nil =>
    rw [List.mapM_nil]
    exact pure []
  | cons a l ih =>
    rw [List.mapM_cons]
    exact (h a).bind fun _ => ih.bind fun _ => pure _

end Keeps

/-! ### Steps that end alike -/

/-- From every state of a region the step ends alike, and in a state of the region. -/
def Settles (region : σ → Prop) (step : Attempt ε σ α) (result : Except ε α) : Prop :=
  ∀ s, region s → (step.runFrom s).1 = result ∧ region (step.runFrom s).2

namespace Settles

variable {region : σ → Prop}

theorem ofExcept (result : Except ε α) : (ofExcept result).Settles region result :=
  fun _ hs => ⟨rfl, hs⟩

theorem recast {step : Attempt ε σ α} {result : Except ε α} (h : step.Settles region result)
    (f : ε → δ) : (step.recast f).Settles region (result.mapError f) :=
  fun s hs => ⟨congrArg (Except.mapError f) (h s hs).1, (h s hs).2⟩

theorem map {step : Attempt ε σ α} {result : Except ε α} (h : step.Settles region result)
    (f : α → β) : (f <$> step).Settles region (result.map f) := by
  intro s hs
  rw [runFrom_map]
  exact ⟨congrArg (Except.map f) (h s hs).1, (h s hs).2⟩

theorem bind {step : Attempt ε σ α} {next : α → Attempt ε σ β} {result : Except ε α}
    {f : α → Except ε β} (h : step.Settles region result)
    (hnext : ∀ a, result = .ok a → (next a).Settles region (f a)) :
    (step >>= next).Settles region (result.bind f) := by
  intro s hs
  obtain ⟨rfl, hafter⟩ := h s hs
  rw [runFrom_bind]
  rcases hstep : step.runFrom s with ⟨e | a, t⟩
  · rw [hstep] at hafter
    exact ⟨rfl, hafter⟩
  · rw [hstep] at hnext hafter
    exact hnext a rfl t hafter

/-- A step that settles in a single state leaves it as it is. -/
theorem runFrom_eq {step : Attempt ε σ α} {result : Except ε α} {s : σ}
    (h : step.Settles (· = s) result) : step.runFrom s = (result, s) :=
  Prod.ext (h s rfl).1 (h s rfl).2

end Settles

end Attempt

end HybridSearch
