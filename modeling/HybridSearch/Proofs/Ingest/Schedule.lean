import HybridSearch.Ingest.Batch
import HybridSearch.Proofs.Attempt

/-!
# The schedule of a batch

What is done next in a batch: the rows end in order once the model is loaded, and before that a row
begins to wait, or one row ends and others follow.

## Main definitions

* `Ingest.Schedules` — a run of rows that wait and rows that are not begun.

## Main results

* `Ingest.run_scheduled_eq_iff` — the batch has these runs.
* `Ingest.run_scheduled_of_not_waits` — rows that need no model end in order.
-/

namespace HybridSearch.Ingest

open IngestReport (Outcome)

variable {σ : Type} [Store σ] (options : CoercionOptions) (index : String) (fields : FieldSet)

/-- A run of rows that wait and rows that are not begun, by what is done first. -/
inductive Schedules (spare : Nat) : List NumberedRow → List NumberedRow → Workspace σ →
    List Outcome → Workspace σ → Prop
  | loaded {waiting fresh : List NumberedRow} {workspace after : Workspace σ}
      {outcomes : List Outcome} (h : workspace.intake.gateway.isLoaded = true)
      (hrun : (inOrder options index fields (waiting ++ fresh)).run workspace = (outcomes, after)) :
      Schedules spare waiting fresh workspace outcomes after
  | nil (workspace : Workspace σ) : Schedules spare [] [] workspace [] workspace
  | wait {next : NumberedRow} {waiting rest : List NumberedRow} {workspace after : Workspace σ}
      {outcomes : List Outcome} (h : ¬workspace.intake.gateway.isLoaded = true)
      (hroom : waiting.length ≤ spare) (hnext : waits options fields next = true)
      (hrest : Schedules spare (waiting ++ [next]) rest workspace outcomes after) :
      Schedules spare waiting (next :: rest) workspace outcomes after
  | begin {next : NumberedRow} {waiting rest : List NumberedRow}
      {workspace between after : Workspace σ} {outcomes : List Outcome}
      {result : Except IngestError Record} (h : ¬workspace.intake.gateway.isLoaded = true)
      (hroom : waiting.length ≤ spare) (hnext : ¬waits options fields next = true)
      (hrow : (row options index fields next.2).runFrom workspace = (result, between))
      (hrest : Schedules spare waiting rest between outcomes after) :
      Schedules spare waiting (next :: rest) workspace ((next.1, result) :: outcomes) after
  | first {first : NumberedRow} {others fresh : List NumberedRow}
      {workspace between after : Workspace σ} {outcomes : List Outcome}
      {result : Except IngestError Record} (h : ¬workspace.intake.gateway.isLoaded = true)
      (hfull : fresh = [] ∨ spare < (first :: others).length)
      (hrow : (row options index fields first.2).runFrom workspace = (result, between))
      (hrest : Schedules spare others fresh between outcomes after) :
      Schedules spare (first :: others) fresh workspace ((first.1, result) :: outcomes) after

variable {options index fields} {spare : Nat} {waiting fresh rest : List NumberedRow}
  {workspace between after : Workspace σ} {outcomes : List Outcome}
  {result : Except IngestError Record}

/-- A row that ends before others. -/
theorem run_cons_eq {next : NumberedRow} {step : StateM (Workspace σ) (List Outcome)}
    (hrow : (row options index fields next.2).runFrom workspace = (result, between))
    (hstep : step.run between = (outcomes, after)) :
    let both : StateM (Workspace σ) (List Outcome) := do
      let result ← (row options index fields next.2).run
      return (next.1, result) :: (← step)
    both.run workspace = ((next.1, result) :: outcomes, after) := by
  dsimp only
  rw [Attempt.run_bind_of_eq hrow, Attempt.run_bind_of_eq hstep]
  rfl

theorem run_inOrder_cons {next : NumberedRow}
    (hrow : (row options index fields next.2).runFrom workspace = (result, between))
    (hrest : (inOrder options index fields rest).run between = (outcomes, after)) :
    (inOrder options index fields (next :: rest)).run workspace =
      ((next.1, result) :: outcomes, after) :=
  run_cons_eq hrow hrest

theorem run_scheduled_eq_of_schedules
    (h : Schedules options index fields spare waiting fresh workspace outcomes after) :
    (scheduled options index fields spare waiting fresh).run workspace = (outcomes, after) := by
  have hget (workspace : Workspace σ) :
      (get : StateM (Workspace σ) _).run workspace = (workspace, workspace) := rfl
  induction h with
  | loaded h hrun => rw [scheduled.eq_def, Attempt.run_bind_of_eq (hget _), if_pos h, hrun]
  | nil workspace =>
    rw [scheduled.eq_def, Attempt.run_bind_of_eq (hget _)]
    split <;> rfl
  | wait h hroom hnext _ ih =>
    rw [scheduled.eq_def, Attempt.run_bind_of_eq (hget _), if_neg h]
    dsimp only
    rw [if_pos hroom, if_pos hnext, ih]
  | begin h hroom hnext hrow _ ih =>
    rw [scheduled.eq_def, Attempt.run_bind_of_eq (hget _), if_neg h]
    dsimp only
    rw [if_pos hroom, if_neg hnext]
    exact run_cons_eq hrow ih
  | @first first others fresh workspace _ _ _ _ h hfull hrow _ ih =>
    rw [scheduled.eq_def, Attempt.run_bind_of_eq (hget _), if_neg h]
    cases fresh with
    | nil => exact run_cons_eq hrow ih
    | cons next rest =>
      dsimp only
      rw [if_neg (Nat.not_le_of_lt (hfull.resolve_left (List.cons_ne_nil next rest)))]
      exact run_cons_eq hrow ih

variable (options index fields spare)

theorem exists_schedules (waiting fresh : List NumberedRow) (workspace : Workspace σ) :
    ∃ outcomes after, Schedules options index fields spare waiting fresh workspace outcomes after := by
  induction waiting, fresh using scheduled.induct spare generalizing workspace with
  | case1 waiting fresh ih =>
    by_cases hloaded : workspace.intake.gateway.isLoaded = true
    · exact ⟨_, _, .loaded hloaded rfl⟩
    rcases fresh with _ | ⟨next, rest⟩
    · rcases waiting with _ | ⟨first, others⟩
      · exact ⟨_, _, .nil workspace⟩
      · obtain ⟨_, _, hrest⟩ := ih ((row options index fields first.2).runFrom workspace).2
        exact ⟨_, _, .first hloaded (.inl rfl) rfl hrest⟩
    · obtain ⟨hwait, hbegin, hfirst⟩ := ih
      by_cases hroom : waiting.length ≤ spare
      · by_cases hnext : waits options fields next = true
        · obtain ⟨_, _, hrest⟩ := hwait workspace
          exact ⟨_, _, .wait hloaded hroom hnext hrest⟩
        · obtain ⟨_, _, hrest⟩ := hbegin ((row options index fields next.2).runFrom workspace).2
          exact ⟨_, _, .begin hloaded hroom hnext rfl hrest⟩
      · rcases waiting with _ | ⟨first, others⟩
        · exact absurd (Nat.zero_le spare) hroom
        · obtain ⟨_, _, hrest⟩ := hfirst ((row options index fields first.2).runFrom workspace).2
          exact ⟨_, _, .first hloaded (.inr (Nat.lt_of_not_le hroom)) rfl hrest⟩

variable {options index fields spare}

/-- **A batch is scheduled in one way**, which is one of these runs. -/
theorem run_scheduled_eq_iff :
    (scheduled options index fields spare waiting fresh).run workspace = (outcomes, after) ↔
      Schedules options index fields spare waiting fresh workspace outcomes after := by
  refine ⟨fun h => ?_, run_scheduled_eq_of_schedules⟩
  obtain ⟨_, _, hschedules⟩ := exists_schedules options index fields spare waiting fresh workspace
  obtain ⟨rfl, rfl⟩ := Prod.mk.inj ((run_scheduled_eq_of_schedules hschedules).symm.trans h)
  exact hschedules

variable (options index fields)

/-- Rows none of which waits come to their ends in order. -/
theorem run_scheduled_of_not_waits (spare : Nat) {rows : List NumberedRow}
    (h : ∀ row ∈ rows, waits options fields row = false) (workspace : Workspace σ) :
    (scheduled options index fields spare [] rows).run workspace =
      (inOrder options index fields rows).run workspace := by
  rcases hordered : (inOrder options index fields rows).run workspace with ⟨outcomes, after⟩
  refine run_scheduled_eq_iff.mpr ?_
  induction rows generalizing workspace outcomes with
  | nil =>
    cases hordered
    exact .nil _
  | cons next rest ih =>
    by_cases hloaded : workspace.intake.gateway.isLoaded = true
    · exact .loaded hloaded hordered
    obtain ⟨hnext, hrest⟩ := List.forall_mem_cons.mp h
    rcases hrow : (row options index fields next.2).runFrom workspace with ⟨result, between⟩
    rcases hstep : (inOrder options index fields rest).run between with ⟨others, final⟩
    rw [run_inOrder_cons hrow hstep] at hordered
    cases hordered
    exact .begin hloaded (Nat.zero_le spare) (by simp [hnext]) hrow (ih hrest between _ hstep)

end HybridSearch.Ingest
