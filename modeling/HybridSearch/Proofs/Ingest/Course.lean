import HybridSearch.Proofs.Ingest.Making
import Mathlib.Logic.Relation

/-!
# The course of a batch over any store

The rows of a batch are made into records and written in any order. What a row is made into depends
on the gateway and the ids as the other rows have left them, and whether its record is written is up
to the store, which may be any. Whatever happens, every row ends once, with what it was made into or
with the error of the store.

## Main definitions

* `Ingest.write` — what follows once a row was made into something.
* `Ingest.Course`, `Ingest.Move`, `Ingest.Finishes` — how far the rows have come, what may happen
  next, and what may happen to a whole batch.
* `Ingest.Makes`, `Ingest.Gives` — what a row may be made into, and what it may end with.
* `Ingest.Tallies` — every row is in one place, and has nothing but its own results.

## Main results

* `Ingest.runFrom_row_eq_write` — a row is made into a record, and that is written.
* `Ingest.finishes_scheduled` — the schedule of a batch is one of its courses.
* `Ingest.exists_finish` — every course can be brought to its end.
* `Ingest.Tallies.step`, `Ingest.Tallies.moves` — what every move and every course keeps.
-/

namespace HybridSearch.Ingest

open IngestReport (Outcome)

variable {σ : Type} [Store σ] (options : CoercionOptions) (index : String) (fields : FieldSet)

/-! ### One row over any store -/

/-- The record of a row is written, if the row has one. -/
def write : Except IngestError Record → Attempt IngestError σ Record
  | .ok record => do
    (Store.hashSet record.key record.fields).recast IngestError.search
    return record
  | .error cause => throw cause

/-- What is no object is refused over every store for the same reason. -/
theorem row_eq_throw {content : Except IngestError Json}
    (h : ∀ source, content ≠ .ok (.obj source)) :
    ∃ cause, ∀ (τ : Type) [Store τ],
      (row options index fields content : Attempt _ (Workspace τ) _) = throw cause := by
  rcases content with cause | json
  · exact ⟨cause, fun _ _ => rfl⟩
  · cases json with
    | obj source => exact absurd rfl (h source)
    | null | bool | num | str | arr => exact ⟨_, fun _ _ => rfl⟩

/-- **A row is made into a record, and that is written.** -/
theorem runFrom_row_eq_write (content : Except IngestError Json) (workspace : Workspace σ) :
    (row options index fields content).runFrom workspace =
      let made := (make options index fields content).runFrom workspace.intake
      let written := (write made.1).runFrom workspace.store
      (written.1, ⟨written.2, made.2⟩) := by
  by_cases hobj : ∃ source, content = .ok (.obj source)
  · obtain ⟨source, rfl⟩ := hobj
    rw [runFrom_make_obj, row, record, Attempt.runFrom_bind, Workspace.onIntake,
      Attempt.runFrom_within]
    rcases (Record.ofSource options index fields source).runFrom workspace.intake with
      ⟨cause | made, intake⟩
    · rfl
    · dsimp only
      rw [write, Attempt.runFrom_bind, Attempt.runFrom_bind, Workspace.onStore,
        Attempt.runFrom_within]
      rcases (Attempt.recast _ _).runFrom workspace.store with ⟨cause | _, store⟩ <;> rfl
  · obtain ⟨cause, hrow⟩ := row_eq_throw options index fields (not_exists.mp hobj)
    rw [make, hrow, hrow]
    rfl

/-! ### Courses -/

/-- How far the rows of a batch have come: open, made and not yet written, ended. -/
structure Course (σ : Type) where
  workspace : Workspace σ
  opened : List NumberedRow
  made : List Outcome
  ended : List Outcome

/-- An open row is made into something, from what is there of the gateway and the ids by then; or
what a row was made into is written, and the row has ended. -/
inductive Move : Course σ → Course σ → Prop
  | make {store : σ} {intake : Intake} {row : NumberedRow} {before after : List NumberedRow}
      {made ended : List Outcome} (reached : Intake) :
      Move ⟨⟨store, intake⟩, before ++ row :: after, made, ended⟩
        ⟨⟨store, ((make options index fields row.2).runFrom reached).2⟩, before ++ after,
          made ++ [(row.1, ((make options index fields row.2).runFrom reached).1)], ended⟩
  | write {store : σ} {intake : Intake} {opened : List NumberedRow} {outcome : Outcome}
      {before after ended : List Outcome} :
      Move ⟨⟨store, intake⟩, opened, before ++ outcome :: after, ended⟩
        ⟨⟨((write outcome.2).runFrom store).2, intake⟩, opened, before ++ after,
          ended ++ [(outcome.1, ((write outcome.2).runFrom store).1)]⟩

/-- Any number of moves. -/
abbrev Moves : Course σ → Course σ → Prop := Relation.ReflTransGen (Move options index fields)

/-- A course of a whole batch, with the outcomes in the order in which the rows ended. -/
def Finishes (workspace : Workspace σ) (rows : List NumberedRow) (outcomes : List Outcome)
    (after : Workspace σ) : Prop :=
  Moves options index fields ⟨workspace, rows, [], []⟩ ⟨after, [], [], outcomes⟩

section Runs

variable {options index fields}

theorem move_write_first (workspace : Workspace σ) (opened : List NumberedRow) (outcome : Outcome)
    (made ended : List Outcome) :
    Move options index fields ⟨workspace, opened, outcome :: made, ended⟩
      ⟨⟨((write outcome.2).runFrom workspace.store).2, workspace.intake⟩, opened, made,
        ended ++ [(outcome.1, ((write outcome.2).runFrom workspace.store).1)]⟩ := by
  have hwrite : Move options index fields ⟨workspace, opened, [] ++ outcome :: made, ended⟩
      ⟨⟨((write outcome.2).runFrom workspace.store).2, workspace.intake⟩, opened, [] ++ made,
        ended ++ [(outcome.1, ((write outcome.2).runFrom workspace.store).1)]⟩ := .write
  exact hwrite

/-- A row is made and written at once, and others follow. -/
theorem moves_cons (before after : List NumberedRow) {next : NumberedRow}
    {workspace between final : Workspace σ} {result : Except IngestError Record}
    {ended outcomes : List Outcome}
    (hrow : (row options index fields next.2).runFrom workspace = (result, between))
    (hrest : Moves options index fields
      ⟨between, before ++ after, [], ended ++ [(next.1, result)]⟩
      ⟨final, [], [], ended ++ [(next.1, result)] ++ outcomes⟩) :
    Moves options index fields ⟨workspace, before ++ next :: after, [], ended⟩
      ⟨final, [], [], ended ++ (next.1, result) :: outcomes⟩ := by
  rw [runFrom_row_eq_write] at hrow
  obtain ⟨rfl, rfl⟩ := Prod.mk.inj hrow
  rw [← List.append_cons] at hrest
  exact .head (.make workspace.intake) (.head (move_write_first ..) hrest)

theorem moves_inOrder (rows : List NumberedRow) (workspace : Workspace σ) (ended : List Outcome) :
    Moves options index fields ⟨workspace, rows, [], ended⟩
      ⟨((inOrder options index fields rows).run workspace).2, [], [],
        ended ++ ((inOrder options index fields rows).run workspace).1⟩ := by
  induction rows generalizing workspace ended with
  | nil =>
    have hnil : (inOrder options index fields []).run workspace = ([], workspace) := rfl
    rw [hnil, List.append_nil]
  | cons next rows ih =>
    rcases hrow : (row options index fields next.2).runFrom workspace with ⟨result, between⟩
    rw [run_inOrder_cons hrow rfl]
    exact moves_cons [] rows hrow (ih between _)

/-- Rows that wait and rows that are not begun, as they are scheduled. -/
theorem Schedules.moves {spare : Nat} {waiting fresh : List NumberedRow}
    {workspace after : Workspace σ} {outcomes : List Outcome}
    (h : Schedules options index fields spare waiting fresh workspace outcomes after)
    (ended : List Outcome) :
    Moves options index fields ⟨workspace, waiting ++ fresh, [], ended⟩
      ⟨after, [], [], ended ++ outcomes⟩ := by
  induction h generalizing ended with
  | @loaded waiting fresh workspace after outcomes _ hrun =>
    have hordered := @moves_inOrder σ _ options index fields (waiting ++ fresh) workspace ended
    rwa [hrun] at hordered
  | nil workspace => rw [List.append_nil ended, List.nil_append]
  | wait _ _ _ _ ih =>
    have hrest := ih ended
    rwa [List.append_assoc, List.singleton_append] at hrest
  | begin _ _ _ hrow _ ih => exact moves_cons _ _ hrow (ih _)
  | first _ _ hrow _ ih => exact moves_cons [] _ hrow (ih _)

end Runs

/-- **The schedule of a batch** is one of its courses. -/
theorem finishes_scheduled (spare : Nat) (workspace : Workspace σ) (rows : List NumberedRow) :
    Finishes options index fields workspace rows
      ((scheduled options index fields spare [] rows).run workspace).1
      ((scheduled options index fields spare [] rows).run workspace).2 := by
  have hschedules : Schedules options index fields spare [] rows workspace _ _ :=
    run_scheduled_eq_iff.mp rfl
  exact hschedules.moves []

/-- **Every course can be brought to its end**, from wherever it has got to. -/
theorem exists_finish (course : Course σ) :
    ∃ after outcomes, Moves options index fields course ⟨after, [], [], outcomes⟩ := by
  obtain ⟨workspace, opened, made, ended⟩ := course
  induction made generalizing workspace ended with
  | cons outcome made ih =>
    obtain ⟨after, outcomes, h⟩ := ih { workspace with
        store := ((write outcome.2).runFrom workspace.store).2 }
      (ended ++ [(outcome.1, ((write outcome.2).runFrom workspace.store).1)])
    exact ⟨after, outcomes, .head (move_write_first ..) h⟩
  | nil =>
    exact ⟨_, _, moves_inOrder opened workspace ended⟩

/-! ### What a course keeps -/

/-- A row may be made into a result, with some gateway and some ids. -/
def Makes (content : Except IngestError Json) (result : Except IngestError Record) : Prop :=
  ∃ intake, ((make options index fields content).runFrom intake).1 = result

/-- A row may end with a result: one that it may be made into, or an error of the store where it is
made into a record. -/
def Gives (content : Except IngestError Json) (result : Except IngestError Record) : Prop :=
  Makes options index fields content result ∨
    ∃ record cause, Makes options index fields content (.ok record) ∧
      result = .error (.search cause)

/-- Every row is open, made or ended, and what it was made into or ended with is its own. -/
structure Tallies (rows : List NumberedRow) (course : Course σ) : Prop where
  numbers : (course.ended.map Prod.fst ++ (course.made.map Prod.fst ++
    course.opened.map Prod.fst)).Perm (rows.map Prod.fst)
  opened : ∀ row ∈ course.opened, row ∈ rows
  made : ∀ outcome ∈ course.made, ∃ content, (outcome.1, content) ∈ rows ∧
    Makes options index fields content outcome.2
  ended : ∀ outcome ∈ course.ended, ∃ content, (outcome.1, content) ∈ rows ∧
    Gives options index fields content outcome.2

section Invariant

variable {options index fields} {rows : List NumberedRow} {course next : Course σ}

omit [Store σ] in
theorem tallies_start (workspace : Workspace σ) (rows : List NumberedRow) :
    Tallies options index fields rows ⟨workspace, rows, [], []⟩ :=
  ⟨List.Perm.refl _, fun _ h => h, nofun, nofun⟩

/-- A result is written as it is, or the store refuses it. -/
theorem Makes.gives_write {content : Except IngestError Json} {result : Except IngestError Record}
    (h : Makes options index fields content result) (store : σ) :
    Gives options index fields content ((write result).runFrom store).1 := by
  cases result with
  | error cause => exact .inl h
  | ok record =>
    rw [write, Attempt.runFrom_bind, Attempt.runFrom_recast]
    rcases (Store.hashSet record.key record.fields).runFrom store with ⟨cause | _, after⟩
    · exact .inr ⟨record, cause, h, rfl⟩
    · exact .inl h

theorem Tallies.step (h : Tallies options index fields rows course)
    (hmove : Move options index fields course next) : Tallies options index fields rows next := by
  obtain ⟨hnumbers, hopened, hmade, hended⟩ := h
  cases hmove with
  | @make store intake row before after made ended reached =>
    obtain ⟨hrow, hothers⟩ := List.forall_mem_cons.mp
      (fun other hother => hopened other (List.perm_middle.mem_iff.mpr hother))
    refine ⟨?_, hothers, ?_, hended⟩
    · refine List.Perm.trans ?_ hnumbers
      simp only [List.map_append, List.map_cons, List.map_nil, List.append_assoc,
        List.singleton_append]
      exact (List.perm_middle.symm.append_left _).append_left _
    · rw [List.forall_mem_append]
      refine ⟨hmade, ?_⟩
      rintro _ (_ | ⟨_, ⟨⟩⟩)
      exact ⟨row.2, hrow, reached, rfl⟩
  | @write store intake opened outcome before after ended =>
    obtain ⟨⟨content, hcontent, hresult⟩, hothers⟩ := List.forall_mem_cons.mp
      (fun other hother => hmade other (List.perm_middle.mem_iff.mpr hother))
    refine ⟨?_, hopened, hothers, ?_⟩
    · refine List.Perm.trans ?_ hnumbers
      simp only [List.map_append, List.map_cons, List.map_nil, List.append_assoc,
        List.singleton_append]
      exact List.perm_middle.symm.append_left _
    · rw [List.forall_mem_append]
      refine ⟨hended, ?_⟩
      rintro _ (_ | ⟨_, ⟨⟩⟩)
      exact ⟨content, hcontent, hresult.gives_write store⟩

theorem Tallies.moves (h : Tallies options index fields rows course)
    (hmoves : Moves options index fields course next) :
    Tallies options index fields rows next := by
  induction hmoves with
  | refl => exact h
  | tail _ hmove ih => exact ih.step hmove

end Invariant

end HybridSearch.Ingest
