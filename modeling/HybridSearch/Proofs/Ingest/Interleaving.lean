import HybridSearch.Proofs.Ingest.Making
import Mathlib.Logic.Relation

/-!
# Rows that are taken together

The rows of a batch are started in order, as long as there is room. A row that was started makes its
record at any time, except that those that load the model take turns in the order in which they were
started; a record that was made is written at any time. Whatever is done first, the same records are
made: rows with ids move past each other.

## Main definitions

* `Ingest.Progress` — how far the rows of a batch have come.
* `Ingest.Step`, `Ingest.Completes` — what may happen next, and what may happen to a whole batch.
* `Ingest.Accords` — what was made, and what is left to make, is what the batch makes in order.

## Main results

* `Ingest.completes_scheduled` — the schedule of a batch is one of these runs.
* `Ingest.makeAll_perm` — a row whose turn it is can be made before all others.
* `Ingest.Accords.step`, `Ingest.Completes.accords` — what every step and every run keeps.
-/

namespace HybridSearch.Ingest

open IngestReport (Outcome)

/-- How far the rows of a batch have come: not started, started, made and not yet written, ended. -/
structure Progress where
  workspace : Workspace MemoryStore
  fresh : List NumberedRow
  started : List NumberedRow
  made : List Outcome
  ended : List Outcome

variable (options : CoercionOptions) (index : String) (fields : FieldSet)

/-- A row that waits for the model has its turn when no row before it waits. -/
def HasTurn (gateway : Gateway) (before : List NumberedRow) (row : NumberedRow) : Prop :=
  gateway.isLoaded = true ∨ waits options fields row = false ∨
    ∀ other ∈ before, waits options fields other = false

inductive Step (limit : Nat) : Progress → Progress → Prop
  | start {workspace : Workspace MemoryStore} {row : NumberedRow} {fresh started : List NumberedRow}
      {made ended : List Outcome} (hroom : started.length + made.length < max limit 1) :
      Step limit ⟨workspace, row :: fresh, started, made, ended⟩
        ⟨workspace, fresh, started ++ [row], made, ended⟩
  | make {workspace : Workspace MemoryStore} {row : NumberedRow}
      {fresh before after : List NumberedRow} {made ended : List Outcome}
      (hturn : HasTurn options fields workspace.intake.gateway before row) :
      Step limit ⟨workspace, fresh, before ++ row :: after, made, ended⟩
        ⟨{ workspace with
            intake := ((make options index fields row.2).runFrom workspace.intake).2 },
          fresh, before ++ after,
          made ++ [(row.1, ((make options index fields row.2).runFrom workspace.intake).1)], ended⟩
  | write {workspace : Workspace MemoryStore} {outcome : Outcome} {fresh started : List NumberedRow}
      {before after ended : List Outcome} :
      Step limit ⟨workspace, fresh, started, before ++ outcome :: after, ended⟩
        ⟨{ workspace with store := workspace.store.accept outcome }, fresh, started,
          before ++ after, ended ++ [outcome]⟩

/-- Any number of steps. -/
abbrev Steps (limit : Nat) : Progress → Progress → Prop :=
  Relation.ReflTransGen (Step options index fields limit)

/-- A run of a whole batch, with the outcomes in the order in which the rows ended. -/
def Completes (limit : Nat) (workspace : Workspace MemoryStore) (rows : List NumberedRow)
    (outcomes : List Outcome) (after : Workspace MemoryStore) : Prop :=
  Steps options index fields limit ⟨workspace, rows, [], [], []⟩ ⟨after, [], [], [], outcomes⟩

/-! ### Runs that there are -/

section Runs

variable {options index fields} {limit : Nat} {fresh rest : List NumberedRow} {held : List Outcome}

theorem hasTurn_nil (gateway : Gateway) (row : NumberedRow) :
    HasTurn options fields gateway [] row :=
  Or.inr (Or.inr (List.forall_mem_nil _))

theorem Step.write_last (workspace : Workspace MemoryStore) (fresh started : List NumberedRow)
    (held : List Outcome) (outcome : Outcome) (ended : List Outcome) :
    Step options index fields limit ⟨workspace, fresh, started, held ++ [outcome], ended⟩
      ⟨{ workspace with store := workspace.store.accept outcome }, fresh, started, held,
        ended ++ [outcome]⟩ := by
  have hwrite : Step options index fields limit
      ⟨workspace, fresh, started, held ++ outcome :: [], ended⟩
      ⟨{ workspace with store := workspace.store.accept outcome }, fresh, started, held ++ [],
        ended ++ [outcome]⟩ := .write
  rwa [List.append_nil] at hwrite

/-- A row that has its turn is made and written at once, and others follow. -/
theorem steps_cons {before after : List NumberedRow} {next : NumberedRow}
    {workspace between final : Workspace MemoryStore} {result : Except IngestError Record}
    {ended outcomes : List Outcome}
    (hturn : HasTurn options fields workspace.intake.gateway before next)
    (hrow : (row options index fields next.2).runFrom workspace = (result, between))
    (hrest : Steps options index fields limit
      ⟨between, fresh, before ++ after, held, ended ++ [(next.1, result)]⟩
      ⟨final, rest, [], held, ended ++ [(next.1, result)] ++ outcomes⟩) :
    Steps options index fields limit ⟨workspace, fresh, before ++ next :: after, held, ended⟩
      ⟨final, rest, [], held, ended ++ (next.1, result) :: outcomes⟩ := by
  rw [runFrom_row_eq options index fields next.2 workspace next.1] at hrow
  obtain ⟨rfl, rfl⟩ := Prod.mk.inj hrow
  rw [← List.append_cons] at hrest
  exact .head (.make hturn) (.head (.write_last ..) hrest)

/-- Rows that are started and rows that follow, one after the other. -/
theorem steps_inOrder (hroom : held.length < max limit 1) (started rows : List NumberedRow)
    (workspace : Workspace MemoryStore) (ended : List Outcome) :
    Steps options index fields limit ⟨workspace, rows ++ rest, started, held, ended⟩
      ⟨((inOrder options index fields (started ++ rows)).run workspace).2, rest, [], held,
        ended ++ ((inOrder options index fields (started ++ rows)).run workspace).1⟩ := by
  have hfresh (workspace : Workspace MemoryStore) (ended : List Outcome) :
      Steps options index fields limit ⟨workspace, rows ++ rest, [], held, ended⟩
        ⟨((inOrder options index fields rows).run workspace).2, rest, [], held,
          ended ++ ((inOrder options index fields rows).run workspace).1⟩ := by
    induction rows generalizing workspace ended with
    | nil =>
      have hnil : (inOrder options index fields []).run workspace = ([], workspace) := rfl
      rw [hnil, List.append_nil]
      exact .refl
    | cons next rows ih =>
      rcases hrow : (row options index fields next.2).runFrom workspace with ⟨result, between⟩
      refine .head (.start (by simpa using hroom)) ?_
      rw [run_inOrder_cons hrow rfl]
      exact steps_cons (hasTurn_nil _ next) hrow (ih between _)
  induction started generalizing workspace ended with
  | nil => exact hfresh workspace ended
  | cons next started ih =>
    rcases hrow : (row options index fields next.2).runFrom workspace with ⟨result, between⟩
    rw [List.cons_append, run_inOrder_cons hrow rfl]
    exact steps_cons (hasTurn_nil _ next) hrow (ih between _)

/-- Rows that wait and rows that are not started, as they are scheduled. -/
theorem Schedules.steps {waiting fresh : List NumberedRow} {workspace after : Workspace MemoryStore}
    {outcomes : List Outcome}
    (h : Schedules options index fields (limit - 1) waiting fresh workspace outcomes after)
    (ended : List Outcome) :
    Steps options index fields limit ⟨workspace, fresh, waiting, [], ended⟩
      ⟨after, [], [], [], ended ++ outcomes⟩ := by
  have hstart {workspace : Workspace MemoryStore} {waiting rest : List NumberedRow}
      {next : NumberedRow} {ended : List Outcome} (hroom : waiting.length ≤ limit - 1) :
      Step options index fields limit ⟨workspace, next :: rest, waiting, [], ended⟩
        ⟨workspace, rest, waiting ++ [next], [], ended⟩ :=
    .start (by simp only [List.length_nil]; omega)
  induction h generalizing ended with
  | @loaded waiting fresh workspace after outcomes _ hrun =>
    have hordered := @steps_inOrder options index fields limit [] [] (by simp) waiting fresh
      workspace ended
    rwa [hrun, List.append_nil] at hordered
  | nil workspace => rw [List.append_nil]
  | wait _ hroom _ _ ih => exact .head (hstart hroom) (ih ended)
  | begin _ hroom hnext hrow _ ih =>
    refine .head (hstart hroom) (steps_cons (.inr (.inl (by simpa using hnext))) hrow ?_)
    rw [List.append_nil]
    exact ih _
  | first _ _ hrow _ ih => exact steps_cons (hasTurn_nil _ _) hrow (ih _)

end Runs

/-- The schedule of a batch is one of the runs that there are. -/
theorem completes_scheduled (limit : Nat) (workspace : Workspace MemoryStore)
    (rows : List NumberedRow) :
    Completes options index fields limit workspace rows
      ((scheduled options index fields (limit - 1) [] rows).run workspace).1
      ((scheduled options index fields (limit - 1) [] rows).run workspace).2 :=
  (run_scheduled_eq_iff.mp rfl).steps []

/-! ### Rows that move past each other -/

section Moving

variable {intake : Intake}

/-- A row that has its turn and a row before it make the same records in either order. -/
theorem make_comm {other row : NumberedRow} (hother : CarriesId other.2) (hrow : CarriesId row.2)
    (hturn : HasTurn options fields intake.gateway [other] row) :
    let made := (make options index fields row.2).runFrom intake
    let passed := (make options index fields other.2).runFrom intake
    ((make options index fields row.2).runFrom passed.2).1 = made.1 ∧
      ((make options index fields other.2).runFrom made.2).1 = passed.1 ∧
      ((make options index fields row.2).runFrom passed.2).2 =
        ((make options index fields other.2).runFrom made.2).2 := by
  dsimp only
  rcases hturn with hloaded | hwaits | hwaits
  · obtain ⟨_, hmake⟩ := hrow.exists_make_eq_of_isLoaded options index fields hloaded
    obtain ⟨_, hpass⟩ := hother.exists_make_eq_of_isLoaded options index fields hloaded
    simp only [hmake, hpass, and_self]
  · obtain ⟨_, hmake⟩ := hrow.exists_make_eq options index fields hwaits
    simp only [hmake, and_self]
  · obtain ⟨_, hpass⟩ := hother.exists_make_eq options index fields (hwaits other (by simp))
    simp only [hpass, and_self]

/-- Rows that are made leave the turn to those that have it. -/
theorem HasTurn.of_cons {other row : NumberedRow} {before : List NumberedRow}
    (hother : CarriesId other.2)
    (hturn : HasTurn options fields intake.gateway (other :: before) row) :
    HasTurn options fields
      ((make options index fields other.2).runFrom intake).2.gateway before row := by
  rcases hturn with hloaded | hwaits | hwaits
  · obtain ⟨_, hpass⟩ := hother.exists_make_eq_of_isLoaded options index fields hloaded
    rw [hpass]
    exact Or.inl hloaded
  · exact Or.inr (Or.inl hwaits)
  · exact Or.inr (Or.inr fun row hrow => hwaits row (List.mem_cons_of_mem _ hrow))

/-- **A row whose turn it is** can be made before all others. -/
theorem makeAll_perm {before : List NumberedRow} {row : NumberedRow}
    (hbefore : ∀ other ∈ before, CarriesId other.2) (hrow : CarriesId row.2)
    (hturn : HasTurn options fields intake.gateway before row) (after : List NumberedRow) :
    (makeAll options index fields (before ++ row :: after) intake).1.Perm
      (makeAll options index fields (row :: (before ++ after)) intake).1 := by
  induction before generalizing intake with
  | nil => exact List.Perm.refl _
  | cons other before ih =>
    obtain ⟨hother, hbefore⟩ := List.forall_mem_cons.mp hbefore
    have hpair : HasTurn options fields intake.gateway [other] row :=
      hturn.imp_right (Or.imp_right fun h => by simpa using h other List.mem_cons_self)
    obtain ⟨hmake, hpass, hafter⟩ := make_comm options index fields hother hrow hpair
    have hrest := ih hbefore (hturn.of_cons options index fields hother)
    rw [makeAll_cons, hmake, hafter] at hrest
    rw [List.cons_append, makeAll_cons, makeAll_cons, List.cons_append, makeAll_cons, hpass]
    exact (hrest.cons _).trans (List.Perm.swap ..)

end Moving

/-! ### What every run keeps -/

/-- The outcomes of the rows that have come to one, and those that the others have in order. -/
def Progress.outcomes (progress : Progress) : List Outcome :=
  progress.ended ++ progress.made ++
    (makeAll options index fields (progress.started ++ progress.fresh)
      progress.workspace.intake).1

/-- What was made and what is left to make is what the rows make in order; one at a time, they end
in order. -/
structure Accords (limit : Nat) (workspace : Workspace MemoryStore) (rows : List NumberedRow)
    (progress : Progress) : Prop where
  store_eq : progress.workspace.store = progress.ended.foldl MemoryStore.accept workspace.store
  carriesId : ∀ row ∈ progress.started ++ progress.fresh, CarriesId row.2
  room : progress.started.length + progress.made.length ≤ max limit 1
  perm : (progress.outcomes options index fields).Perm
    (makeAll options index fields rows workspace.intake).1
  order : limit ≤ 1 → progress.outcomes options index fields =
    (makeAll options index fields rows workspace.intake).1

section Invariant

variable {options index fields} {limit : Nat} {workspace after : Workspace MemoryStore}
  {rows : List NumberedRow} {progress next : Progress} {outcomes : List Outcome}

theorem accords_start (h : ∀ row ∈ rows, CarriesId row.2) :
    Accords options index fields limit workspace rows ⟨workspace, rows, [], [], []⟩ :=
  ⟨rfl, h, Nat.zero_le _, List.Perm.refl _, fun _ => rfl⟩

theorem Step.outcomes_perm (hstep : Step options index fields limit progress next)
    (hids : ∀ row ∈ progress.started ++ progress.fresh, CarriesId row.2) :
    (next.outcomes options index fields).Perm (progress.outcomes options index fields) := by
  cases hstep with
  | start => simp [Progress.outcomes]
  | @make reached row fresh before after made ended hturn =>
    have hmove := makeAll_perm options index fields
      (fun other hother => hids other (by simp [hother])) (hids row (by simp)) hturn
      (after ++ fresh)
    simp only [Progress.outcomes, List.append_assoc, List.cons_append, List.nil_append]
    exact ((hmove.append_left made).append_left ended).symm
  | @write reached outcome fresh started before after ended =>
    simp only [Progress.outcomes, List.append_assoc, List.cons_append, List.nil_append]
    exact List.perm_middle.symm.append_left ended

/-- With one row at a time there is no other to pass. -/
theorem Step.outcomes_eq (hstep : Step options index fields limit progress next)
    (hroom : progress.started.length + progress.made.length ≤ 1) :
    next.outcomes options index fields = progress.outcomes options index fields := by
  have hnil {α : Type} {before after : List α} {entry : α} {n : Nat}
      (h : (before ++ entry :: after).length + n ≤ 1 ∨ n + (before ++ entry :: after).length ≤ 1) :
      before = [] := by
    rw [List.length_append, List.length_cons] at h
    exact List.length_eq_zero_iff.mp (by omega)
  cases hstep with
  | start => simp [Progress.outcomes]
  | make =>
    rw [hnil (Or.inl hroom)]
    simp [Progress.outcomes, makeAll_cons]
  | write =>
    rw [hnil (Or.inr hroom)]
    simp [Progress.outcomes]

theorem Accords.step (h : Accords options index fields limit workspace rows progress)
    (hstep : Step options index fields limit progress next) :
    Accords options index fields limit workspace rows next := by
  have hperm := (hstep.outcomes_perm h.carriesId).trans h.perm
  have horder : limit ≤ 1 → next.outcomes options index fields =
      (makeAll options index fields rows workspace.intake).1 := fun hlimit =>
    (hstep.outcomes_eq (by have := h.room; omega)).trans (h.order hlimit)
  obtain ⟨hstore, hids, hroom, -, -⟩ := h
  cases hstep with
  | start hfree =>
    refine ⟨hstore, fun row hrow => hids row (by simpa using hrow), ?_, hperm, horder⟩
    simp only [List.length_append, List.length_singleton]
    omega
  | make =>
    refine ⟨hstore, fun row hrow => hids row ?_, ?_, hperm, horder⟩
    · simp only [List.append_assoc, List.mem_append, List.mem_cons] at hrow ⊢
      tauto
    · simp only [List.length_append, List.length_cons, List.length_nil] at hroom ⊢
      omega
  | write =>
    refine ⟨?_, hids, ?_, hperm, horder⟩
    · rw [List.foldl_append, ← hstore]
      rfl
    · simp only [List.length_append, List.length_cons] at hroom ⊢
      omega

theorem Accords.steps (h : Accords options index fields limit workspace rows progress)
    (hsteps : Steps options index fields limit progress next) :
    Accords options index fields limit workspace rows next := by
  induction hsteps with
  | refl => exact h
  | tail _ hstep ih => exact ih.step hstep

/-- **Whatever is done first**, a batch of rows with ids makes the same records. -/
theorem Completes.accords
    (h : Completes options index fields limit workspace rows outcomes after)
    (hids : ∀ row ∈ rows, CarriesId row.2) :
    outcomes.Perm (makeAll options index fields rows workspace.intake).1 ∧
      after.store = outcomes.foldl MemoryStore.accept workspace.store ∧
      (limit ≤ 1 → outcomes = (makeAll options index fields rows workspace.intake).1) := by
  have haccords := (accords_start hids).steps h
  have houtcomes : Progress.outcomes options index fields ⟨after, [], [], [], outcomes⟩ =
      outcomes := by
    simp [Progress.outcomes, makeAll]
  refine ⟨?_, haccords.store_eq, fun hlimit => ?_⟩
  · have hperm := haccords.perm
    rwa [houtcomes] at hperm
  · have horder := haccords.order hlimit
    rwa [houtcomes] at horder

end Invariant

/-! ### A row that is held back -/

/-- **With room for two** any record can be held back until all the others are written. -/
theorem exists_completes_delayed {limit : Nat} (hlimit : 2 ≤ limit)
    {workspace : Workspace MemoryStore} {rows : List NumberedRow} {first last : List Outcome}
    {outcome : Outcome}
    (h : (makeAll options index fields rows workspace.intake).1 = first ++ outcome :: last) :
    ∃ after, Completes options index fields limit workspace rows (first ++ last ++ [outcome])
      after := by
  obtain ⟨before, others, rfl, hbefore, hothers⟩ := exists_append_of_makeAll options index fields h
  rcases others with _ | ⟨row, after⟩
  · cases hothers
  rw [makeAll_cons] at hothers
  obtain ⟨rfl, rfl⟩ := List.cons.inj hothers
  set between := (makeAll options index fields before workspace.intake).2
  set made := (make options index fields row.2).runFrom between
  have hbegin := @steps_inOrder options index fields limit (row :: after) [] (by simp) [] before
    workspace []
  have hstart (reached : Workspace MemoryStore) : Step options index fields limit
      ⟨reached, row :: after, [], [], first⟩ ⟨reached, after, [row], [], first⟩ :=
    .start (by simp)
  have hmake (store : MemoryStore) : Step options index fields limit
      ⟨⟨store, between⟩, after, [] ++ row :: [], [], first⟩
      ⟨⟨store, made.2⟩, after, [], [(row.1, made.1)], first⟩ :=
    .make (hasTurn_nil _ row)
  -- all the others are written before the row
  have hothers (store : MemoryStore) :=
    @steps_inOrder options index fields limit [] [(row.1, made.1)] (by simp; omega) [] after
      ⟨store, made.2⟩ first
  simp only [run_inOrder, List.nil_append, List.append_nil, hbefore] at hbegin hothers
  exact ⟨_, ((((hbegin.tail (hstart _)).tail (hmake _)).trans (hothers _)).tail
    (.write_last _ _ _ [] _ _))⟩

end HybridSearch.Ingest
