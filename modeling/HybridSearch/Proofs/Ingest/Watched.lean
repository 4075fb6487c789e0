import HybridSearch.Proofs.Ingest.Course

/-!
# Ingestion that is watched

A layer over a store that remembers which records the store has accepted. It changes nothing of what
is done to the store, and after a batch it has remembered the records of the rows that ended well.

## Main definitions

* `Watched` — a store and the records it has accepted.
* `Workspace.unwatched` — a workspace without what its store has remembered.
* `IngestReport.acceptedBy` — what is accepted where rows have ended.
* `Ingest.Mirrors` — a step over a watched store that goes as over the store.

## Main results

* `Ingest.mirrors_rows`, `Ingest.mirrors_table` — watching changes nothing.
* `Ingest.Finishes.accepted_eq` — the records that were accepted in the course of a batch.
-/

namespace HybridSearch

open IngestReport (Outcome)

/-! ### Watched stores -/

structure Watched (σ : Type) where
  inner : σ
  /-- The keys and fields of the records that were accepted, in order. -/
  accepted : List (String × List (String × FieldValue))

namespace Watched

variable {σ α : Type}

def onInner (step : Attempt SearchError σ α) : Attempt SearchError (Watched σ) α :=
  step.within Watched.inner fun watched inner => { watched with inner := inner }

variable [Store σ]

def hashSet (key : String) (fields : List (String × FieldValue)) :
    Attempt SearchError (Watched σ) Unit := do
  onInner (Store.hashSet key fields)
  modify fun watched => { watched with accepted := watched.accepted ++ [(key, fields)] }

instance : Store (Watched σ) where
  createIndex definition := onInner (Store.createIndex definition)
  alterIndex index attributes := onInner (Store.alterIndex index attributes)
  dropIndex index := onInner (Store.dropIndex index)
  listIndexes := onInner Store.listIndexes
  indexInfo index := onInner (Store.indexInfo index)
  search index query := onInner (Store.search index query)
  hashSet := hashSet
  hashGet key field := onInner (Store.hashGet key field)
  hashGetAll key := onInner (Store.hashGetAll key)
  delete key := onInner (Store.delete key)
  scan pattern cursor := onInner (Store.scan pattern cursor)
  pageBound watched := Store.pageBound watched.inner

end Watched

/-- The workspace without what its store has remembered. -/
def Workspace.unwatched {σ : Type} (workspace : Workspace (Watched σ)) : Workspace σ :=
  ⟨workspace.store.inner, workspace.intake⟩

namespace IngestReport

/-- The record of a row that has ended well, as the store is given it. -/
def acceptedOf (result : Except IngestError Record) :
    Option (String × List (String × FieldValue)) :=
  result.toOption.map fun record => (record.key, record.fields)

def acceptedBy (outcomes : List Outcome) : List (String × List (String × FieldValue)) :=
  outcomes.filterMap fun outcome => acceptedOf outcome.2

theorem acceptedBy_append (first last : List Outcome) :
    acceptedBy (first ++ last) = acceptedBy first ++ acceptedBy last :=
  List.filterMap_append

theorem acceptedBy_singleton (outcome : Outcome) :
    acceptedBy [outcome] = (acceptedOf outcome.2).toList := by
  rw [acceptedBy, List.filterMap_cons, List.filterMap_nil]
  cases acceptedOf outcome.2 <;> rfl

end IngestReport

namespace Ingest

open IngestReport (acceptedOf acceptedBy acceptedBy_append acceptedBy_singleton)

variable {σ : Type} [Store σ] (options : CoercionOptions) (index : String) (fields : FieldSet)

/-- **A record is written as if nobody watched**, and remembered if the store accepts it. -/
theorem runFrom_write_watched (result : Except IngestError Record) (watched : Watched σ) :
    (write result).runFrom watched =
      let written := (write result).runFrom watched.inner
      (written.1, ⟨written.2, watched.accepted ++ (acceptedOf written.1).toList⟩) := by
  cases result with
  | error cause =>
    refine Prod.ext rfl ?_
    exact congrArg (Watched.mk watched.inner) (List.append_nil _).symm
  | ok record =>
    have hset : (Store.hashSet record.key record.fields : Attempt SearchError (Watched σ) Unit) =
        Watched.hashSet record.key record.fields := rfl
    rw [write, write, Attempt.runFrom_bind, Attempt.runFrom_bind, Attempt.runFrom_recast,
      Attempt.runFrom_recast, hset, Watched.hashSet, Attempt.runFrom_bind, Watched.onInner,
      Attempt.runFrom_within]
    rcases (Store.hashSet record.key record.fields).runFrom watched.inner with ⟨cause | _, inner⟩
    · exact Prod.ext rfl (congrArg (Watched.mk inner) (List.append_nil _).symm)
    · rfl

/-! ### What watching leaves alone -/

/-- A step over a watched store goes as a step over the store. -/
def Mirrors {α : Type} (watched : StateM (Workspace (Watched σ)) α)
    (plain : StateM (Workspace σ) α) : Prop :=
  ∀ workspace, plain.run workspace.unwatched =
    ((watched.run workspace).1, (watched.run workspace).2.unwatched)

omit [Store σ] in
theorem Mirrors.run_eq {α : Type} {watched : StateM (Workspace (Watched σ)) α}
    {plain : StateM (Workspace σ) α} {workspace after : Workspace (Watched σ)} {a : α}
    (h : Mirrors watched plain) (hrun : watched.run workspace = (a, after)) :
    plain.run workspace.unwatched = (a, after.unwatched) := by
  rw [h workspace, hrun]

omit [Store σ] in
theorem Mirrors.bind {α β : Type} {watched : StateM (Workspace (Watched σ)) α}
    {plain : StateM (Workspace σ) α} {next : α → StateM (Workspace (Watched σ)) β}
    {next' : α → StateM (Workspace σ) β} (h : Mirrors watched plain)
    (hnext : ∀ a, Mirrors (next a) (next' a)) : Mirrors (watched >>= next) (plain >>= next') :=
  fun workspace => (Attempt.run_bind_of_eq (h workspace)).trans (hnext _ _)

omit [Store σ] in
theorem Mirrors.pure {α : Type} (a : α) :
    Mirrors (pure a : StateM (Workspace (Watched σ)) α) (pure a) :=
  fun _ => rfl

theorem mirrors_row (content : Except IngestError Json) :
    Mirrors (σ := σ) (row options index fields content).run
      (row options index fields content).run := by
  intro workspace
  have hplain := runFrom_row_eq_write options index fields content workspace.unwatched
  have hwatched := runFrom_row_eq_write options index fields content workspace
  dsimp only at hplain hwatched
  rw [runFrom_write_watched] at hwatched
  refine hplain.trans ?_
  have h : (row options index fields content).run.run workspace = _ := hwatched
  rw [h]
  rfl

theorem mirrors_inOrder (rows : List NumberedRow) :
    Mirrors (σ := σ) (inOrder options index fields rows) (inOrder options index fields rows) := by
  induction rows with
  | nil => exact .pure []
  | cons next rows ih =>
    exact (mirrors_row options index fields next.2).bind fun _ => ih.bind fun _ => .pure _

variable {options index fields} in
/-- Whether the model is loaded is not up to the store. -/
theorem Schedules.unwatched {spare : Nat} {waiting fresh : List NumberedRow}
    {workspace after : Workspace (Watched σ)} {outcomes : List Outcome}
    (h : Schedules options index fields spare waiting fresh workspace outcomes after) :
    Schedules options index fields spare waiting fresh workspace.unwatched outcomes
      after.unwatched := by
  induction h with
  | loaded h hrun => exact .loaded h ((mirrors_inOrder options index fields _).run_eq hrun)
  | nil workspace => exact .nil _
  | wait h hroom hnext _ ih => exact .wait h hroom hnext ih
  | begin h hroom hnext hrow _ ih =>
    exact .begin h hroom hnext ((mirrors_row options index fields _).run_eq hrow) ih
  | first h hfull hrow _ ih =>
    exact .first h hfull ((mirrors_row options index fields _).run_eq hrow) ih

theorem mirrors_scheduled (spare : Nat) (waiting fresh : List NumberedRow) :
    Mirrors (σ := σ) (scheduled options index fields spare waiting fresh)
      (scheduled options index fields spare waiting fresh) :=
  fun _ => run_scheduled_eq_iff.mpr (run_scheduled_eq_iff.mp rfl).unwatched

/-- **Watching changes nothing**: over a store that is watched a batch is reported as over the
store. -/
theorem mirrors_rows (limit : Nat) (batch : List NumberedRow) :
    Mirrors (σ := σ) (rows options index fields limit batch)
      (rows options index fields limit batch) :=
  (mirrors_scheduled options index fields (limit - 1) [] batch).bind fun _ => .pure _

theorem mirrors_table (limit : Nat) (entries : List NumberedRow) :
    Mirrors (σ := σ) (table options index fields limit entries)
      (table options index fields limit entries) :=
  (mirrors_rows options index fields limit _).bind fun _ => .pure _

/-! ### What is accepted -/

variable {options index fields} {course next : Course (Watched σ)}

/-- One move: the store has accepted the records of the rows that have ended well. -/
theorem Move.accepted_eq (hmove : Move options index fields course next)
    {before : List (String × List (String × FieldValue))}
    (h : course.workspace.store.accepted = before ++ acceptedBy course.ended) :
    next.workspace.store.accepted = before ++ acceptedBy next.ended := by
  cases hmove with
  | make => exact h
  | @write store intake opened outcome first last ended =>
    dsimp only at h ⊢
    rw [runFrom_write_watched, acceptedBy_append]
    dsimp only
    rw [h, List.append_assoc, acceptedBy_singleton]

/-- **A whole course**: besides what it had, the store has accepted the records of the rows that have
ended well, in the order in which they ended. -/
theorem Finishes.accepted_eq {workspace after : Workspace (Watched σ)} {batch : List NumberedRow}
    {outcomes : List Outcome} (h : Finishes options index fields workspace batch outcomes after) :
    after.store.accepted = workspace.store.accepted ++ acceptedBy outcomes := by
  have hmoves : ∀ course, Moves options index fields ⟨workspace, batch, [], []⟩ course →
      course.workspace.store.accepted =
        workspace.store.accepted ++ acceptedBy course.ended := by
    intro course hmoves
    induction hmoves with
    | refl => exact (List.append_nil _).symm
    | tail _ hmove ih => exact hmove.accepted_eq ih
  exact hmoves _ h

end Ingest

end HybridSearch
