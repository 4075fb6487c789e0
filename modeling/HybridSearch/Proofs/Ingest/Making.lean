import HybridSearch.Proofs.Embedding.Gateway
import HybridSearch.Proofs.Ingest.Values
import HybridSearch.Proofs.Ingest.Writes

/-!
# Making the records of a batch

What becomes of a row is decided before anything is written. A batch in order therefore first makes
its records and then writes them, and a row that carries its id makes the same record wherever in the
batch it stands, except for what loading the model changes.

## Main definitions

* `Intake.sample`, `FieldSet.sample` — what the examples of this part are made with.
* `Ingest.make`, `Ingest.makeAll` — the record of a row and the outcomes of many.
* `Ingest.CarriesId` — the id of the record, if the row makes one, is its own.

## Main results

* `Ingest.runFrom_row_eq`, `Ingest.run_inOrder` — the records are made and written.
* `Ingest.CarriesId.exists_make_eq` — a row that does not wait makes one and the same record.
* `Ingest.CarriesId.settles_make`, `Ingest.settles_makeAll` — rows among which embeddings make no
  difference.
-/

namespace HybridSearch

open IngestReport (Outcome)

/-- Ids in their order next to a model that has one vector for every text. -/
def Intake.sample : Intake :=
  ⟨.ofLoader (fun _ => .ok ⟨1, fun _ => .ok [Trigram.one]⟩) 1, ⟨toString, 0⟩⟩

/-- A vector with its source, a price and a tag. -/
def FieldSet.sample : FieldSet :=
  (IndexDefinition.compile "i" ⟨1, .l2⟩
    [⟨"e", .vector, false⟩, ⟨"price", .numeric, false⟩, ⟨"t", .tag, false⟩]).fieldSet

/-! ### Values -/

namespace Source

variable {options : CoercionOptions} {source : Json.Members} {fields : FieldSet}
  {region : Gateway → Prop}

theorem settles_value (h : Gateway.Uniform region) (field : Field) (raw : Json) :
    ∃ result, (value options field raw).Settles region result := by
  rw [value]
  split
  · obtain ⟨result, hembed⟩ := h (.ofJson raw)
    exact ⟨_, (hembed.recast IngestError.search).map FieldValue.vector⟩
  · exact ⟨_, .ofExcept _⟩

theorem settles_values (h : Gateway.Uniform region) :
    ∃ result, (values options source fields).Settles region result := by
  induction fields with
  | nil => exact ⟨.ok [], .ofExcept _⟩
  | cons field fields ih =>
    rw [values]
    split
    · exact ih
    · split
      · exact ih
      · rename_i raw _
        obtain ⟨result, hvalue⟩ := settles_value h field raw
        obtain ⟨rest, hrest⟩ := ih
        exact ⟨_, hvalue.bind fun value _ => hrest.bind fun values _ =>
          .ofExcept (.ok ((field.name, value) :: values))⟩

/-- Where no vector is computed the values do not depend on the gateway. -/
theorem settles_values_of_not_needsModel (h : needsModel options source fields = false) :
    ∃ result, ∀ region, (values options source fields).Settles region result := by
  induction fields with
  | nil => exact ⟨.ok [], fun _ => .ofExcept _⟩
  | cons field fields ih =>
    rw [needsModel] at h
    rw [values]
    split at h
    · rename_i hid
      rw [if_pos hid]
      exact ih h
    · rename_i hid
      rw [if_neg hid]
      split at h
      · rename_i hfind
        rw [hfind]
        exact ih h
      · cases h
      · rename_i raw hfind htype
        rw [hfind]
        dsimp only
        rw [value_of_ne_vector htype]
        cases hcoerce : Coercion.coerce options field.name field.type raw with
        | error cause =>
          refine ⟨_, fun _ => (Attempt.Settles.ofExcept _).bind (f := fun _ => .ok []) ?_⟩
          intro value hvalue
          cases hvalue
        | ok value =>
          rw [hcoerce] at h
          obtain ⟨rest, hrest⟩ := ih h
          refine ⟨(Except.ok value).bind fun value =>
            rest.bind fun values => .ok ((field.name, value) :: values),
            fun region => (Attempt.Settles.ofExcept _).bind ?_⟩
          rintro _ ⟨⟩
          exact (hrest region).bind fun values _ => .ofExcept _

end Source

namespace Ingest

variable (options : CoercionOptions) (index : String) (fields : FieldSet)

/-! ### One row -/

/-- The record of a row, whatever is stored. -/
def make (content : Except IngestError Json) : Attempt IngestError Intake Record :=
  (row options index fields content).within (Workspace.mk MemoryStore.empty)
    fun _ workspace => workspace.intake

theorem runFrom_make_obj (source : Json.Members) (intake : Intake) :
    (make options index fields (.ok (.obj source))).runFrom intake =
      (Record.ofSource options index fields source).runFrom intake := by
  rw [make, Attempt.runFrom_within, row, record, Attempt.runFrom_bind, Workspace.onIntake,
    Attempt.runFrom_within]
  rcases (Record.ofSource options index fields source).runFrom intake with ⟨_ | _, _⟩ <;> rfl

/-- **A row makes its record and writes it.** -/
theorem runFrom_row_eq (content : Except IngestError Json) (workspace : Workspace MemoryStore)
    (number : Nat) :
    (row options index fields content).runFrom workspace =
      (((make options index fields content).runFrom workspace.intake).1,
        ⟨workspace.store.accept
            (number, ((make options index fields content).runFrom workspace.intake).1),
          ((make options index fields content).runFrom workspace.intake).2⟩) := by
  rcases row_cases options index fields content with ⟨source, rfl⟩ | ⟨cause, hrow⟩
  · rw [runFrom_make_obj, row, record, Attempt.runFrom_bind, Workspace.onIntake,
      Attempt.runFrom_within]
    rcases (Record.ofSource options index fields source).runFrom workspace.intake with
      ⟨_ | _, _⟩ <;> rfl
  · rw [make, hrow]
    rfl

/-- The id of the record, if the row makes one, is its own. -/
def CarriesId (content : Except IngestError Json) : Prop :=
  ∀ source, content = .ok (.obj source) → (Source.explicitId? source).isSome

/-- An object with an id takes nothing but its embeddings from what records are made from. -/
theorem runFrom_ofSource {source : Json.Members} {id : String}
    (hid : Source.explicitId? source = some id) (intake : Intake) :
    (Record.ofSource options index fields source).runFrom intake =
      (((Source.values options source fields).runFrom intake.gateway).1.map (.ofValues index id),
        { intake with
          gateway := ((Source.values options source fields).runFrom intake.gateway).2 }) := by
  rw [Record.ofSource, Attempt.runFrom_bind, Attempt.runFrom_within, hid]
  rcases (Source.values options source fields).runFrom intake.gateway with ⟨_ | _, _⟩ <;> rfl

variable {content : Except IngestError Json}

/-- A row with an id is refused for what it is, or makes its record from its values. -/
theorem CarriesId.runFrom_make (h : CarriesId content) :
    (∃ cause, ∀ intake, (make options index fields content).runFrom intake =
        (.error cause, intake)) ∨
      ∃ source id, content = .ok (.obj source) ∧
        ∀ intake, (make options index fields content).runFrom intake =
          (((Source.values options source fields).runFrom intake.gateway).1.map
              (.ofValues index id),
            { intake with
              gateway := ((Source.values options source fields).runFrom intake.gateway).2 }) := by
  rcases row_cases options index fields content with ⟨source, rfl⟩ | ⟨cause, hrow⟩
  · obtain ⟨id, hid⟩ := Option.isSome_iff_exists.mp (h source rfl)
    refine Or.inr ⟨source, id, rfl, fun intake => ?_⟩
    rw [runFrom_make_obj, runFrom_ofSource options index fields hid]
  · refine Or.inl ⟨cause, fun intake => ?_⟩
    rw [make, hrow]
    rfl

/-- A row that does not wait makes one and the same record. -/
theorem CarriesId.exists_make_eq (h : CarriesId content) {number : Nat}
    (hwaits : waits options fields (number, content) = false) :
    ∃ result, ∀ intake, (make options index fields content).runFrom intake = (result, intake) := by
  rcases h.runFrom_make options index fields with
    ⟨cause, hmake⟩ | ⟨source, id, rfl, hmake⟩
  · exact ⟨_, hmake⟩
  · obtain ⟨result, hvalues⟩ := Source.settles_values_of_not_needsModel hwaits
    refine ⟨result.map (.ofValues index id), fun intake => ?_⟩
    rw [hmake, (hvalues (· = intake.gateway)).runFrom_eq]

/-- What records are made from, with a gateway of the region and the given ids. -/
def Reserve (region : Gateway → Prop) (ids : IdSupply) (intake : Intake) : Prop :=
  region intake.gateway ∧ intake.ids = ids

theorem CarriesId.settles_make (h : CarriesId content) {region : Gateway → Prop}
    (hregion : Gateway.Uniform region) (ids : IdSupply) :
    ∃ result, (make options index fields content).Settles (Reserve region ids) result := by
  rcases h.runFrom_make options index fields with
    ⟨cause, hmake⟩ | ⟨source, id, rfl, hmake⟩
  · refine ⟨.error cause, fun intake hintake => ?_⟩
    rw [hmake]
    exact ⟨rfl, hintake⟩
  · obtain ⟨result, hvalues⟩ :
        ∃ result, (Source.values options source fields).Settles region result :=
      Source.settles_values hregion
    refine ⟨result.map (.ofValues index id), fun intake hintake => ?_⟩
    obtain ⟨rfl, hafter⟩ := hvalues intake.gateway hintake.1
    rw [hmake]
    exact ⟨rfl, hafter, hintake.2⟩

/-- With the model loaded nothing is taken from what records are made from. -/
theorem CarriesId.exists_make_eq_of_isLoaded (h : CarriesId content) {intake : Intake}
    (hloaded : intake.gateway.isLoaded = true) :
    ∃ result, (make options index fields content).runFrom intake = (result, intake) := by
  obtain ⟨result, hmake⟩ :=
    h.settles_make options index fields (Gateway.uniform_of_isLoaded hloaded) intake.ids
  obtain ⟨hresult, hgateway, hids⟩ := hmake intake ⟨rfl, rfl⟩
  have hext {left right : Intake} (hgateway : left.gateway = right.gateway)
      (hids : left.ids = right.ids) : left = right := by
    cases left
    cases right
    cases hgateway
    cases hids
    rfl
  exact ⟨result, Prod.ext hresult (hext hgateway hids)⟩

/-! ### Many rows -/

/-- The outcomes of rows in order, whatever is stored, and what is left to make records from. -/
def makeAll : List NumberedRow → Intake → List Outcome × Intake
  | [], intake => ([], intake)
  | (number, content) :: rest, intake =>
    let made := (make options index fields content).runFrom intake
    let others := makeAll rest made.2
    ((number, made.1) :: others.1, others.2)

theorem makeAll_cons (head : NumberedRow) (rest : List NumberedRow) (intake : Intake) :
    makeAll options index fields (head :: rest) intake =
      ((head.1, ((make options index fields head.2).runFrom intake).1) ::
          (makeAll options index fields rest
            ((make options index fields head.2).runFrom intake).2).1,
        (makeAll options index fields rest
          ((make options index fields head.2).runFrom intake).2).2) :=
  rfl

/-- The outcomes of some of the rows, and those of the others after them. -/
theorem exists_append_of_makeAll {rows : List NumberedRow} {intake : Intake}
    {first last : List Outcome}
    (h : (makeAll options index fields rows intake).1 = first ++ last) :
    ∃ before after, rows = before ++ after ∧
      (makeAll options index fields before intake).1 = first ∧
      (makeAll options index fields after (makeAll options index fields before intake).2).1 =
        last := by
  induction first generalizing rows intake with
  | nil => exact ⟨[], rows, rfl, rfl, h⟩
  | cons outcome first ih =>
    cases rows with
    | nil => cases h
    | cons head rows =>
      obtain ⟨hhead, hrest⟩ := List.cons.inj h
      obtain ⟨before, after, rfl, hbefore, hafter⟩ := ih hrest
      exact ⟨head :: before, after, rfl, by rw [makeAll_cons, hbefore, ← hhead], hafter⟩

@[simp] theorem map_fst_makeAll (rows : List NumberedRow) (intake : Intake) :
    (makeAll options index fields rows intake).1.map Prod.fst = rows.map Prod.fst := by
  induction rows generalizing intake with
  | nil => rfl
  | cons head rows ih => exact congrArg (head.1 :: ·) (ih _)

/-- **Rows in order** make their records, which are written in order. -/
theorem run_inOrder (rows : List NumberedRow) (workspace : Workspace MemoryStore) :
    (inOrder options index fields rows).run workspace =
      ((makeAll options index fields rows workspace.intake).1,
        ⟨(makeAll options index fields rows workspace.intake).1.foldl MemoryStore.accept
            workspace.store,
          (makeAll options index fields rows workspace.intake).2⟩) := by
  induction rows generalizing workspace with
  | nil => rfl
  | cons head rows ih =>
    have hhead := runFrom_row_eq options index fields head.2 workspace head.1
    rw [inOrder, Attempt.run_bind_of_eq hhead, Attempt.run_bind_of_eq (ih _)]
    rfl

/-- Whether a document carries an id, if it is an object. -/
def isIdentified : Json → Bool
  | .obj source => (Source.explicitId? source).isSome
  | _ => true

theorem isSome_explicitId?_of_all (batch : List Json) (h : batch.all isIdentified = true) :
    ∀ source, .obj source ∈ batch → (Source.explicitId? source).isSome :=
  fun _ hsource => List.all_eq_true.mp h _ hsource

theorem carriesId_of_mem_numbered {batch : List Json}
    (h : ∀ source, .obj source ∈ batch → (Source.explicitId? source).isSome) :
    ∀ row ∈ numbered batch, CarriesId row.2 := by
  rintro _ hrow
  obtain ⟨⟨content, number⟩, hmem, rfl⟩ := List.mem_map.mp hrow
  rintro source ⟨⟩
  exact h source (List.fst_mem_of_mem_zipIdx hmem)

/-- Rows with ids end alike wherever embeddings make no difference. -/
theorem settles_makeAll {rows : List NumberedRow} (h : ∀ row ∈ rows, CarriesId row.2)
    {region : Gateway → Prop} (hregion : Gateway.Uniform region) (ids : IdSupply) :
    ∃ outcomes, ∀ intake, Reserve region ids intake →
      (makeAll options index fields rows intake).1 = outcomes ∧
        Reserve region ids (makeAll options index fields rows intake).2 := by
  induction rows with
  | nil => exact ⟨[], fun intake hintake => ⟨rfl, hintake⟩⟩
  | cons head rows ih =>
    obtain ⟨hhead, hrows⟩ := List.forall_mem_cons.mp h
    obtain ⟨result, hmake⟩ := hhead.settles_make options index fields hregion ids
    obtain ⟨outcomes, hrest⟩ := ih hrows
    refine ⟨(head.1, result) :: outcomes, fun intake hintake => ?_⟩
    obtain ⟨rfl, hbetween⟩ := hmake intake hintake
    obtain ⟨rfl, hafter⟩ := hrest _ hbetween
    exact ⟨rfl, hafter⟩

end Ingest

end HybridSearch
