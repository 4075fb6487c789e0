import HybridSearch.Proofs.Embedding.Gateway

/-!
# The life of a gateway

Every embedding tries to load the model until a load gives one of the wanted dimension. From then on
the gateway keeps that model and loads no more. Embeddings that overlap pass the load one after the
other, so a list of inputs stands for the order in which they do.

## Main definitions

* `Gateway.Gives` — the attempts at which a load gives a model of the wanted dimension.
* `Gateway.Stage` — what a gateway is after a number of embeddings.

## Main results

* `Gateway.embed_cases` — an embedding by the model that it leaves.
* `Gateway.stage_embedAll` — the stage that embeddings lead to.
* `Gateway.life_cycle` — one more embedding after any others.
-/

namespace HybridSearch.Gateway

variable {gateway : Gateway} {load : Nat → Except SearchError Model} {dimensions : Nat}

/-- The load of an attempt gives a model of the wanted dimension. -/
def Gives (load : Nat → Except SearchError Model) (dimensions attempt : Nat) : Prop :=
  ∃ model, load attempt = .ok model ∧ model.dimensions = dimensions

/-! ### Loading -/

/-- Whatever is wrong with a load, the error says that there is no model. -/
theorem exists_accept_eq_error {attempt : Nat} (h : ¬Gives load dimensions attempt) :
    ∃ details, accept dimensions (load attempt) = .error (.embeddingUnavailable details) := by
  cases hload : load attempt with
  | error cause => cases cause <;> exact ⟨_, rfl⟩
  | ok model =>
    have hdimensions : model.dimensions ≠ dimensions := fun heq => h ⟨model, hload, heq⟩
    rw [accept, if_neg hdimensions]
    exact ⟨_, rfl⟩

theorem acquire_of_some {model : Model} (hmodel : gateway.model = some model) :
    acquire.runFrom gateway = (.ok model, gateway) := by
  rw [acquire, Attempt.runFrom_mk, hmodel]

theorem acquire_of_gives {model : Model} (hmodel : gateway.model = none)
    (hload : gateway.load gateway.loads = .ok model)
    (hdimensions : model.dimensions = gateway.dimensions) :
    acquire.runFrom gateway =
      (.ok model, { gateway with model := some model, loads := gateway.loads + 1 }) := by
  have haccept : accept gateway.dimensions (.ok model) = .ok model := if_pos hdimensions
  rw [acquire, Attempt.runFrom_mk, hmodel, hload, haccept]
  rfl

theorem acquire_of_not_gives (hmodel : gateway.model = none)
    (h : ¬Gives gateway.load gateway.dimensions gateway.loads) :
    ∃ details, acquire.runFrom gateway =
      (.error (.embeddingUnavailable details),
        { gateway with model := none, loads := gateway.loads + 1 }) := by
  obtain ⟨details, haccept⟩ := exists_accept_eq_error h
  refine ⟨details, ?_⟩
  rw [acquire, Attempt.runFrom_mk, hmodel, haccept]
  rfl

theorem loads_acquire_of_none (hmodel : gateway.model = none) :
    (acquire.runFrom gateway).2.loads = gateway.loads + 1 := by
  rw [acquire, Attempt.runFrom_mk, hmodel]

theorem model_eq_none (h : gateway.isLoaded = false) : gateway.model = none := by
  simpa [isLoaded] using h

/-! ### One embedding -/

/-- Once it has the model, an embedding leaves the gateway alone. -/
theorem runFrom_embed_snd (input : EmbeddingInput) (gateway : Gateway) :
    ((embed input).runFrom gateway).2 = (acquire.runFrom gateway).2 := by
  rw [runFrom_embed]
  rcases acquire.runFrom gateway with ⟨cause | model, after⟩ <;> rfl

/-- How an embedding ends is told by the model that it leaves. -/
theorem embed_cases (input : EmbeddingInput) (gateway : Gateway) :
    let call := (embed input).runFrom gateway
    (∃ model, call.2.model = some model ∧
        call.1 = embedWith model gateway.dimensions input) ∨
      call.2.model = none ∧ ∃ details, call.1 = .error (.embeddingUnavailable details) := by
  rw [runFrom_embed]
  cases hmodel : gateway.model with
  | some model =>
    rw [acquire_of_some hmodel]
    exact Or.inl ⟨model, hmodel, rfl⟩
  | none =>
    by_cases hgives : Gives gateway.load gateway.dimensions gateway.loads
    · obtain ⟨model, hload, hdimensions⟩ := hgives
      rw [acquire_of_gives hmodel hload hdimensions]
      exact Or.inl ⟨model, rfl, rfl⟩
    · obtain ⟨details, hacquire⟩ := acquire_of_not_gives hmodel hgives
      rw [hacquire]
      exact Or.inr ⟨rfl, details, rfl⟩

theorem length_of_checkLength {vector checked : Embedding}
    (h : checkLength dimensions vector = .ok checked) : checked.length = dimensions := by
  rw [checkLength] at h
  split at h
  · rename_i hlength
    cases h
    exact hlength
  · cases h

/-- A text and a batch are checked alike before they are given away. -/
theorem length_of_embedWith {model : Model} {input : EmbeddingInput} {vector : Embedding}
    (h : embedWith model dimensions input = .ok vector) : vector.length = dimensions := by
  cases input with
  | text text =>
    obtain ⟨_, -, hchecked⟩ := Attempt.except_bind_eq_ok.mp h
    exact length_of_checkLength hchecked
  | batch texts =>
    obtain ⟨_, -, hchecked⟩ := Attempt.except_bind_eq_ok.mp h
    exact length_of_checkLength hchecked

/-! ### Many embeddings -/

/-- A gateway after a number of embeddings. Either every one of them has tried to load the model, in
vain, or the first attempt that gave one was the last. -/
inductive Stage (load : Nat → Except SearchError Model) (dimensions calls : Nat) : Gateway → Prop
  | unloaded (h : ∀ k < calls, ¬Gives load dimensions k) :
      Stage load dimensions calls ⟨load, dimensions, none, calls⟩
  | loaded {first : Nat} {model : Model} (hfirst : first < calls)
      (hload : load first = .ok model) (hdimensions : model.dimensions = dimensions)
      (hbefore : ∀ k < first, ¬Gives load dimensions k) :
      Stage load dimensions calls ⟨load, dimensions, some model, first + 1⟩

namespace Stage

variable {calls : Nat}

/-- One embedding leads to the next stage. -/
theorem embed (h : Stage load dimensions calls gateway) (input : EmbeddingInput) :
    Stage load dimensions (calls + 1) ((embed input).runFrom gateway).2 := by
  rw [runFrom_embed_snd]
  cases h with
  | unloaded hnone =>
    by_cases hgives : Gives load dimensions calls
    · obtain ⟨model, hload, hdimensions⟩ := hgives
      rw [acquire_of_gives rfl hload hdimensions]
      exact .loaded (Nat.lt_succ_self calls) hload hdimensions hnone
    · have hmodel : (⟨load, dimensions, none, calls⟩ : Gateway).model = none := rfl
      obtain ⟨details, hrun⟩ := acquire_of_not_gives hmodel hgives
      rw [hrun]
      refine .unloaded fun k hk => ?_
      rcases Nat.lt_succ_iff_lt_or_eq.mp hk with hlt | rfl
      · exact hnone k hlt
      · exact hgives
  | loaded hfirst hload hdimensions hbefore =>
    rw [acquire_of_some rfl]
    exact .loaded (Nat.lt_succ_of_lt hfirst) hload hdimensions hbefore

theorem embedAll (h : Stage load dimensions calls gateway) (inputs : List EmbeddingInput) :
    Stage load dimensions (calls + inputs.length) (gateway.embedAll inputs) := by
  induction inputs generalizing calls gateway with
  | nil => exact h
  | cons input inputs ih =>
    rw [List.length_cons, Nat.add_comm inputs.length, ← Nat.add_assoc]
    exact ih (h.embed input)

theorem dimensions_eq (h : Stage load dimensions calls gateway) :
    gateway.dimensions = dimensions := by
  cases h <;> rfl

theorem isLoaded_iff (h : Stage load dimensions calls gateway) :
    gateway.isLoaded = true ↔ ∃ k < calls, Gives load dimensions k := by
  cases h with
  | unloaded hnone =>
    refine iff_of_false nofun ?_
    rintro ⟨k, hk, hgives⟩
    exact hnone k hk hgives
  | loaded hfirst hload hdimensions hbefore =>
    exact iff_of_true rfl ⟨_, hfirst, _, hload, hdimensions⟩

/-- As long as there is no model, the loader was called for every embedding. -/
theorem loads_eq (h : Stage load dimensions calls gateway) (hloaded : gateway.isLoaded = false) :
    gateway.loads = calls := by
  cases h with
  | unloaded hnone => rfl
  | loaded hfirst hload hdimensions hbefore => cases hloaded

/-- The model that is there is the first of the wanted dimension. -/
theorem model_eq (h : Stage load dimensions calls gateway) {first : Nat} {model : Model}
    (hfirst : first < calls) (hload : load first = .ok model)
    (hdimensions : model.dimensions = dimensions)
    (hbefore : ∀ k < first, ¬Gives load dimensions k) : gateway.model = some model := by
  cases h with
  | unloaded hnone => exact absurd ⟨model, hload, hdimensions⟩ (hnone first hfirst)
  | @loaded first' model' hfirst' hload' hdimensions' hbefore' =>
    rcases Nat.lt_trichotomy first first' with hlt | rfl | hlt
    · exact absurd ⟨model, hload, hdimensions⟩ (hbefore' first hlt)
    · exact congrArg some (Except.ok.inj (hload'.symm.trans hload))
    · exact absurd ⟨model', hload', hdimensions'⟩ (hbefore first' hlt)

end Stage

theorem stage_embedAll (load : Nat → Except SearchError Model) (dimensions : Nat)
    (inputs : List EmbeddingInput) :
    Stage load dimensions inputs.length ((ofLoader load dimensions).embedAll inputs) := by
  have hstart : Stage load dimensions 0 (ofLoader load dimensions) :=
    .unloaded fun k hk => absurd hk (Nat.not_lt_zero k)
  have hstage := hstart.embedAll inputs
  rwa [Nat.zero_add] at hstage

/-- **One more embedding after any others.** The loader is called for it, once, as long as no load
before has given a model of the wanted dimension; after such a load the gateway stays as it is. The
model is there exactly from that load on. Without it the embedding says so; with it the embedding
ends as that model makes it end, and no vector has another length than the wanted one. -/
theorem life_cycle (load : Nat → Except SearchError Model) (dimensions : Nat)
    (inputs : List EmbeddingInput) (input : EmbeddingInput) :
    let before := (ofLoader load dimensions).embedAll inputs
    let call := (embed input).runFrom before
    (before.isLoaded = true ↔ ∃ k < inputs.length, Gives load dimensions k) ∧
      (call.2.isLoaded = true ↔ ∃ k ≤ inputs.length, Gives load dimensions k) ∧
      (before.isLoaded = false →
        before.loads = inputs.length ∧ call.2.loads = inputs.length + 1) ∧
      (before.isLoaded = true → call.2 = before) ∧
      (call.2.isLoaded = false → ∃ details, call.1 = .error (.embeddingUnavailable details)) ∧
      (∀ first ≤ inputs.length, ∀ model, load first = .ok model → model.dimensions = dimensions →
        (∀ k < first, ¬Gives load dimensions k) → call.1 = embedWith model dimensions input) ∧
      ∀ vector, call.1 = .ok vector → vector.length = dimensions := by
  intro before call
  have hbefore : Stage load dimensions inputs.length before := stage_embedAll load dimensions inputs
  have hafter : Stage load dimensions (inputs.length + 1) call.2 := hbefore.embed input
  have hend := embed_cases input before
  rw [hbefore.dimensions_eq] at hend
  refine ⟨hbefore.isLoaded_iff, ?_, fun hloaded => ⟨hbefore.loads_eq hloaded, ?_⟩,
    fun hloaded => ?_, fun hloaded => ?_, fun first hfirst model hload hdimensions hnone => ?_,
    fun vector hvector => ?_⟩
  · simpa only [Nat.lt_succ_iff] using hafter.isLoaded_iff
  · rw [← hbefore.loads_eq hloaded, ← loads_acquire_of_none (model_eq_none hloaded),
      ← runFrom_embed_snd input]
  · obtain ⟨model, hmodel⟩ := Option.isSome_iff_exists.mp hloaded
    exact (runFrom_embed_snd input before).trans (congrArg Prod.snd (acquire_of_some hmodel))
  · rcases hend with ⟨model, hmodel, -⟩ | ⟨-, hfailed⟩
    · rw [model_eq_none hloaded] at hmodel
      cases hmodel
    · exact hfailed
  · have hmodel := hafter.model_eq (Nat.lt_succ_of_le hfirst) hload hdimensions hnone
    rcases hend with ⟨_, hsame, hcall⟩ | ⟨hsame, -⟩
    · rwa [← Option.some.inj (hmodel.symm.trans hsame)] at hcall
    · rw [hmodel] at hsame
      cases hsame
  · rcases hend with ⟨model, -, hcall⟩ | ⟨-, details, hcall⟩
    · exact length_of_embedWith (hcall.symm.trans hvector)
    · cases hcall.symm.trans hvector

end HybridSearch.Gateway
