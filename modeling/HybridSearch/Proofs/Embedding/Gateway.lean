import HybridSearch.Embedding.Gateway
import HybridSearch.Proofs.Attempt

/-!
# One embedding after another

An embedding may load the model. A model that was loaded once is there for all that follows, so a
gateway whose loads always end alike embeds alike whatever it was asked for before.

## Main definitions

* `Gateway.Agree` — gateways that embed alike.
* `Gateway.embedAll` — the gateway after embeddings.
* `Gateway.IsSteady` — a gateway that embeds alike after any embeddings.
* `Gateway.Uniform` — gateways among which embeddings make no difference.

## Main results

* `Gateway.agree_of_runFrom_embed` — an embedding leaves the gateway embedding as before.
* `Gateway.uniform_of_isLoaded` — a gateway with its model loaded stays as it is.
* `Gateway.isSteady_ofLoader` — loads that always end alike make a steady gateway.
-/

namespace HybridSearch.Gateway

variable {gateway after : Gateway}

/-- Whatever is to be embedded, both end alike. -/
def Agree (left right : Gateway) : Prop :=
  ∀ input, ((embed input).runFrom left).1 = ((embed input).runFrom right).1

theorem runFrom_embed (input : EmbeddingInput) (gateway : Gateway) :
    (embed input).runFrom gateway =
      match acquire.runFrom gateway with
      | (.ok model, after) => (embedWith model after.dimensions input, after)
      | (.error cause, after) => (.error cause, after) := by
  rw [embed, Attempt.runFrom_bind]
  rcases acquire.runFrom gateway with ⟨cause | model, after⟩ <;> rfl

/-- A model that was got once is got again. -/
theorem runFrom_acquire_again {model : Model} (h : acquire.runFrom gateway = (.ok model, after)) :
    acquire.runFrom after = (.ok model, after) := by
  rw [acquire, Attempt.runFrom_mk] at h
  cases hmodel : gateway.model with
  | some loaded =>
    rw [hmodel] at h
    cases h
    rw [acquire, Attempt.runFrom_mk, hmodel]
  | none =>
    rw [hmodel] at h
    obtain ⟨hload, rfl⟩ := Prod.mk.inj h
    rw [acquire, Attempt.runFrom_mk, hload]
    rfl

theorem agree_of_runFrom_embed {input : EmbeddingInput} {vector : Embedding}
    (h : (embed input).runFrom gateway = (.ok vector, after)) : Agree after gateway := by
  intro other
  obtain ⟨model, loaded, hacquire, hend⟩ := Attempt.runFrom_bind_eq_ok.mp h
  obtain ⟨-, rfl⟩ := Prod.mk.inj hend
  rw [runFrom_embed, runFrom_embed, hacquire, runFrom_acquire_again hacquire]

/-! ### Steady gateways -/

/-- The gateway after embeddings, however they end. -/
def embedAll (inputs : List EmbeddingInput) (gateway : Gateway) : Gateway :=
  inputs.foldl (fun gateway input => ((embed input).runFrom gateway).2) gateway

/-- Whatever was embedded before, the gateway embeds as it did at first. -/
def IsSteady (gateway : Gateway) : Prop := ∀ inputs, (gateway.embedAll inputs).Agree gateway

/-- From every gateway of a region an input is embedded alike, and the region is not left. -/
def Uniform (region : Gateway → Prop) : Prop :=
  ∀ input, ∃ result, (embed input).Settles region result

theorem IsSteady.uniform (h : gateway.IsSteady) :
    Uniform fun reached => ∃ inputs, reached = gateway.embedAll inputs := by
  refine fun input => ⟨((embed input).runFrom gateway).1, ?_⟩
  rintro _ ⟨inputs, rfl⟩
  refine ⟨h inputs input, inputs ++ [input], ?_⟩
  rw [embedAll, embedAll, List.foldl_append, List.foldl_cons, List.foldl_nil]

theorem isSteady_of_uniform {region : Gateway → Prop} (h : Uniform region)
    (hgateway : region gateway) : gateway.IsSteady := by
  intro inputs
  have hreached : region (gateway.embedAll inputs) := by
    induction inputs generalizing gateway with
    | nil => exact hgateway
    | cons input inputs ih =>
      obtain ⟨_, hembed⟩ := h input
      exact ih (hembed gateway hgateway).2
  intro input
  obtain ⟨_, hembed⟩ := h input
  exact (hembed _ hreached).1.trans (hembed _ hgateway).1.symm

/-- A gateway with its model loaded stays as it is. -/
theorem uniform_of_isLoaded (h : gateway.isLoaded = true) : Uniform (· = gateway) := by
  intro input
  obtain ⟨model, hmodel⟩ := Option.isSome_iff_exists.mp h
  have hacquire : acquire.runFrom gateway = (.ok model, gateway) := by
    rw [acquire, Attempt.runFrom_mk, hmodel]
  refine ⟨embedWith model gateway.dimensions input, ?_⟩
  rintro _ rfl
  rw [runFrom_embed, hacquire]
  exact ⟨rfl, rfl⟩

/-- Gateways whose loads always end alike, with the model loaded or not. -/
private structure LoadsAlike (result : Except SearchError Model) (dimensions : Nat)
    (gateway : Gateway) : Prop where
  load_eq : gateway.load = fun _ => result
  dimensions_eq : gateway.dimensions = dimensions
  model_eq : gateway.model = none ∨ gateway.model = (accept dimensions result).toOption

private theorem settles_acquire (result : Except SearchError Model) (dimensions : Nat) :
    acquire.Settles (LoadsAlike result dimensions) (accept dimensions result) := by
  intro gateway h
  rw [acquire, Attempt.runFrom_mk]
  cases hmodel : gateway.model with
  | some model =>
    have haccept := (h.model_eq.resolve_left (by simp [hmodel])).symm.trans hmodel
    refine ⟨?_, h⟩
    cases hresult : accept dimensions result with
    | error cause => simp [hresult, Except.toOption] at haccept
    | ok other =>
      rw [hresult] at haccept
      rw [Option.some.inj haccept]
  | none =>
    have haccept : accept gateway.dimensions (gateway.load gateway.loads) =
        accept dimensions result := by
      rw [h.load_eq, h.dimensions_eq]
    exact ⟨haccept, h.load_eq, h.dimensions_eq, Or.inr (congrArg Except.toOption haccept)⟩

/-- **Loads that always end alike** make a steady gateway. -/
theorem isSteady_ofLoader (result : Except SearchError Model) (dimensions : Nat) :
    (ofLoader (fun _ => result) dimensions).IsSteady := by
  have huniform : Uniform (LoadsAlike result dimensions) := by
    refine fun input => ⟨(accept dimensions result).bind (embedWith · dimensions input),
      (settles_acquire result dimensions).bind ?_⟩
    rintro model - gateway h
    exact ⟨congrArg (embedWith model · input) h.dimensions_eq, h⟩
  exact isSteady_of_uniform huniform ⟨rfl, rfl, Or.inl rfl⟩

end HybridSearch.Gateway
