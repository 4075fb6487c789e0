import HybridSearch.Attempt
import HybridSearch.Embedding.Trigram
import HybridSearch.Error
import HybridSearch.Json.Printer

/-!
# The embedding gateway

All embeddings go through one gateway. It loads the model when the first embedding is asked for,
tries again as long as loading fails, and lets no vector pass whose length is not the configured
dimension. Several texts are embedded as the mean of their vectors.

## Main definitions

* `Model`, `Model.trigram`.
* `EmbeddingInput`, `EmbeddingInput.ofJson`.
* `Gateway`, `Gateway.ofLoader`, `Gateway.isLoaded`.
* `Gateway.embed`.
-/

namespace HybridSearch

structure Model where
  dimensions : Nat
  embed : String → Except SearchError Embedding

def Model.trigram (dimensions : Nat) : Model :=
  ⟨dimensions, fun text => .ok (Trigram.embed dimensions text)⟩

inductive EmbeddingInput where
  | text (text : String)
  | batch (texts : List String)
  deriving DecidableEq, Repr

/-- An array is embedded as the texts of its items, any other value as its text. -/
def EmbeddingInput.ofJson : Json → EmbeddingInput
  | .arr items => batch (items.map Json.text)
  | value => text value.text

structure Gateway where
  /-- The end of each attempt to load the model. -/
  load : Nat → Except SearchError Model
  dimensions : Nat
  model : Option Model
  /-- The attempts made so far. -/
  loads : Nat

namespace Gateway

def ofLoader (load : Nat → Except SearchError Model) (dimensions : Nat) : Gateway :=
  ⟨load, dimensions, none, 0⟩

def isLoaded (gateway : Gateway) : Bool := gateway.model.isSome

/-- Whatever prevents loading means that there is no model. -/
def loadFailure : SearchError → SearchError
  | .embeddingUnavailable details => .embeddingUnavailable details
  | cause => .embeddingUnavailable cause.message

/-- The model of a load, if it has the wanted dimension. -/
def accept (dimensions : Nat) : Except SearchError Model → Except SearchError Model
  | .error cause => .error (loadFailure cause)
  | .ok model =>
    if model.dimensions = dimensions then .ok model
    else
      .error (.embeddingUnavailable ("model produces " ++ toString model.dimensions
        ++ " dimensions, expected " ++ toString dimensions))

/-- The model, loaded if it is not there yet. -/
def acquire : Attempt SearchError Gateway Model :=
  ExceptT.mk fun gateway =>
    match gateway.model with
    | some model => (.ok model, gateway)
    | none =>
      let result := accept gateway.dimensions (gateway.load gateway.loads)
      (result, { gateway with model := result.toOption, loads := gateway.loads + 1 })

def checkLength (dimensions : Nat) (vector : Embedding) : Except SearchError Embedding :=
  if vector.length = dimensions then .ok vector
  else
    .error (.embeddingUnavailable ("embedding length " ++ toString vector.length ++ " != "
      ++ toString dimensions))

/-- The mean of vectors of a given dimension; that of none is zero. -/
def mean (dimensions : Nat) (vectors : List Embedding) : Embedding :=
  let sum := vectors.foldl (List.zipWith (· + ·)) (List.replicate dimensions Single.zero)
  if vectors.isEmpty then sum
  else
    let count := Single.ofFloat32 (Float32.ofNat vectors.length)
    sum.map (· / count)

/-- The vector that a model gives, of the wanted length. -/
def embedOne (model : Model) (dimensions : Nat) (text : String) : Except SearchError Embedding :=
  (model.embed text).bind (checkLength dimensions)

def embedWith (model : Model) (dimensions : Nat) : EmbeddingInput → Except SearchError Embedding
  | .text text => embedOne model dimensions text
  | .batch texts =>
    (texts.mapM (embedOne model dimensions)).bind fun vectors =>
      checkLength dimensions (mean dimensions vectors)

def embed (input : EmbeddingInput) : Attempt SearchError Gateway Embedding := do
  let model ← acquire
  let gateway ← get
  .ofExcept (embedWith model gateway.dimensions input)

end Gateway

end HybridSearch
