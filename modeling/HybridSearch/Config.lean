import HybridSearch.Json.Basic
import HybridSearch.Vector.Metric

/-!
# Configuration

What a service is set up with. A document may leave out any part but one half of the vector space.

## Main definitions

* `NumericMode`, `CoercionOptions` — how source values become attribute values.
* `Config`, `Config.standard`.
* `Config.ofJson?`, `Config.toJson`.
-/

namespace HybridSearch

/-- What becomes of a value of a numeric attribute that is no number: it counts as zero, or its row
is refused. -/
inductive NumericMode where
  | lenient
  | strict
  deriving DecidableEq, Repr

structure CoercionOptions where
  numeric : NumericMode
  /-- Texts keep only letters, numbers, blanks, `_` and `-`. -/
  sanitizes : Bool
  deriving DecidableEq, Repr

def CoercionOptions.standard : CoercionOptions := ⟨.lenient, false⟩

structure Config where
  vector : VectorSpace
  coercion : CoercionOptions
  ingestConcurrency : Nat
  embeddingConcurrency : Nat
  archiveBucket : String
  deriving DecidableEq, Repr

def Config.standard : Config := ⟨.standard, .standard, 16, 8, "uploads"⟩

namespace NumericMode

def name : NumericMode → String
  | lenient => "lenient"
  | strict => "strict"

def ofJson? (json : Json) : Option NumericMode :=
  match json.choice? with
  | some "lenient" => some lenient
  | some "strict" => some strict
  | _ => none

end NumericMode

/-- Metrics are given in capital letters. -/
def Metric.ofJson? (json : Json) : Option Metric :=
  match json.choice? with
  | some "L2" => some .l2
  | some "COSINE" => some .cosine
  | _ => none

def VectorSpace.ofJson? (json : Json) : Option VectorSpace := do
  let shape ← json.shape? ["dimension", "metric"]
  let dimension ← shape.required? "dimension" Json.nat?
  let metric ← shape.required? "metric" Metric.ofJson?
  some ⟨dimension, metric⟩

def CoercionOptions.ofJson? (json : Json) : Option CoercionOptions := do
  let shape ← json.shape? ["numeric", "sanitize_text"]
  let numeric ← shape.optional? "numeric" standard.numeric NumericMode.ofJson?
  let sanitizes ← shape.optional? "sanitize_text" standard.sanitizes Json.bool?
  some ⟨numeric, sanitizes⟩

namespace Config

def members : List String :=
  ["vector", "coercion", "ingest_concurrency", "embedding_concurrency", "archive_bucket"]

def ofJson? (json : Json) : Option Config := do
  let shape ← json.shape? members
  let vector ← shape.optional? "vector" standard.vector VectorSpace.ofJson?
  let coercion ← shape.optional? "coercion" standard.coercion CoercionOptions.ofJson?
  let ingest ← shape.optional? "ingest_concurrency" standard.ingestConcurrency Json.nat?
  let embedding ← shape.optional? "embedding_concurrency" standard.embeddingConcurrency Json.nat?
  let bucket ← shape.optional? "archive_bucket" standard.archiveBucket Json.str?
  some ⟨vector, coercion, ingest, embedding, bucket⟩

def toJson (config : Config) : Json :=
  .object
    [("vector", .object [("dimension", .nat config.vector.dimension),
        ("metric", .str config.vector.metric.name)]),
      ("coercion", .object [("numeric", .str config.coercion.numeric.name),
        ("sanitize_text", .bool config.coercion.sanitizes)]),
      ("ingest_concurrency", .nat config.ingestConcurrency),
      ("embedding_concurrency", .nat config.embeddingConcurrency),
      ("archive_bucket", .str config.archiveBucket)]

end Config

end HybridSearch
