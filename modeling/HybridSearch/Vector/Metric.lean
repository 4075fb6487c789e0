import HybridSearch.Text.Ascii
import HybridSearch.Text.Trim
import HybridSearch.Vector.Single

/-!
# Distances

## Main definitions

* `Metric` — how far apart two vectors are: the squared Euclidean distance, or one less the cosine
  of their angle.
* `Metric.distance`.
* `VectorSpace` — the dimension and the metric that all vectors of a service share.
-/

namespace HybridSearch

inductive Metric where
  | l2
  | cosine
  deriving DecidableEq, Repr, Inhabited

namespace Metric

def name : Metric → String
  | l2 => "L2"
  | cosine => "COSINE"

/-- The metric that a text names, in any letter case and with blanks around it. -/
def ofText? (text : String) : Except String Metric :=
  let word := Text.upperAscii (Text.trim text)
  if word = "L2" ∨ word = "EUCLIDEAN" then .ok l2
  else if word = "COSINE" then .ok cosine
  else .error ("unsupported distance metric: " ++ word)

/-- The sum of terms from the left, the first one included as it is. -/
def total (terms : List Float) : Float := terms.foldl (· + ·) (-0.0)

def norm (vector : Embedding) : Float := (total (vector.map fun x => (x * x).toFloat)).sqrt

/-- Components without a partner in the other vector do not count. A vector of length zero is at
distance one from every other. -/
def distance : Metric → Embedding → Embedding → Float
  | l2, left, right =>
    total (List.zipWith (fun a b => let d := (a - b).toFloat; d * d) left right)
  | cosine, left, right =>
    let dot := total (List.zipWith (fun a b => (a * b).toFloat) left right)
    let magnitude := norm left * norm right
    if magnitude == 0.0 then 1.0 else 1.0 - dot / magnitude

end Metric

structure VectorSpace where
  dimension : Nat
  metric : Metric
  deriving DecidableEq, Repr

/-- The dimension of the vectors when none is chosen. -/
def VectorSpace.standard : VectorSpace := ⟨512, .cosine⟩

end HybridSearch
