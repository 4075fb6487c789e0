import HybridSearch.Text.Lowercase
import HybridSearch.Text.Utf8
import HybridSearch.Vector.Single

/-!
# The trigram model

A text is embedded by its runs of three characters in lowercase. The hash of a run picks a
component, the component counts its runs, and the counts are scaled to a vector of length one.

## Main definitions

* `Trigram.windows` — the runs of a text.
* `Trigram.hash` — the 64-bit hash of bytes that is multiplied after each exclusive or.
* `Trigram.embed` — the vector of a text.
-/

namespace HybridSearch.Trigram

def windows : List Char → List (List Char)
  | a :: b :: c :: rest => [a, b, c] :: windows (b :: c :: rest)
  | _ => []

def hash (bytes : Bytes) : UInt64 :=
  bytes.foldl (fun h byte => (h ^^^ byte.toUInt64) * 1099511628211) 1469598103934665603

/-- The component that a run counts in. -/
def bucket (size : Nat) (run : List Char) : Nat := (hash (Text.encodeChars run)).toNat % size

def one : Single := .ofFloat32 1.0

def countIn (vector : Embedding) (index : Nat) : Embedding := vector.modify index (· + one)

def counts (size : Nat) (text : List Char) : Embedding :=
  ((windows text).map (bucket size)).foldl countIn (List.replicate size Single.zero)

def magnitude (vector : Embedding) : Single :=
  .ofFloat32 (vector.foldl (fun sum x => sum + x * x) Single.zero).toFloat32.sqrt

/-- The vector of length one in the same direction, unless all components are zero. -/
def normalized (vector : Embedding) : Embedding :=
  let length := magnitude vector
  if 0.0 < length.toFloat32 then vector.map (· / length) else vector

/-- A vector has at least one component. -/
def embed (dimensions : Nat) (text : String) : Embedding :=
  normalized (counts (max dimensions 1) (Text.lowerFrom [] text.toList))

end HybridSearch.Trigram
