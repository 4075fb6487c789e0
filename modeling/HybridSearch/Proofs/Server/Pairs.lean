import HybridSearch.Server.Reply

/-!
# Pairs in replies

The older protocol puts pairs in a row, keys and values by turns; the newer one sends a map.

## Main definitions

* `PairLayout` — a row or a map.
* `Reply.ofPairs` — the reply that holds some pairs.

## Main results

* `Reply.pairs_ofPairs` — the pairs are read back from either layout.
-/

namespace HybridSearch

/-- How a reply holds pairs. -/
inductive PairLayout where
  | row
  | map

namespace Reply

/-- Each key, and after it its value. -/
def alternating (pairs : List (Reply × Reply)) : List Reply :=
  pairs.flatMap fun pair => [pair.1, pair.2]

def ofPairs (layout : PairLayout) (pairs : List (Reply × Reply)) : Reply :=
  match layout with
  | .row => array (alternating pairs)
  | .map => map pairs

theorem paired_alternating (pairs : List (Reply × Reply)) : paired (alternating pairs) = pairs := by
  induction pairs with
  | nil => rfl
  | cons pair pairs ih =>
    change (pair.1, pair.2) :: paired (alternating pairs) = pair :: pairs
    rw [ih]

/-- The pairs are read back from a row as from a map. -/
@[simp] theorem pairs_ofPairs (layout : PairLayout) (pairs : List (Reply × Reply)) :
    (ofPairs layout pairs).pairs = pairs :=
  match layout with
  | .row => paired_alternating pairs
  | .map => rfl

/-- No pairs are a single value. -/
@[simp] theorem text?_ofPairs (layout : PairLayout) (pairs : List (Reply × Reply)) :
    (ofPairs layout pairs).text? = none :=
  match layout with
  | .row => rfl
  | .map => rfl

/-- Which fields there are depends on the pairs alone. -/
theorem fields_ofPairs (layout layout' : PairLayout) (pairs : List (Reply × Reply)) :
    (ofPairs layout pairs).fields = (ofPairs layout' pairs).fields := by
  simp only [fields, pairs_ofPairs]

end Reply

end HybridSearch
