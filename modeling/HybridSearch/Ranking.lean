/-!
# Ranking

A list is ranked by a relation that tells which of two entries comes first. Every entry in turn
moves from the end of those before it past all that come after it, and entries of which neither
comes first keep their order.

Where the relation compares values in a linear order, every stable sort ranks a list alike. Where it
does not, as beside an entry that compares with no other, the ranking is meant for lists of at most
twenty entries, which are put in place one by one. Of a longer list there only the entries are
meant, and no order of them.

## Main definitions

* `ranked`.
-/

namespace HybridSearch

variable {α : Type} (before : α → α → Bool)

/-- Puts an entry into a list that begins with the last. -/
def insertRanked (entry : α) : List α → List α
  | [] => [entry]
  | other :: rest =>
    if before entry other then other :: insertRanked entry rest else entry :: other :: rest

def ranked (entries : List α) : List α :=
  (entries.foldl (fun sorted entry => insertRanked before entry sorted) []).reverse

end HybridSearch
