/-!
# Entries sorted by key

Lists of keys and values in strictly increasing order of the keys, the order of their UTF-8 bytes.
JSON objects, indexes and stored records are such lists.

## Main definitions

* `Entries.insert`, `Entries.erase`, `Entries.get?` — writing, removing and reading at a key.
* `Entries.ofList` — entries from pairs in any order; of equal keys the last value stays.
* `Entries.Sorted` — the order that all of them keep.
-/

namespace HybridSearch

/-- Keys with values. -/
abbrev Entries (α : Type) := List (String × α)

namespace Entries

variable {α : Type}

def get? : Entries α → String → Option α
  | [], _ => none
  | (k, v) :: rest, key => if k = key then some v else get? rest key

/-- Writes the value at its place in the order, over an older one. -/
def insert : Entries α → String → α → Entries α
  | [], key, value => [(key, value)]
  | (k, v) :: rest, key, value =>
    if key < k then (key, value) :: (k, v) :: rest
    else if key = k then (key, value) :: rest
    else (k, v) :: insert rest key value

def erase (entries : Entries α) (key : String) : Entries α :=
  entries.filter fun entry => entry.1 ≠ key

def ofList (pairs : List (String × α)) : Entries α :=
  pairs.foldl (fun entries pair => entries.insert pair.1 pair.2) []

def keys (entries : Entries α) : List String := entries.map Prod.fst

def Sorted (entries : Entries α) : Prop := entries.Pairwise fun a b => a.1 < b.1

instance (entries : Entries α) : Decidable entries.Sorted :=
  inferInstanceAs (Decidable (entries.Pairwise fun a b => a.1 < b.1))

end Entries

end HybridSearch
