import HybridSearch.Proofs.Schema.Key

/-!
# Where stored hashes come from

Records and parents of all indexes stand under keys of one form, and neither the names of indexes
nor ids are kept from holding the colon that separates them.

## Main definitions

* `Origin`, `Origin.key` — where a stored hash comes from, and its key.
* `Origin.Intrudes` — the origins whose keys look like those of records of an index.

## Main results

* `Origin.eq_record_or_intrudes`, `Origin.Intrudes.exists_key` — which origins have the keys of an
  index.
-/

namespace HybridSearch

/-- A record that was ingested, or a parent that was put. -/
inductive Origin where
  | record (index id : String)
  | parent (index uid : String)
  deriving DecidableEq, Repr

namespace Origin

def index : Origin → String
  | record index _ => index
  | parent index _ => index

/-- What follows the start of its index in its key. -/
def name : Origin → String
  | record _ id => id
  | parent _ uid => "parent:" ++ uid

def key : Origin → String
  | record index id => Key.record index id
  | parent index uid => Key.parent index uid

theorem key_eq (origin : Origin) : origin.key = Key.record origin.index origin.name := by
  cases origin with
  | record index id => rfl
  | parent index uid => exact Key.parent_eq_record index uid

/-- An origin intrudes on an index if its key looks like that of a record of the index: a parent of
the index, something of an index whose name goes on after a colon, or something whose own name
begins with what the name of its index lacks. -/
def Intrudes (index : String) (origin : Origin) : Prop :=
  (∃ uid, origin = .parent index uid) ∨ (∃ r, origin.index = index ++ ":" ++ r) ∨
    ∃ r id, index = origin.index ++ ":" ++ r ∧ origin.name = r ++ ":" ++ id

variable {index id : String} {origin : Origin}

theorem eq_record_or_intrudes (h : origin.key = Key.record index id) :
    origin = .record index id ∨ origin.Intrudes index := by
  rw [key_eq, Key.record_eq_record_iff] at h
  rcases h with ⟨hindex, hname⟩ | ⟨r, hindex, -⟩ | ⟨r, hindex, hname⟩
  · cases origin with
    | record j d => exact Or.inl ((record.injEq ..).mpr ⟨hindex, hname⟩)
    | parent j u => exact Or.inr (Or.inl ⟨u, congrArg (parent · u) hindex⟩)
  · exact Or.inr (Or.inr (Or.inl ⟨r, hindex⟩))
  · exact Or.inr (Or.inr (Or.inr ⟨r, id, hindex, hname⟩))

theorem Intrudes.exists_key (h : origin.Intrudes index) :
    ∃ id, origin.key = Key.record index id := by
  rw [key_eq]
  rcases h with ⟨uid, rfl⟩ | ⟨r, hindex⟩ | ⟨r, id, hindex, hname⟩
  · exact ⟨"parent:" ++ uid, rfl⟩
  · exact ⟨r ++ ":" ++ origin.name,
      Key.record_eq_record_iff.mpr (Or.inr (Or.inl ⟨r, hindex, rfl⟩))⟩
  · exact ⟨id, Key.record_eq_record_iff.mpr (Or.inr (Or.inr ⟨r, hindex, hname⟩))⟩

private theorem ne_append_colon (s r : String) : s ≠ s ++ ":" ++ r := by
  intro h
  have hlength := congrArg String.length h
  simp only [String.length_append] at hlength
  have hcolon : ":".length = 1 := rfl
  omega

theorem Intrudes.ne_of_record {j d : String} (h : (Origin.record j d).Intrudes index) :
    j ≠ index := by
  rintro rfl
  rcases h with ⟨uid, hparent⟩ | ⟨r, hindex⟩ | ⟨r, _, hindex, -⟩
  · cases hparent
  · exact ne_append_colon j r hindex
  · exact ne_append_colon j r hindex

end Origin

end HybridSearch
