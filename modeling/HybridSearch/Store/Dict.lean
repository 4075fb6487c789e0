import HybridSearch.Json.Entries

/-!
# Dictionaries

Values under texts, kept in the order of the keys.

## Main definitions

* `Dict` — sorted entries.
* `Dict.get?`, `Dict.insert`, `Dict.erase`, `Dict.keys`.

## Main statements

* `Entries.sorted_insert`, `Entries.sorted_erase` — writing and removing keep the order.
-/

namespace HybridSearch

namespace Entries

variable {α : Type}

theorem mem_insert {entries : Entries α} {key : String} {value : α} {entry : String × α}
    (h : entry ∈ entries.insert key value) : entry = (key, value) ∨ entry ∈ entries := by
  induction entries with
  | nil => exact Or.inl (List.mem_singleton.mp h)
  | cons head rest ih =>
    obtain ⟨k, v⟩ := head
    simp only [insert] at h
    split at h
    · exact (List.mem_cons.mp h).imp_right id
    · split at h
      · exact (List.mem_cons.mp h).imp_right (List.mem_cons_of_mem _)
      · rcases List.mem_cons.mp h with rfl | h
        · exact Or.inr List.mem_cons_self
        · exact (ih h).imp_right (List.mem_cons_of_mem _)

theorem sorted_insert {entries : Entries α} (h : entries.Sorted) (key : String) (value : α) :
    (entries.insert key value).Sorted := by
  induction entries with
  | nil => exact List.pairwise_singleton ..
  | cons head rest ih =>
    obtain ⟨k, v⟩ := head
    have ⟨hhead, hrest⟩ := List.pairwise_cons.mp h
    simp only [insert]
    split
    · rename_i hlt
      refine List.pairwise_cons.mpr ⟨fun entry hmem => ?_, h⟩
      rcases List.mem_cons.mp hmem with rfl | hmem
      · exact hlt
      · exact String.lt_trans hlt (hhead entry hmem)
    · rename_i hlt
      split
      · rename_i heq
        exact List.pairwise_cons.mpr ⟨fun entry hmem => heq ▸ hhead entry hmem, hrest⟩
      · rename_i hne
        refine List.pairwise_cons.mpr ⟨fun entry hmem => ?_, ih hrest⟩
        rcases mem_insert hmem with rfl | hmem
        · exact Std.lt_of_le_of_ne (Std.not_lt.mp hlt) fun heq => hne heq.symm
        · exact hhead entry hmem

theorem sorted_erase {entries : Entries α} (h : entries.Sorted) (key : String) :
    (entries.erase key).Sorted :=
  List.Pairwise.filter _ h

end Entries

structure Dict (α : Type) where
  entries : Entries α
  sorted : entries.Sorted

namespace Dict

variable {α : Type}

def empty : Dict α := ⟨[], List.Pairwise.nil⟩

def get? (dict : Dict α) (key : String) : Option α := Entries.get? dict.entries key

def insert (dict : Dict α) (key : String) (value : α) : Dict α :=
  ⟨Entries.insert dict.entries key value, Entries.sorted_insert dict.sorted key value⟩

def erase (dict : Dict α) (key : String) : Dict α :=
  ⟨Entries.erase dict.entries key, Entries.sorted_erase dict.sorted key⟩

def keys (dict : Dict α) : List String := Entries.keys dict.entries

end Dict

end HybridSearch
