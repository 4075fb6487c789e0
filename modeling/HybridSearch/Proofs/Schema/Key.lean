import HybridSearch.Proofs.Text.Affix
import HybridSearch.Schema.Key

/-!
# When keys meet

Names of indexes and ids may hold colons, so keys of different indexes can be equal.

## Main results

* `Key.record_eq_record_iff` — when two keys are equal.
* `Key.startsWith?_space` — which keys a search in an index takes for its own.
* `Key.ofSource_eq_self` — a key of a row without points is a name as it is.
-/

namespace HybridSearch.Key

theorem ofIndex_injective : Function.Injective ofIndex := fun _ _ => (String.append_right_inj _).mp

theorem parent_eq_record (index uid : String) :
    parent index uid = record index ("parent:" ++ uid) := by
  rw [parent, record, String.append_assoc]

theorem record_eq_record_iff {i j x y : String} :
    record i x = record j y ↔
      (i = j ∧ x = y) ∨ (∃ r, i = j ++ ":" ++ r ∧ y = r ++ ":" ++ x) ∨
        ∃ r, j = i ++ ":" ++ r ∧ x = r ++ ":" ++ y := by
  rw [← Text.append_colon_eq_iff]
  simp only [record, space, String.append_assoc, String.append_right_inj]

@[simp] theorem record_inj {index x y : String} : record index x = record index y ↔ x = y :=
  String.append_right_inj _

/-- What a key has after the start of an index is the id under which the index would store it. -/
theorem startsWith?_space {index key id : String} :
    Text.startsWith? (space index) key = some id ↔ key = record index id :=
  Text.startsWith?_eq_some

theorem isSome_startsWith?_space {index key : String} :
    (Text.startsWith? (space index) key).isSome ↔ ∃ id, key = record index id :=
  Text.isSome_startsWith?

theorem ofSource_eq_self {key : String} (h : '.' ∉ key.toList) : ofSource key = key := by
  have hchars : key.toList.map (fun c => if c = '.' then ['_', '_'] else [c]) =
      key.toList.map fun c => [c] := by
    refine List.map_congr_left fun c hc => if_neg ?_
    rintro rfl
    exact h hc
  rw [ofSource, List.flatMap_def, hchars, ← List.flatMap_def, List.flatMap_singleton',
    String.ofList_toList]

end HybridSearch.Key
