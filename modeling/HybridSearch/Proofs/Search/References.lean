import HybridSearch.Proofs.Search.Parents
import HybridSearch.Proofs.Text.Split
import HybridSearch.Proofs.Text.Trim
import Mathlib.Data.List.Infix

/-!
# Which parents are looked up

The parents that hits name are looked up once each, in the order in which they are first named. More
hits name further parents after those of the first, and a higher limit shows further views after
those of a lower one.

## Main definitions

* `Text.IsEntry` — a text that a list between commas holds as it is.
* `MemoryStore.view?` — the view of a parent, if it is there.

## Main results

* `splitList_joined` — entries that are joined by commas are read back.
* `ParentView.references_eq` — the parents that hits name, without repetitions.
* `MemoryStore.views_eq_append` — the view of a parent stands between those of the parents before and
  after it.
* `MemoryStore.views_prefix` — the views of fewer hits and a lower limit come first.
-/

namespace HybridSearch

/-! ### Entries between commas -/

/-- A text with something in it but no comma, and without blanks around it. -/
structure Text.IsEntry (text : String) : Prop where
  trim_eq : trim text = text
  ne_empty : text ≠ ""
  not_mem : ',' ∉ text.toList

theorem trimmedEntries_eq_self {entries : List String}
    (h : ∀ entry ∈ entries, Text.trim entry = entry ∧ entry ≠ "") :
    trimmedEntries entries = entries := by
  have htrim : entries.map Text.trim = entries :=
    (List.map_congr_left fun entry hentry => (h entry hentry).1).trans (List.map_id entries)
  rw [trimmedEntries, htrim, List.filter_eq_self]
  intro entry hentry
  rw [Bool.not_eq_true', String.isEmpty_eq_false_iff]
  exact (h entry hentry).2

/-- **Entries that are joined by commas are read back.** -/
theorem splitList_joined {entries : List String} (h : ∀ entry ∈ entries, Text.IsEntry entry) :
    splitList (Text.joined "," entries) = entries := by
  rcases eq_or_ne entries [] with rfl | hne
  · decide
  · have hsplit : Text.split ',' (Text.joined "," entries) = entries :=
      (Text.split_eq_iff rfl).mpr ⟨hne, fun entry hentry => (h entry hentry).not_mem, rfl⟩
    rw [splitList, hsplit]
    exact trimmedEntries_eq_self fun entry hentry =>
      ⟨(h entry hentry).trim_eq, (h entry hentry).ne_empty⟩

/-! ### The parents that hits name -/

namespace ParentView

variable {few many hits : List Hit}

private theorem eraseDups_concat (named : List String) (uid : String) :
    (named ++ [uid]).eraseDups =
      if uid ∈ named then named.eraseDups else named.eraseDups ++ [uid] := by
  have hsingle : [uid].eraseDups = [uid] := rfl
  rw [List.eraseDups_append, List.removeAll, List.filter_singleton]
  by_cases hmem : uid ∈ named
  · simp [hmem]
  · simp [hmem, hsingle]

private theorem foldl_references (named : List String) :
    named.foldl (fun seen uid => if seen.contains uid then seen else seen ++ [uid]) [] =
      named.eraseDups := by
  -- From the last one, since what was seen before decides whether it is listed.
  induction named using List.reverseRecOn with
  | nil => rfl
  | append_singleton named uid ih =>
    rw [List.foldl_append, List.foldl_cons, List.foldl_nil, ih, eraseDups_concat]
    simp

/-- **Each parent that hits name is looked up once**, where it is first named. -/
theorem references_eq (hits : List Hit) :
    references hits = (hits.flatMap Hit.parents).eraseDups :=
  foldl_references _

theorem nodup_references (hits : List Hit) : (references hits).Nodup := by
  rw [references_eq]
  induction hits.flatMap Hit.parents using List.reverseRecOn with
  | nil => exact List.nodup_nil
  | append_singleton named uid ih =>
    rw [eraseDups_concat]
    split
    · exact ih
    · rename_i hmem
      exact List.concat_eq_append ▸ ih.concat (mt List.mem_eraseDups.mp hmem)

/-- More hits name further parents after those of the first. -/
theorem references_prefix (h : few <+: many) : references few <+: references many := by
  obtain ⟨rest, rfl⟩ := h
  rw [references_eq, references_eq, List.flatMap_append, List.eraseDups_append]
  exact List.prefix_append _ _

end ParentView

/-! ### The views of parents -/

namespace MemoryStore

variable (store : MemoryStore) (index : String)

/-- The view of a parent, if the parent is there. -/
def view? (uid : String) : Option ParentView :=
  (store.items? index uid).map fun ids => ⟨uid, ids.filterMap (store.chunk? index)⟩

theorem views_eq (hits : List Hit) (limit : Nat) :
    store.views index hits limit =
      ((ParentView.references hits).filterMap (store.view? index)).take limit := by
  rw [views, List.map_filterMap]
  refine congrArg (List.take limit) (List.filterMap_congr fun uid _ => ?_)
  rw [view?, Option.map_map]
  rfl

variable {store index}

theorem uid_ne_of_mem_views {uids : List String} {uid : String} (h : uid ∉ uids) {view : ParentView}
    (hview : view ∈ uids.filterMap (store.view? index)) : view.uid ≠ uid := by
  rintro rfl
  obtain ⟨uid, hmem, hload⟩ := List.mem_filterMap.mp hview
  obtain ⟨ids, -, rfl⟩ := Option.map_eq_some_iff.mp hload
  exact h hmem

/-- A parent that is there is shown between those that are named before it and those that are named
after it, if the limit leaves a place for it. -/
theorem views_eq_append {hits : List Hit} {first last : List String} {uid : String}
    {view : ParentView} {limit : ℕ} (hview : store.view? index uid = some view)
    (hreferences : ParentView.references hits = first ++ uid :: last)
    (hlimit : (first.filterMap (store.view? index)).length < limit) :
    ∃ behind, behind <+: last.filterMap (store.view? index) ∧
      store.views index hits limit =
        first.filterMap (store.view? index) ++ view :: behind := by
  refine ⟨(last.filterMap (store.view? index)).take
    (limit - (first.filterMap (store.view? index)).length - 1), List.take_prefix _ _, ?_⟩
  rw [views_eq, hreferences, List.filterMap_append, List.filterMap_cons_some hview, List.take_append,
    List.take_of_length_le hlimit.le, List.take_cons (Nat.sub_pos_of_lt hlimit)]

variable (store index)

/-- **The views of fewer hits and a lower limit come first.** -/
theorem views_prefix {few many : List Hit} (h : few <+: many) {n m : ℕ} (hnm : n ≤ m) :
    store.views index few n <+: store.views index many m := by
  have hlisted : (ParentView.references few).filterMap (store.view? index) <+:
      (ParentView.references many).filterMap (store.view? index) :=
    List.IsPrefix.filterMap _ (ParentView.references_prefix h)
  rw [views_eq, views_eq]
  exact (hlisted.take n).trans (List.take_prefix_take_left hnm)

end MemoryStore

end HybridSearch
