import HybridSearch.Ranking
import Mathlib.Order.Lattice

/-!
# What a ranking keeps

A ranking never loses an entry. Where the relation compares values in a linear order, the ranked
list follows that order, and entries of one value stay as they were.

## Main results

* `ranked_perm` — the same entries in another order.
* `ranked_pairwise` — the values do not decrease.
* `filter_ranked` — entries of one value keep their order.
* `pairwise_ranked_of_pairwise` — entries of one value keep what held between them.
* `ranked_eq_of_perm` — entries of different values are ranked alike in whatever order they come.
* `ranked_eq_self` — a list in which nothing comes before what stands ahead of it.
* `ranked_append_cons` — an entry that compares with no other parts those before from those after,
  where entries are put in place one by one.
-/

namespace HybridSearch

variable {α β : Type} (before : α → α → Bool)

theorem insertRanked_perm (entry : α) (l : List α) :
    (insertRanked before entry l).Perm (entry :: l) := by
  induction l with
  | nil => exact List.Perm.refl _
  | cons other rest ih =>
    rw [insertRanked]
    split
    · exact (ih.cons other).trans (List.Perm.swap entry other rest)
    · exact List.Perm.refl _

private theorem foldl_insertRanked_perm (l sorted : List α) :
    (l.foldl (fun sorted entry => insertRanked before entry sorted) sorted).Perm (l ++ sorted) := by
  induction l generalizing sorted with
  | nil => exact List.Perm.refl _
  | cons entry l ih =>
    refine (ih (insertRanked before entry sorted)).trans ?_
    refine ((insertRanked_perm before entry sorted).append_left l).trans ?_
    exact List.perm_middle

theorem ranked_perm (l : List α) : (ranked before l).Perm l := by
  rw [ranked]
  refine (List.reverse_perm _).trans ?_
  simpa using foldl_insertRanked_perm before l []

variable {before}

@[simp] theorem mem_ranked {entry : α} {l : List α} : entry ∈ ranked before l ↔ entry ∈ l :=
  (ranked_perm before l).mem_iff

/-! ### Lists that are ranked -/

theorem insertRanked_eq_cons {entry : α} {l : List α}
    (h : ∀ other ∈ l, before entry other = false) : insertRanked before entry l = entry :: l := by
  cases l with
  | nil => rfl
  | cons other l => rw [insertRanked, h other List.mem_cons_self, if_neg Bool.false_ne_true]

private theorem foldl_insertRanked_eq {l sorted : List α}
    (h : (sorted.reverse ++ l).Pairwise fun a b => before b a = false) :
    l.foldl (fun sorted entry => insertRanked before entry sorted) sorted =
      l.reverse ++ sorted := by
  induction l generalizing sorted with
  | nil => rfl
  | cons entry l ih =>
    have hentry : ∀ other ∈ sorted, before entry other = false := fun other hother =>
      (List.pairwise_append.mp h).2.2 other (List.mem_reverse.mpr hother) entry List.mem_cons_self
    rw [List.foldl_cons, insertRanked_eq_cons hentry, ih (by simpa using h), List.reverse_cons,
      List.append_assoc, List.singleton_append]

/-- **A list in which nothing comes before what stands ahead of it** is ranked as it is. -/
theorem ranked_eq_self {l : List α} (h : l.Pairwise fun a b => before b a = false) :
    ranked before l = l := by
  rw [ranked, foldl_insertRanked_eq h, List.append_nil, List.reverse_reverse]

/-! ### Images of a list -/

theorem insertRanked_map (f : β → α) (entry : β) (l : List β) :
    insertRanked before (f entry) (l.map f) =
      (insertRanked (fun a b => before (f a) (f b)) entry l).map f := by
  induction l with
  | nil => rfl
  | cons other l ih =>
    rw [List.map_cons, insertRanked, insertRanked]
    split
    · rw [ih, List.map_cons]
    · rfl

/-- What is ranked by its image is ranked as its image. -/
theorem ranked_map (f : β → α) (l : List β) :
    ranked before (l.map f) = (ranked (fun a b => before (f a) (f b)) l).map f := by
  have hfoldl (sorted : List β) :
      (l.map f).foldl (fun sorted entry => insertRanked before entry sorted) (sorted.map f) =
        (l.foldl (fun sorted entry => insertRanked (fun a b => before (f a) (f b)) entry sorted)
          sorted).map f := by
    induction l generalizing sorted with
    | nil => rfl
    | cons entry l ih => rw [List.map_cons, List.foldl_cons, insertRanked_map, ih, List.foldl_cons]
  rw [ranked, ← List.map_nil (f := f), hfoldl, ← List.map_reverse, ranked]

/-! ### Values in a linear order -/

section Order

variable [LinearOrder β] {value : α → β}

/-- Sorted lists begin with the last entry, so their values do not increase. -/
private theorem pairwise_insertRanked {entry : α} {l : List α}
    (hbefore : ∀ other ∈ l, before entry other = decide (value entry < value other))
    (h : l.Pairwise fun a b => value b ≤ value a) :
    (insertRanked before entry l).Pairwise fun a b => value b ≤ value a := by
  induction l with
  | nil => exact List.pairwise_singleton ..
  | cons other rest ih =>
    have ⟨hother, hrest⟩ := List.pairwise_cons.mp h
    have hdecide := hbefore other List.mem_cons_self
    rw [insertRanked]
    split
    · rename_i hlt
      rw [hdecide, decide_eq_true_eq] at hlt
      refine List.pairwise_cons.mpr
        ⟨fun a ha => ?_, ih (fun a ha => hbefore a (List.mem_cons_of_mem _ ha)) hrest⟩
      rcases List.mem_cons.mp ((insertRanked_perm before entry rest).mem_iff.mp ha) with rfl | ha
      · exact le_of_lt hlt
      · exact hother a ha
    · rename_i hlt
      rw [hdecide, decide_eq_true_eq, not_lt] at hlt
      refine List.pairwise_cons.mpr ⟨fun a ha => ?_, h⟩
      rcases List.mem_cons.mp ha with rfl | ha
      · exact hlt
      · exact le_trans (hother a ha) hlt

private theorem pairwise_foldl_insertRanked {l sorted : List α}
    (hbefore : ∀ a ∈ l, ∀ b ∈ l ++ sorted, before a b = decide (value a < value b))
    (h : sorted.Pairwise fun a b => value b ≤ value a) :
    (l.foldl (fun sorted entry => insertRanked before entry sorted) sorted).Pairwise
      fun a b => value b ≤ value a := by
  induction l generalizing sorted with
  | nil => exact h
  | cons entry l ih =>
    refine ih (fun a ha b hb => hbefore a (List.mem_cons_of_mem _ ha) b ?_)
      (pairwise_insertRanked (fun other hother => hbefore entry List.mem_cons_self other
        (List.mem_append_right _ hother)) h)
    have hperm := (insertRanked_perm before entry sorted).append_left l
    exact (hperm.trans List.perm_middle).mem_iff.mp hb

/-- **A ranking follows the values.** -/
theorem ranked_pairwise {l : List α}
    (hbefore : ∀ a ∈ l, ∀ b ∈ l, before a b = decide (value a < value b)) :
    (ranked before l).Pairwise fun a b => value a ≤ value b := by
  rw [ranked, List.pairwise_reverse]
  exact pairwise_foldl_insertRanked (by simpa using hbefore) List.Pairwise.nil

private theorem filter_insertRanked {entry : α} {l : List α} (v : β)
    (hbefore : ∀ other ∈ l, before entry other = decide (value entry < value other)) :
    (insertRanked before entry l).filter (value · = v) = (entry :: l).filter (value · = v) := by
  induction l with
  | nil => rfl
  | cons other rest ih =>
    have hdecide := hbefore other List.mem_cons_self
    rw [insertRanked]
    split
    · rename_i hlt
      rw [hdecide, decide_eq_true_eq] at hlt
      rw [List.filter_cons, ih fun a ha => hbefore a (List.mem_cons_of_mem _ ha)]
      -- the entry passes over one of a greater value, so not both have the value `v`
      by_cases hentry : value entry = v
      · have hother : value other ≠ v := by
          intro hv
          rw [hentry, hv] at hlt
          exact lt_irrefl v hlt
        simp [hentry, hother]
      · simp [List.filter_cons, hentry]
    · rfl

private theorem filter_foldl_insertRanked {l sorted : List α} (v : β)
    (hbefore : ∀ a ∈ l, ∀ b ∈ l ++ sorted, before a b = decide (value a < value b)) :
    (l.foldl (fun sorted entry => insertRanked before entry sorted) sorted).filter (value · = v) =
      (l.filter (value · = v)).reverse ++ sorted.filter (value · = v) := by
  induction l generalizing sorted with
  | nil => rfl
  | cons entry l ih =>
    have hentry := filter_insertRanked v fun other hother =>
      hbefore entry List.mem_cons_self other (List.mem_append_right _ hother)
    refine (ih fun a ha b hb => hbefore a (List.mem_cons_of_mem _ ha) b ?_).trans ?_
    · have hperm := (insertRanked_perm before entry sorted).append_left l
      exact (hperm.trans List.perm_middle).mem_iff.mp hb
    · rw [hentry, List.filter_cons, List.filter_cons]
      split <;> simp

/-- **A ranking is stable.** -/
theorem filter_ranked {l : List α}
    (hbefore : ∀ a ∈ l, ∀ b ∈ l, before a b = decide (value a < value b)) (v : β) :
    (ranked before l).filter (value · = v) = l.filter (value · = v) := by
  rw [ranked, List.filter_reverse, filter_foldl_insertRanked v (by simpa using hbefore)]
  simp

/-- **Entries of one value keep what held between them** as they came. -/
theorem pairwise_ranked_of_pairwise {l : List α} {r : α → α → Prop} (hl : l.Pairwise r)
    (hbefore : ∀ a ∈ l, ∀ b ∈ l, before a b = decide (value a < value b)) :
    (ranked before l).Pairwise fun a b => value a < value b ∨ value a = value b ∧ r a b := by
  refine List.pairwise_iff_forall_sublist.mpr fun {a b} hab => ?_
  rcases (List.pairwise_iff_forall_sublist.mp (ranked_pairwise hbefore) hab).lt_or_eq
    with hlt | heq
  · exact Or.inl hlt
  · -- two entries of one value stand in the ranked list as in the list itself
    have hsame : [a, b].Sublist (l.filter (value · = value b)) := by
      rw [← filter_ranked hbefore (value b)]
      simpa [heq] using hab.filter (value · = value b)
    exact Or.inr ⟨heq, List.pairwise_iff_forall_sublist.mp hl (hsame.trans List.filter_sublist)⟩

/-- **A ranking of different values** does not depend on the order in which they come. -/
theorem ranked_eq_of_perm {l₁ l₂ : List α} (hperm : l₁.Perm l₂)
    (hbefore : ∀ a ∈ l₁, ∀ b ∈ l₁, before a b = decide (value a < value b))
    (hvalue : ∀ a ∈ l₁, ∀ b ∈ l₁, value a = value b → a = b) :
    ranked before l₁ = ranked before l₂ := by
  have hranked : (ranked before l₁).Perm (ranked before l₂) :=
    ((ranked_perm before l₁).trans hperm).trans (ranked_perm before l₂).symm
  have hbefore₂ : ∀ a ∈ l₂, ∀ b ∈ l₂, before a b = decide (value a < value b) :=
    fun a ha b hb => hbefore a (hperm.mem_iff.mpr ha) b (hperm.mem_iff.mpr hb)
  refine hranked.eq_of_pairwise (fun a b ha hb hab hba => ?_) (ranked_pairwise hbefore)
    (ranked_pairwise hbefore₂)
  exact hvalue a (mem_ranked.mp ha) b (hperm.mem_iff.mpr (mem_ranked.mp hb)) (le_antisymm hab hba)

end Order

/-! ### Entries that compare with no other -/

section Barrier

variable {entry : α}

private theorem insertRanked_append_cons {new : α} (h : before new entry = false)
    (sorted rest : List α) :
    insertRanked before new (sorted ++ entry :: rest) =
      insertRanked before new sorted ++ entry :: rest := by
  induction sorted with
  | nil => simp [insertRanked, h]
  | cons other sorted ih =>
    rw [List.cons_append, insertRanked, insertRanked]
    split
    · rw [ih, List.cons_append]
    · rfl

private theorem foldl_insertRanked_append_cons (h : ∀ other, before other entry = false)
    (l sorted rest : List α) :
    l.foldl (fun sorted entry => insertRanked before entry sorted) (sorted ++ entry :: rest) =
      l.foldl (fun sorted entry => insertRanked before entry sorted) sorted ++ entry :: rest := by
  induction l generalizing sorted with
  | nil => rfl
  | cons new l ih =>
    rw [List.foldl_cons, List.foldl_cons, insertRanked_append_cons (h new), ih]

/-- **Nothing moves past an entry that compares with no other**, and it stays where it is, where
entries are put in place one by one. Beside different values the relation is no order, and a sort
need not put the entries of a long list in place so. -/
theorem ranked_append_cons (hbefore : ∀ other, before entry other = false)
    (hafter : ∀ other, before other entry = false) (first last : List α) :
    ranked before (first ++ entry :: last) =
      ranked before first ++ entry :: ranked before last := by
  rw [ranked, List.foldl_append, List.foldl_cons, insertRanked_eq_cons fun other _ => hbefore other,
    ← List.nil_append (entry :: _), foldl_insertRanked_append_cons hafter, List.reverse_append,
    List.reverse_cons, ranked, ranked, List.append_assoc, List.singleton_append]

end Barrier

end HybridSearch
