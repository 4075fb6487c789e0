import HybridSearch.Store.Dict

/-!
# Looking up entries

What is found under a key after writing and removing, and which keys there are.

## Main definitions

* `Entries.IsFirst` — the entry that comes first of those whose keys are of a kind.

## Main results

* `Entries.get?_insert`, `Entries.get?_erase` — writing and removing change one key.
* `Entries.get?_ofList` — of the values under one key the last stays.
* `Entries.find?_eq_some_iff` — what is found by a test of the keys is the first that passes it.
* `Entries.mem_keys_iff` — the keys are those under which something is found.
* `Dict.mem_entries_iff` — in a dictionary an entry is what is found under its key.
* `Dict.ext_get?` — a dictionary is told by what is found under the keys.
-/

namespace HybridSearch

variable {α β : Type}

/-! ### Lists of pairs -/

section

variable {κ : Type} [BEq κ] [LawfulBEq κ]

theorem lookup_cons_ite [DecidableEq κ] (pair : κ × α) (pairs : List (κ × α)) (name : κ) :
    (pair :: pairs).lookup name = if name = pair.1 then some pair.2 else pairs.lookup name := by
  rw [List.lookup_cons]
  by_cases hname : name = pair.1
  · rw [if_pos hname, beq_iff_eq.mpr hname]
  · rw [if_neg hname, beq_eq_false_iff_ne.mpr hname]

theorem lookup_filter_name (keep : κ → Bool) (pairs : List (κ × α)) (name : κ) :
    (pairs.filter fun pair => keep pair.1).lookup name =
      if keep name then pairs.lookup name else none := by
  induction pairs with
  | nil => simp
  | cons pair pairs ih =>
    obtain ⟨other, value⟩ := pair
    rw [List.filter_cons, List.lookup_cons]
    by_cases hname : name = other
    · subst hname
      cases hkeep : keep name with
      | false => simpa [hkeep] using ih
      | true => simp
    · have hne : (name == other) = false := beq_eq_false_iff_ne.mpr hname
      cases hkeep : keep other with
      | false => simp [hne, ih]
      | true => simp [List.lookup_cons, hne, ih]

end

theorem mem_of_lookup {pairs : List (String × α)} {name : String} {value : α}
    (h : pairs.lookup name = some value) : (name, value) ∈ pairs := by
  obtain ⟨_, _, rfl, -⟩ := List.lookup_eq_some_iff.mp h
  exact List.mem_append_right _ List.mem_cons_self

/-- Where names are different, the first value of a name is the last. -/
theorem lookup_reverse {pairs : List (String × α)} (h : (pairs.map Prod.fst).Nodup)
    (name : String) : pairs.reverse.lookup name = pairs.lookup name := by
  induction pairs with
  | nil => rfl
  | cons pair pairs ih =>
    obtain ⟨hnew, hrest⟩ := List.nodup_cons.mp h
    rw [List.reverse_cons, List.lookup_append, ih hrest, lookup_cons_ite, lookup_cons_ite,
      List.lookup_nil]
    split
    · rename_i hname
      have hnone : pairs.lookup name = none := by
        rw [List.lookup_eq_none_iff]
        intro other hother
        refine bne_iff_ne.mpr ?_
        rintro rfl
        exact hnew (hname ▸ List.mem_map_of_mem hother)
      rw [hnone, Option.none_or]
    · rw [Option.or_none]

theorem lookup_map_value (f : String → α → β) (pairs : List (String × α)) (name : String) :
    (pairs.map fun pair => (pair.1, f pair.1 pair.2)).lookup name =
      (pairs.lookup name).map (f name) := by
  induction pairs with
  | nil => rfl
  | cons pair pairs ih =>
    rw [List.map_cons, List.lookup_cons, List.lookup_cons]
    by_cases hname : name = pair.1
    · subst hname
      simp
    · have hne : (name == pair.1) = false := beq_eq_false_iff_ne.mpr hname
      simp [hne, ih]

/-! ### Entries -/

namespace Entries

@[simp] theorem get?_nil (key : String) : get? ([] : Entries α) key = none := rfl

theorem get?_cons (entry : String × α) (rest : Entries α) (key : String) :
    get? (entry :: rest) key = if entry.1 = key then some entry.2 else get? rest key :=
  rfl

theorem get?_insert (entries : Entries α) (written : String) (value : α) (key : String) :
    get? (entries.insert written value) key =
      if key = written then some value else get? entries key := by
  induction entries with
  | nil => simp only [insert, get?_cons, get?_nil, eq_comm]
  | cons head rest ih =>
    obtain ⟨k, v⟩ := head
    simp only [insert]
    split
    · rw [get?_cons]
      simp only [eq_comm]
    · split
      · rename_i heq
        subst heq
        simp only [get?_cons, eq_comm (a := key)]
        split <;> rfl
      · rename_i hne
        simp only [get?_cons, ih]
        by_cases hk : k = key
        · rw [if_pos hk, if_neg fun h => hne (h.symm.trans hk.symm), if_pos hk]
        · rw [if_neg hk, if_neg hk]

theorem get?_erase (entries : Entries α) (removed key : String) :
    get? (entries.erase removed) key = if key = removed then none else get? entries key := by
  induction entries with
  | nil => simp [erase]
  | cons head rest ih =>
    rw [erase, List.filter_cons]
    by_cases hk : head.1 = removed
    · rw [if_neg (by simpa using hk), get?_cons]
      refine ih.trans ?_
      by_cases hkey : key = removed
      · rw [if_pos hkey, if_pos hkey]
      · rw [if_neg hkey, if_neg hkey, if_neg fun h => hkey (h.symm.trans hk)]
    · rw [if_pos (by simpa using hk), get?_cons, get?_cons]
      by_cases hkey : head.1 = key
      · rw [if_pos hkey, if_pos hkey, if_neg (hkey ▸ hk)]
      · rw [if_neg hkey, if_neg hkey]
        exact ih

theorem mem_of_get? {entries : Entries α} {key : String} {value : α}
    (h : get? entries key = some value) : (key, value) ∈ entries := by
  induction entries with
  | nil => exact absurd h (by simp)
  | cons head rest ih =>
    rw [get?_cons] at h
    split at h
    · rename_i hk
      obtain rfl := Option.some.inj h
      rw [← hk]
      exact List.mem_cons_self
    · exact List.mem_cons_of_mem _ (ih h)

theorem mem_keys_iff {entries : Entries α} {key : String} :
    key ∈ entries.keys ↔ (get? entries key).isSome := by
  induction entries with
  | nil => simp [keys]
  | cons head rest ih =>
    rw [keys, List.map_cons, List.mem_cons, get?_cons]
    split
    · rename_i hk
      exact iff_of_true (Or.inl hk.symm) rfl
    · rename_i hk
      rw [or_iff_right fun h => hk h.symm]
      exact ih

theorem get?_of_mem {entries : Entries α} (hsorted : entries.Sorted) {entry : String × α}
    (h : entry ∈ entries) : get? entries entry.1 = some entry.2 := by
  induction entries with
  | nil => exact absurd h List.not_mem_nil
  | cons head rest ih =>
    have ⟨hhead, hrest⟩ := List.pairwise_cons.mp hsorted
    rw [get?_cons]
    rcases List.mem_cons.mp h with rfl | h
    · rw [if_pos rfl]
    · have hne : head.1 ≠ entry.1 := Std.ne_of_lt (hhead entry h)
      rw [if_neg hne]
      exact ih hrest h

theorem ext_get? {left right : Entries α} (hleft : left.Sorted) (hright : right.Sorted)
    (h : ∀ key, get? left key = get? right key) : left = right := by
  have hnodup {entries : Entries α} (hsorted : entries.Sorted) : entries.Nodup :=
    hsorted.imp fun hlt heq => Std.ne_of_lt hlt (congrArg Prod.fst heq)
  have hmem (entry : String × α) : entry ∈ left ↔ entry ∈ right := by
    constructor
    · intro hentry
      exact mem_of_get? ((h entry.1).symm.trans (get?_of_mem hleft hentry))
    · intro hentry
      exact mem_of_get? ((h entry.1).trans (get?_of_mem hright hentry))
  have hperm : left.Perm right :=
    (List.perm_ext_iff_of_nodup (hnodup hleft) (hnodup hright)).mpr hmem
  refine hperm.eq_of_pairwise (fun a b _ _ hab hba => ?_) hleft hright
  exact absurd (String.lt_trans hab hba) (String.lt_irrefl _)

/-- The entry comes first, in the order of the keys, of those whose keys are of a kind. -/
structure IsFirst (P : String → Prop) (entries : Entries α) (entry : String × α) : Prop where
  mem : entry ∈ entries
  holds : P entry.1
  le : ∀ other ∈ entries, P other.1 → entry.1 ≤ other.1

theorem isFirst_cons_of_holds {P : String → Prop} {head : String × α} {rest : Entries α}
    (hsorted : Sorted (head :: rest)) (hhead : P head.1) {entry : String × α} :
    IsFirst P (head :: rest) entry ↔ head = entry := by
  obtain ⟨hlt, -⟩ := List.pairwise_cons.mp hsorted
  constructor
  · intro h
    rcases List.mem_cons.mp h.mem with rfl | hmem
    · rfl
    · exact absurd (hlt entry hmem) (Std.not_lt.mpr (h.le head List.mem_cons_self hhead))
  · rintro rfl
    refine ⟨List.mem_cons_self, hhead, fun other hother _ => ?_⟩
    rcases List.mem_cons.mp hother with rfl | hmem
    · exact Std.le_refl _
    · exact Std.le_of_lt (hlt other hmem)

theorem isFirst_cons_of_not_holds {P : String → Prop} {head : String × α} {rest : Entries α}
    (hhead : ¬P head.1) {entry : String × α} :
    IsFirst P (head :: rest) entry ↔ IsFirst P rest entry := by
  constructor
  · intro h
    refine ⟨(List.mem_cons.mp h.mem).resolve_left ?_, h.holds, fun other hother =>
      h.le other (List.mem_cons_of_mem _ hother)⟩
    rintro rfl
    exact hhead h.holds
  · intro h
    refine ⟨List.mem_cons_of_mem _ h.mem, h.holds, fun other hother hholds => ?_⟩
    refine h.le other ((List.mem_cons.mp hother).resolve_left ?_) hholds
    rintro rfl
    exact hhead hholds

/-- **What is found by a test of the keys** is the first entry that passes it. -/
theorem find?_eq_some_iff {p : String → Bool} {P : String → Prop} (hp : ∀ key, p key = true ↔ P key)
    {entries : Entries α} (hsorted : entries.Sorted) {entry : String × α} :
    (entries.find? fun other => p other.1) = some entry ↔ IsFirst P entries entry := by
  induction entries with
  | nil => exact iff_of_false nofun fun h => List.not_mem_nil h.mem
  | cons head rest ih =>
    rw [List.find?_cons]
    cases hhead : p head.1 with
    | true =>
      have hfirst : IsFirst P (head :: rest) entry ↔ head = entry :=
        isFirst_cons_of_holds hsorted ((hp head.1).mp hhead)
      exact Option.some_inj.trans hfirst.symm
    | false =>
      have hnot : ¬P head.1 := fun h => absurd ((hp head.1).mpr h) (by simp [hhead])
      exact (ih hsorted.of_cons).trans (isFirst_cons_of_not_holds hnot).symm

theorem IsFirst.unique {p : String → Bool} {P : String → Prop} (hp : ∀ key, p key = true ↔ P key)
    {entries : Entries α} (hsorted : entries.Sorted) {first other : String × α}
    (h : IsFirst P entries first) (hother : IsFirst P entries other) : first = other :=
  Option.some.inj (((find?_eq_some_iff hp hsorted).mpr h).symm.trans
    ((find?_eq_some_iff hp hsorted).mpr hother))

theorem exists_isFirst {p : String → Bool} {P : String → Prop} (hp : ∀ key, p key = true ↔ P key)
    {entries : Entries α} (hsorted : entries.Sorted) {entry : String × α} (hmem : entry ∈ entries)
    (hholds : P entry.1) : ∃ first, IsFirst P entries first := by
  have hsome : (entries.find? fun other => p other.1).isSome :=
    List.find?_isSome.mpr ⟨entry, hmem, (hp entry.1).mpr hholds⟩
  obtain ⟨first, hfirst⟩ := Option.isSome_iff_exists.mp hsome
  exact ⟨first, (find?_eq_some_iff hp hsorted).mp hfirst⟩

/-- The entries that were there count for keys without a pair. -/
private theorem get?_foldl_insert (pairs : List (String × α)) (entries : Entries α) (key : String) :
    get? (pairs.foldl (fun entries pair => entries.insert pair.1 pair.2) entries) key =
      (pairs.reverse.lookup key).or (get? entries key) := by
  induction pairs generalizing entries with
  | nil => rfl
  | cons pair pairs ih =>
    obtain ⟨name, value⟩ := pair
    rw [List.foldl_cons, ih, get?_insert, List.reverse_cons, List.lookup_append, Option.or_assoc,
      List.lookup_cons, List.lookup_nil]
    by_cases hkey : key = name
    · simp [hkey]
    · have hne : (key == name) = false := beq_eq_false_iff_ne.mpr hkey
      simp [hkey, hne]

theorem get?_ofList (pairs : List (String × α)) (key : String) :
    get? (ofList pairs) key = pairs.reverse.lookup key := by
  rw [ofList, get?_foldl_insert, get?_nil, Option.or_none]

theorem sorted_ofList (pairs : List (String × α)) : (ofList pairs).Sorted :=
  List.foldlRecOn pairs _ List.Pairwise.nil fun _ hsorted pair _ =>
    sorted_insert hsorted pair.1 pair.2

end Entries

/-! ### Dictionaries -/

namespace Dict

@[simp] theorem get?_insert (dict : Dict α) (written : String) (value : α) (key : String) :
    (dict.insert written value).get? key =
      if key = written then some value else dict.get? key :=
  Entries.get?_insert dict.entries written value key

@[simp] theorem get?_erase (dict : Dict α) (removed key : String) :
    (dict.erase removed).get? key = if key = removed then none else dict.get? key :=
  Entries.get?_erase dict.entries removed key

theorem mem_keys_iff {dict : Dict α} {key : String} :
    key ∈ dict.keys ↔ (dict.get? key).isSome :=
  Entries.mem_keys_iff

/-- Every key is written once, so an entry is what is found under its key. -/
theorem mem_entries_iff {dict : Dict α} {entry : String × α} :
    entry ∈ dict.entries ↔ dict.get? entry.1 = some entry.2 :=
  ⟨Entries.get?_of_mem dict.sorted, Entries.mem_of_get?⟩

/-- A dictionary is told by what is found under the keys. -/
theorem ext_get? {left right : Dict α} (h : ∀ key, left.get? key = right.get? key) :
    left = right := by
  obtain ⟨left, hleft⟩ := left
  obtain ⟨right, hright⟩ := right
  obtain rfl := Entries.ext_get? hleft hright h
  rfl

end Dict

end HybridSearch
