import HybridSearch.Text.Split

/-!
# Texts with a given start or end

A word that stands in a text with a separator stands on one side of it, or the separator is in the
word.

## Main results

* `Text.startsWith?_eq_some` — what is left of a text is what its start was put before.
* `Text.endsWith?_eq_some` — and what its end was put behind.
* `Text.append_colon_eq_iff` — the three ways in which two texts with a colon inside are equal.
* `Text.contains_iff` — a text contains a word just if it is a stretch of the text.
* `Text.infix_append_cons_iff` — a word in two parts with a separator between them.
* `Text.prefix_append_cons_iff`, `Text.infix_append_cons_iff_of_notMem` — a word without the
  separator.
-/

namespace HybridSearch.Text

theorem dropStart?_eq_some {start text rest : List Char} :
    dropStart? start text = some rest ↔ text = start ++ rest := by
  induction start generalizing text with
  | nil => exact ⟨Option.some.inj, congrArg some⟩
  | cons s start ih =>
    cases text with
    | nil => exact ⟨nofun, nofun⟩
    | cons c text =>
      rw [dropStart?, List.cons_append, List.cons.injEq]
      split
      · rename_i hs
        rw [ih, and_iff_right hs.symm]
      · rename_i hs
        exact ⟨nofun, fun h => absurd h.1.symm hs⟩

theorem startsWith?_eq_some {start text rest : String} :
    startsWith? start text = some rest ↔ text = start ++ rest := by
  rw [startsWith?, Option.map_eq_some_iff]
  constructor
  · rintro ⟨chars, h, rfl⟩
    rw [← String.toList_inj, String.toList_append, String.toList_ofList]
    exact dropStart?_eq_some.mp h
  · rintro rfl
    exact ⟨rest.toList, dropStart?_eq_some.mpr String.toList_append, String.ofList_toList⟩

theorem isSome_startsWith? {start text : String} :
    (startsWith? start text).isSome ↔ ∃ rest, text = start ++ rest := by
  simp only [Option.isSome_iff_exists, startsWith?_eq_some]

theorem endsWith?_eq_some {ending text start : String} :
    endsWith? ending text = some start ↔ text = start ++ ending := by
  rw [endsWith?, Option.map_eq_some_iff]
  constructor
  · rintro ⟨chars, h, rfl⟩
    have hreverse := congrArg List.reverse (dropStart?_eq_some.mp h)
    rw [List.reverse_reverse, List.reverse_append, List.reverse_reverse] at hreverse
    rw [← String.toList_inj, String.toList_append, String.toList_ofList, hreverse]
  · rintro rfl
    refine ⟨start.toList.reverse, dropStart?_eq_some.mpr ?_, ?_⟩
    · rw [String.toList_append, List.reverse_append]
    · rw [List.reverse_reverse, String.ofList_toList]

theorem isSome_endsWith? {ending text : String} :
    (endsWith? ending text).isSome ↔ ∃ start, text = start ++ ending := by
  simp only [Option.isSome_iff_exists, endsWith?_eq_some]

private theorem cons_eq_append_cons_iff {c : Char} {xs as zs : List Char} :
    c :: xs = as ++ c :: zs ↔ (as = [] ∧ xs = zs) ∨ ∃ r, as = c :: r ∧ xs = r ++ c :: zs := by
  cases as with
  | nil => simp
  | cons a as =>
    simp only [List.cons_append, List.cons.injEq, reduceCtorEq, false_and, false_or]
    constructor
    · rintro ⟨rfl, h⟩
      exact ⟨as, ⟨rfl, rfl⟩, h⟩
    · rintro ⟨_, ⟨rfl, rfl⟩, h⟩
      exact ⟨rfl, h⟩

/-- The colons stand at the same place, or one side continues into the other with a further
colon. -/
theorem append_colon_eq_iff {a b x y : String} :
    a ++ ":" ++ x = b ++ ":" ++ y ↔
      (a = b ∧ x = y) ∨ (∃ r, a = b ++ ":" ++ r ∧ y = r ++ ":" ++ x) ∨
        ∃ r, b = a ++ ":" ++ r ∧ x = r ++ ":" ++ y := by
  constructor
  · intro h
    have hlist : a.toList ++ ':' :: x.toList = b.toList ++ ':' :: y.toList := by
      simpa [String.toList_append] using congrArg String.toList h
    rcases List.append_eq_append_iff.mp hlist with ⟨as, hb, hx⟩ | ⟨bs, ha, hy⟩
    · rcases cons_eq_append_cons_iff.mp hx with ⟨has, hxy⟩ | ⟨r, has, hxy⟩
      · rw [has, List.append_nil, String.toList_inj] at hb
        exact Or.inl ⟨hb.symm, String.toList_inj.mp hxy⟩
      · refine Or.inr (Or.inr ⟨String.ofList r, ?_, ?_⟩)
        · exact String.toList_inj.mp (by simpa [has] using hb)
        · exact String.toList_inj.mp (by simpa using hxy)
    · rcases cons_eq_append_cons_iff.mp hy with ⟨hbs, hxy⟩ | ⟨r, hbs, hxy⟩
      · rw [hbs, List.append_nil, String.toList_inj] at ha
        exact Or.inl ⟨ha, String.toList_inj.mp hxy.symm⟩
      · refine Or.inr (Or.inl ⟨String.ofList r, ?_, ?_⟩)
        · exact String.toList_inj.mp (by simpa [hbs] using ha)
        · exact String.toList_inj.mp (by simpa using hxy)
  · rintro (⟨rfl, rfl⟩ | ⟨r, rfl, rfl⟩ | ⟨r, rfl, rfl⟩)
    · rfl
    · simp only [String.append_assoc]
    · simp only [String.append_assoc]

/-! ### Words in texts -/

theorem isSome_dropStart? {start text : List Char} :
    (dropStart? start text).isSome = true ↔ start <+: text := by
  simp only [Option.isSome_iff_exists, dropStart?_eq_some]
  exact exists_congr fun rest => eq_comm

theorem isSome_startsWith?_iff_prefix {start text : String} :
    (startsWith? start text).isSome = true ↔ start.toList <+: text.toList := by
  rw [startsWith?, Option.isSome_map, isSome_dropStart?]

theorem isSome_endsWith?_iff_suffix {ending text : String} :
    (endsWith? ending text).isSome = true ↔ ending.toList <:+ text.toList := by
  rw [endsWith?, Option.isSome_map, isSome_dropStart?, List.reverse_prefix]

theorem occurs_iff {word text : List Char} : occurs word text = true ↔ word <:+: text := by
  induction text with
  | nil => rw [occurs, List.isEmpty_iff, List.infix_nil]
  | cons c text ih => rw [occurs, Bool.or_eq_true, isSome_dropStart?, ih, List.infix_cons_iff]

theorem contains_iff {word text : String} :
    contains word text = true ↔ word.toList <:+: text.toList :=
  occurs_iff

variable {α : Type} {separator : α} {word left right : List α}

/-- A word in two parts stands in one of them, or it has the separator in it and is cut there. -/
theorem infix_append_cons_iff :
    word <:+: left ++ separator :: right ↔
      word <:+: left ∨ word <:+: right ∨
        ∃ before after, word = before ++ separator :: after ∧ before <:+ left ∧
          after <+: right := by
  constructor
  · intro h
    rcases List.infix_append_iff.mp h with hleft | hright | ⟨before, after, rfl, hbefore, hafter⟩
    · exact Or.inl hleft
    · rcases List.infix_cons_iff.mp hright with hstart | hright
      · rcases List.prefix_cons_iff.mp hstart with rfl | ⟨after, rfl, hafter⟩
        · exact Or.inl (List.nil_infix)
        · exact Or.inr (Or.inr ⟨[], after, rfl, List.nil_suffix, hafter⟩)
      · exact Or.inr (Or.inl hright)
    · rcases List.prefix_cons_iff.mp hafter with rfl | ⟨rest, rfl, hrest⟩
      · rw [List.append_nil]
        exact Or.inl hbefore.isInfix
      · exact Or.inr (Or.inr ⟨before, rest, rfl, hbefore, hrest⟩)
  · rintro (hleft | hright | ⟨before, after, rfl, hbefore, hafter⟩)
    · exact hleft.trans (List.prefix_append _ _).isInfix
    · exact hright.trans ((List.suffix_cons _ _).trans (List.suffix_append _ _)).isInfix
    · exact List.infix_append_iff.mpr (Or.inr (Or.inr
        ⟨before, separator :: after, rfl, hbefore, (List.prefix_cons_inj separator).mpr hafter⟩))

theorem infix_append_cons_iff_of_notMem (h : separator ∉ word) :
    word <:+: left ++ separator :: right ↔ word <:+: left ∨ word <:+: right := by
  rw [infix_append_cons_iff]
  refine or_congr_right (or_iff_left ?_)
  rintro ⟨before, after, rfl, -, -⟩
  exact h (List.mem_append_right _ List.mem_cons_self)

theorem prefix_append_cons_iff (h : separator ∉ word) :
    word <+: left ++ separator :: right ↔ word <+: left := by
  constructor
  · intro hword
    have hcut : left ++ [separator] <+: left ++ separator :: right :=
      ⟨right, (List.append_cons left separator right).symm⟩
    rcases List.prefix_or_prefix_of_prefix hword hcut with hstart | hlong
    · rcases List.prefix_concat_iff.mp hstart with rfl | hstart
      · exact absurd (List.mem_append_right _ (List.mem_singleton_self _)) h
      · exact hstart
    · exact absurd (hlong.subset (List.mem_append_right _ (List.mem_singleton_self _))) h
  · exact fun hword => hword.trans (List.prefix_append _ _)

/-- Two lists that are equal are cut alike at the last of their separators. -/
theorem append_cons_inj {before before' after after' : List α} (hafter : separator ∉ after)
    (hafter' : separator ∉ after')
    (h : before ++ separator :: after = before' ++ separator :: after') :
    before = before' ∧ after = after' := by
  rcases List.append_eq_append_iff.mp h with ⟨cs, rfl, hcs⟩ | ⟨cs, rfl, hcs⟩
  · cases cs with
    | nil => exact ⟨(List.append_nil _).symm, (List.cons.inj hcs).2⟩
    | cons c cs =>
      obtain ⟨-, rfl⟩ := List.cons.inj hcs
      exact absurd (List.mem_append_right _ List.mem_cons_self) hafter
  · cases cs with
    | nil => exact ⟨List.append_nil _, (List.cons.inj hcs).2.symm⟩
    | cons c cs =>
      obtain ⟨-, rfl⟩ := List.cons.inj hcs
      exact absurd (List.mem_append_right _ List.mem_cons_self) hafter'

end HybridSearch.Text
