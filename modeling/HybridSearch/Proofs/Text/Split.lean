import HybridSearch.Text.Split

/-!
# The pieces of a text

Together the pieces hold the characters that do not separate. The pieces of texts that were joined
by a separator are those of each of them.

## Main results

* `Text.flatten_pieces`, `Text.exists_mem_pieces_iff` — which characters pieces hold.
* `Text.split_of_not_mem`, `Text.split_joined` — a text without separators, and joined texts.
* `Text.split_eq_iff` — the pieces of a text as the texts that it joins.
* `Text.cut_eq_some_iff`, `Text.cut_eq_none_iff` — the two sides of the first separator.
-/

namespace HybridSearch.Text

variable {separates : Char → Bool} {separator c : Char}

theorem pieces_eq_splitOnP (separates : Char → Bool) (text : List Char) :
    pieces separates text = text.splitOnP separates := by
  induction text with
  | nil => rfl
  | cons c text ih =>
    rw [pieces, List.splitOnP_cons_eq_if_modifyHead, ih]
    cases htext : text.splitOnP separates with
    | nil => exact absurd htext (List.splitOnP_ne_nil _ _)
    | cons piece more => rfl

theorem pieces_append_cons (separates : Char → Bool) (hc : separates c = true)
    (before after : List Char) :
    pieces separates (before ++ c :: after) =
      pieces separates before ++ pieces separates after := by
  simp only [pieces_eq_splitOnP]
  exact List.splitOnP_append_cons before after hc

theorem flatten_pieces (separates : Char → Bool) (text : List Char) :
    (pieces separates text).flatten = text.filter fun c => !separates c := by
  induction text with
  | nil => rfl
  | cons c text ih =>
    rw [pieces, List.filter_cons, ← ih]
    cases separates c with
    | true => rfl
    | false => cases pieces separates text <;> rfl

theorem exists_mem_pieces_iff (separates : Char → Bool) {text : List Char} :
    (∃ piece ∈ pieces separates text, c ∈ piece) ↔ c ∈ text ∧ separates c = false := by
  rw [← List.mem_flatten, flatten_pieces, List.mem_filter, Bool.not_eq_true']

/-- What does not separate is put behind the last piece. -/
theorem exists_pieces_append {ending : List Char} (h : ∀ c ∈ ending, separates c = false)
    (text : List Char) :
    ∃ front last, pieces separates text = front ++ [last] ∧
      pieces separates (text ++ ending) = front ++ [last ++ ending] := by
  induction text with
  | nil => exact ⟨[], [], rfl, by rw [pieces_eq_splitOnP]; exact List.splitOnP_eq_singleton h⟩
  | cons c text ih =>
    obtain ⟨front, last, htext, hmore⟩ := ih
    rw [List.cons_append, pieces, pieces, htext, hmore]
    cases separates c with
    | true => exact ⟨[] :: front, last, rfl, rfl⟩
    | false =>
      cases front with
      | nil => exact ⟨[], c :: last, rfl, rfl⟩
      | cons piece front => exact ⟨(c :: piece) :: front, last, rfl, rfl⟩

/-! ### Pieces as texts -/

theorem split_ne_nil (separator : Char) (text : String) : split separator text ≠ [] := by
  rw [split, pieces_eq_splitOnP]
  exact mt List.map_eq_nil_iff.mp (List.splitOnP_ne_nil _ _)

theorem exists_split_append {ending : String} (h : separator ∉ ending.toList) (text : String) :
    ∃ front last, split separator text = front ++ [last] ∧
      split separator (text ++ ending) = front ++ [last ++ ending] := by
  have hending : ∀ c ∈ ending.toList, (c == separator) = false := fun c hc =>
    beq_eq_false_iff_ne.mpr fun heq => h (heq ▸ hc)
  obtain ⟨front, last, htext, hmore⟩ := exists_pieces_append hending text.toList
  refine ⟨front.map String.ofList, String.ofList last, ?_, ?_⟩
  · rw [split, htext, List.map_append, List.map_singleton]
  · rw [split, String.toList_append, hmore, List.map_append, List.map_singleton,
      String.ofList_append, String.ofList_toList]

theorem not_mem_of_mem_split {text piece : String} (h : piece ∈ split separator text) :
    separator ∉ piece.toList := by
  obtain ⟨chars, hchars, rfl⟩ := List.mem_map.mp h
  rw [String.toList_ofList]
  intro hmem
  have hfalse := ((exists_mem_pieces_iff _).mp ⟨chars, hchars, hmem⟩).2
  rw [beq_self_eq_true] at hfalse
  cases hfalse

theorem split_of_not_mem {text : String} (h : separator ∉ text.toList) :
    split separator text = [text] := by
  have hall : ∀ c ∈ text.toList, (c == separator) = false := fun c hc =>
    beq_eq_false_iff_ne.mpr fun heq => h (heq ▸ hc)
  rw [split, pieces_eq_splitOnP, List.splitOnP_eq_singleton hall, List.map_singleton,
    String.ofList_toList]

theorem joined_cons (between first : String) {rest : List String} (hne : rest ≠ []) :
    joined between (first :: rest) = first ++ between ++ joined between rest := by
  cases rest with
  | nil => exact absurd rfl hne
  | cons next rest => rfl

theorem joined_append (between : String) {left right : List String} (hleft : left ≠ [])
    (hright : right ≠ []) :
    joined between (left ++ right) = joined between left ++ between ++ joined between right := by
  induction left with
  | nil => exact absurd rfl hleft
  | cons text left ih =>
    by_cases hempty : left = []
    · subst hempty
      exact joined_cons between text hright
    · rw [List.cons_append, joined_cons _ _ (List.append_ne_nil_of_left_ne_nil hempty _), ih hempty,
        joined_cons _ _ hempty]
      simp only [String.append_assoc]

/-- Texts with a separator between them are split into the pieces of each. -/
theorem split_append {between : String} (hbetween : between.toList = [separator])
    (left right : String) :
    split separator (left ++ between ++ right) = split separator left ++ split separator right := by
  rw [split, String.toList_append, String.toList_append, hbetween, List.append_assoc,
    List.singleton_append, pieces_append_cons (· == separator) (beq_self_eq_true separator),
    List.map_append]
  rfl

/-- Texts that are joined by a separator are split into the pieces of each. -/
theorem split_joined {between : String} (hbetween : between.toList = [separator])
    {texts : List String} (hne : texts ≠ []) :
    split separator (joined between texts) = texts.flatMap (split separator) := by
  induction texts with
  | nil => exact absurd rfl hne
  | cons text texts ih =>
    by_cases hempty : texts = []
    · subst hempty
      rw [joined, List.flatMap_singleton]
    · rw [joined_cons _ _ hempty, split_append hbetween, ih hempty, List.flatMap_cons]

theorem toList_joined (between : String) (texts : List String) :
    (joined between texts).toList = between.toList.intercalate (texts.map String.toList) := by
  induction texts with
  | nil => rfl
  | cons text texts ih =>
    cases texts with
    | nil => simp [joined]
    | cons next texts =>
      rw [joined, String.toList_append, String.toList_append, ih]
      · exact List.intercalate_cons_cons.symm
      · exact List.cons_ne_nil next texts

theorem split_eq_splitOn (separator : Char) (text : String) :
    split separator text = (text.toList.splitOn separator).map String.ofList := by
  rw [split, pieces_eq_splitOnP]
  rfl

/-- **The texts that a text is split into** are those without a separator that it joins. -/
theorem split_eq_iff {between : String} (hbetween : between.toList = [separator]) {text : String}
    {texts : List String} :
    split separator text = texts ↔
      texts ≠ [] ∧ (∀ piece ∈ texts, separator ∉ piece.toList) ∧ text = joined between texts := by
  have hofList (chars : List (List Char)) :
      (chars.map String.ofList).map String.toList = chars := by
    simp [Function.comp_def]
  constructor
  · rintro rfl
    refine ⟨split_ne_nil separator text, fun piece hpiece => not_mem_of_mem_split hpiece, ?_⟩
    rw [← String.toList_inj, toList_joined, hbetween, split_eq_splitOn, hofList,
      List.intercalate_splitOn]
  · rintro ⟨hne, hpieces, rfl⟩
    have hsplit : ([separator].intercalate (texts.map String.toList)).splitOn separator =
        texts.map String.toList := by
      refine List.splitOn_intercalate separator ?_ (mt List.map_eq_nil_iff.mp hne)
      exact List.forall_mem_map.mpr hpieces
    rw [split_eq_splitOn, toList_joined, hbetween, hsplit, List.map_map]
    exact (List.map_congr_left fun text _ => String.ofList_toList).trans (List.map_id texts)

/-! ### The first separator -/

theorem cutChars_append_cons {before : List Char} (h : separator ∉ before) (after : List Char) :
    cutChars separator (before ++ separator :: after) = some (before, after) := by
  induction before with
  | nil => exact if_pos rfl
  | cons b before ih =>
    obtain ⟨hb, hbefore⟩ := not_or.mp (mt List.mem_cons.mpr h)
    rw [List.cons_append, cutChars, if_neg (Ne.symm hb), ih hbefore]
    rfl

theorem cutChars_eq_none_iff {text : List Char} :
    cutChars separator text = none ↔ separator ∉ text := by
  induction text with
  | nil => exact iff_of_true rfl List.not_mem_nil
  | cons c text ih =>
    rw [cutChars, List.mem_cons, not_or, ← ih]
    split
    · rename_i hc
      exact iff_of_false nofun fun h => h.1 hc.symm
    · rename_i hc
      rw [Option.map_eq_none_iff, and_iff_right fun h => hc h.symm]

/-- The first separator is the one that has none before it. -/
theorem cutChars_eq_some_iff {text before after : List Char} :
    cutChars separator text = some (before, after) ↔
      text = before ++ separator :: after ∧ separator ∉ before := by
  constructor
  · intro h
    have hmem : separator ∈ text := Decidable.not_not.mp fun hmem => by
      rw [cutChars_eq_none_iff.mpr hmem] at h
      cases h
    obtain ⟨left, right, rfl, hleft⟩ := List.eq_append_cons_of_mem hmem
    rw [cutChars_append_cons hleft right, Option.some.injEq, Prod.mk.injEq] at h
    obtain ⟨rfl, rfl⟩ := h
    exact ⟨rfl, hleft⟩
  · rintro ⟨rfl, hbefore⟩
    exact cutChars_append_cons hbefore after

theorem cut_eq_none_iff {text : String} : cut separator text = none ↔ separator ∉ text.toList := by
  rw [cut, Option.map_eq_none_iff, cutChars_eq_none_iff]

theorem cut_eq_some_iff {text before after : String} :
    cut separator text = some (before, after) ↔
      text.toList = before.toList ++ separator :: after.toList ∧ separator ∉ before.toList := by
  rw [cut, Option.map_eq_some_iff]
  constructor
  · rintro ⟨⟨left, right⟩, hcut, hpair⟩
    obtain ⟨rfl, rfl⟩ := Prod.mk.inj hpair
    rw [String.toList_ofList, String.toList_ofList]
    exact cutChars_eq_some_iff.mp hcut
  · intro h
    exact ⟨_, cutChars_eq_some_iff.mpr h, Prod.ext String.ofList_toList String.ofList_toList⟩

end HybridSearch.Text
