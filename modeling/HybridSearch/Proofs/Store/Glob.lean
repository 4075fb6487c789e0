import HybridSearch.Proofs.Text.Affix
import HybridSearch.Schema.Key
import HybridSearch.Store.Glob
import Mathlib.Data.List.Forall2

/-!
# What patterns match

A pattern matches the texts that can be cut into pieces for which its items stand. A pattern that
ends with a star, and has no other sign of its own, matches the texts that begin with what stands
before the star. The pattern of an index is of that form if its name is plain.

## Main definitions

* `Glob.Reads`, `Glob.Item.StandsFor` — the items of a pattern, and the pieces of a text that an
  item stands for.
* `Glob.IsPlain` — texts that stand for themselves in a pattern.

## Main results

* `Glob.isMatch_iff` — the language of a pattern.
* `Glob.isMatch_append_star` — a plain text before a star.
* `Key.isMatch_pattern` — the pattern of an index with a plain name.
-/

namespace HybridSearch

namespace Glob

/-! ### The language of a pattern -/

/-- The items of a pattern, read from left to right. -/
inductive Reads : List Char → List Item → Prop
  | nil : Reads [] []
  | star {rest : List Char} {items : List Item} (h : Reads rest items) :
      Reads ('*' :: rest) (.anyText :: items)
  | mark {rest : List Char} {items : List Item} (h : Reads rest items) :
      Reads ('?' :: rest) (.anyChar :: items)
  | escaped {rest : List Char} {items : List Item} (c : Char) (h : Reads rest items) :
      Reads ('\\' :: c :: rest) (.char c :: items)
  | dangling : Reads ['\\'] [.char '\\']
  | plain {c : Char} {rest : List Char} {items : List Item} (hstar : c ≠ '*') (hmark : c ≠ '?')
      (hbackslash : c ≠ '\\') (h : Reads rest items) : Reads (c :: rest) (.char c :: items)

/-- The pieces of a text that an item may stand for. -/
inductive Item.StandsFor : Item → List Char → Prop
  | anyText (piece : List Char) : anyText.StandsFor piece
  | anyChar (c : Char) : anyChar.StandsFor [c]
  | char (c : Char) : (char c).StandsFor [c]

theorem items_cons_of_plain {c : Char} (hstar : c ≠ '*') (hmark : c ≠ '?') (hbackslash : c ≠ '\\')
    (rest : List Char) : items (c :: rest) = .char c :: items rest := by
  rw [items]
  · exact hstar
  · exact hmark
  · exact fun _ _ h => absurd h hbackslash

/-- Every pattern has one reading. -/
theorem reads_iff {pattern : List Char} {read : List Item} :
    Reads pattern read ↔ read = items pattern := by
  constructor
  · intro h
    induction h with
    | nil => rfl
    | star h ih => rw [items, ih]
    | mark h ih => rw [items, ih]
    | escaped c h ih => rw [items, ih]
    | dangling => rfl
    | plain hstar hmark hbackslash h ih => rw [items_cons_of_plain hstar hmark hbackslash, ih]
  · rintro rfl
    fun_induction items pattern with
    | case1 => exact .nil
    | case2 rest ih => exact .star ih
    | case3 rest ih => exact .mark ih
    | case4 c rest ih => exact .escaped c ih
    | case5 c rest hstar hmark hescape ih =>
      by_cases hbackslash : c = '\\'
      · cases rest with
        | nil =>
          subst hbackslash
          exact .dangling
        | cons d rest => exact absurd rfl (hescape d rest hbackslash)
      · exact .plain hstar hmark hbackslash ih

theorem anyRest_iff {passes : List Char → Bool} {text : List Char} :
    anyRest passes text = true ↔ ∃ piece rest, text = piece ++ rest ∧ passes rest = true := by
  induction text with
  | nil => simp [anyRest, and_assoc]
  | cons c text ih =>
    rw [anyRest, Bool.or_eq_true, ih]
    constructor
    · rintro (h | ⟨piece, rest, rfl, h⟩)
      · exact ⟨[], c :: text, rfl, h⟩
      · exact ⟨c :: piece, rest, rfl, h⟩
    · rintro ⟨piece, rest, htext, h⟩
      rcases List.cons_eq_append_iff.mp htext with ⟨-, rfl⟩ | ⟨piece, -, rfl⟩
      · exact Or.inl h
      · exact Or.inr ⟨piece, rest, rfl, h⟩

/-- The first item stands for the beginning of the text, and the other items for the rest. -/
theorem accepts_cons {item : Item} {more : List Item} {text : List Char} :
    accepts (item :: more) text = true ↔
      ∃ piece rest, item.StandsFor piece ∧ text = piece ++ rest ∧ accepts more rest = true := by
  cases item with
  | anyText =>
    rw [accepts, anyRest_iff]
    exact exists₂_congr fun piece rest => (and_iff_right (.anyText piece)).symm
  | anyChar =>
    constructor
    · intro h
      cases text with
      | nil => cases h
      | cons c rest => exact ⟨[c], rest, .anyChar c, rfl, h⟩
    · rintro ⟨_, rest, ⟨c⟩, rfl, h⟩
      exact h
  | char c =>
    constructor
    · intro h
      cases text with
      | nil => cases h
      | cons d rest =>
        obtain ⟨hcd, hrest⟩ := Bool.and_eq_true_iff.mp h
        obtain rfl := beq_iff_eq.mp hcd
        exact ⟨[c], rest, .char c, rfl, hrest⟩
    · rintro ⟨_, rest, ⟨⟩, rfl, h⟩
      exact Bool.and_eq_true_iff.mpr ⟨beq_self_eq_true c, h⟩

/-- A text is accepted if it can be cut into one piece for each item. -/
theorem accepts_iff {read : List Item} {text : List Char} :
    accepts read text = true ↔
      ∃ pieces, List.Forall₂ Item.StandsFor read pieces ∧ text = pieces.flatten := by
  induction read generalizing text with
  | nil => simp [accepts]
  | cons item more ih =>
    rw [accepts_cons]
    simp only [ih]
    constructor
    · rintro ⟨piece, _, hpiece, rfl, pieces, hpieces, rfl⟩
      exact ⟨piece :: pieces, .cons hpiece hpieces, rfl⟩
    · rintro ⟨_, hpieces, rfl⟩
      cases hpieces with
      | cons hpiece hmore => exact ⟨_, _, hpiece, rfl, _, hmore, rfl⟩

/-- **A pattern matches the texts of its language.** It has one reading, and it matches just the
texts that can be cut into consecutive pieces for which the items of that reading stand, one piece
for each item and in their order. -/
theorem isMatch_iff (pattern : String) :
    ∃ read, (∀ other, Reads pattern.toList other ↔ other = read) ∧
      ∀ text, isMatch pattern text = true ↔
        ∃ pieces, List.Forall₂ Item.StandsFor read pieces ∧ text.toList = pieces.flatten :=
  ⟨items pattern.toList, fun _ => reads_iff, fun _ => accepts_iff⟩

/-- The first backslash takes the meaning from the star, the last stands for itself. -/
example : isMatch "a\\*?*\\" "a*b\\" = true ∧ isMatch "a\\*?*\\" "abb\\" = false := by
  decide +kernel

/-! ### Plain texts -/

/-- No character has a meaning of its own in a pattern. -/
def IsPlain (text : String) : Prop := ∀ c ∈ text.toList, c ≠ '*' ∧ c ≠ '?' ∧ c ≠ '\\'

theorem items_append_of_plain {plain : List Char}
    (h : ∀ c ∈ plain, c ≠ '*' ∧ c ≠ '?' ∧ c ≠ '\\') (rest : List Char) :
    items (plain ++ rest) = plain.map .char ++ items rest := by
  induction plain with
  | nil => rfl
  | cons c plain ih =>
    obtain ⟨hstar, hmark, hbackslash⟩ := h c List.mem_cons_self
    rw [List.cons_append, items_cons_of_plain hstar hmark hbackslash,
      ih fun d hd => h d (List.mem_cons_of_mem _ hd)]
    rfl

theorem accepts_anyText (text : List Char) : accepts [.anyText] text = true :=
  accepts_cons.mpr ⟨text, [], .anyText text, (List.append_nil text).symm, rfl⟩

theorem accepts_map_char_append {plain text : List Char} {more : List Item} :
    accepts (plain.map .char ++ more) text = true ↔
      ∃ rest, text = plain ++ rest ∧ accepts more rest = true := by
  induction plain generalizing text with
  | nil => simp
  | cons c plain ih =>
    rw [List.map_cons, List.cons_append, accepts_cons]
    constructor
    · rintro ⟨_, _, ⟨⟩, rfl, h⟩
      obtain ⟨rest, rfl, hrest⟩ := ih.mp h
      exact ⟨rest, rfl, hrest⟩
    · rintro ⟨rest, rfl, hrest⟩
      exact ⟨[c], plain ++ rest, .char c, rfl, ih.mpr ⟨rest, rfl, hrest⟩⟩

/-- **A plain text before a star matches what begins with it.** -/
theorem isMatch_append_star {plain text : String} (h : IsPlain plain) :
    isMatch (plain ++ "*") text = true ↔ ∃ rest, text = plain ++ rest := by
  have hitems : items (plain ++ "*").toList = plain.toList.map .char ++ [.anyText] := by
    rw [String.toList_append]
    exact items_append_of_plain h ['*']
  rw [isMatch, hitems, accepts_map_char_append]
  constructor
  · rintro ⟨rest, htext, -⟩
    refine ⟨String.ofList rest, String.toList_inj.mp ?_⟩
    rw [htext, String.toList_append, String.toList_ofList]
  · rintro ⟨rest, rfl⟩
    exact ⟨rest.toList, String.toList_append, accepts_anyText _⟩

theorem IsPlain.append {left right : String} (hleft : IsPlain left) (hright : IsPlain right) :
    IsPlain (left ++ right) := by
  intro c hc
  rw [String.toList_append, List.mem_append] at hc
  exact hc.elim (hleft c) (hright c)

end Glob

/-- The pattern of an index with a plain name matches the keys that its records may have. -/
theorem Key.isMatch_pattern {index key : String} (h : Glob.IsPlain index) :
    Glob.isMatch (pattern index) key = true ↔ ∃ id, key = record index id := by
  have hspace : Glob.IsPlain (space index) := by
    refine Glob.IsPlain.append (Glob.IsPlain.append ?_ h) ?_
    · simp [Glob.IsPlain]
    · simp [Glob.IsPlain]
  exact Glob.isMatch_append_star hspace

end HybridSearch
