import HybridSearch.Text.Trim
import Mathlib.Data.List.DropRight

/-!
# Trimmed texts

## Main definitions

* `Text.IsBlankText` — a text of blanks only.

## Main results

* `Text.trimChars_eq_self` — a text without blanks has nothing to trim.
* `Text.trim_trim` — a trimmed text has nothing left to trim.
* `Text.mem_trimChars_iff` — trimming takes away blanks only.
* `Text.isEmpty_trim` — of blanks only, nothing is left.
-/

namespace HybridSearch.Text

variable {text : List Char} {c : Char}

theorem trimChars_eq (text : List Char) :
    trimChars text = (dropBlank text).rdropWhile isBlank :=
  rfl

theorem mem_dropBlank_iff (hc : isBlank c = false) : c ∈ dropBlank text ↔ c ∈ text := by
  induction text with
  | nil => exact Iff.rfl
  | cons a text ih =>
    rw [dropBlank, List.dropWhile_cons]
    split
    · rename_i ha
      have hne : c ≠ a := by
        rintro rfl
        rw [hc] at ha
        cases ha
      rw [List.mem_cons, or_iff_right hne]
      exact ih
    · exact Iff.rfl

/-- Trimming takes away blanks only. -/
theorem mem_trimChars_iff (hc : isBlank c = false) : c ∈ trimChars text ↔ c ∈ text := by
  rw [trimChars, List.mem_reverse, mem_dropBlank_iff hc, List.mem_reverse, mem_dropBlank_iff hc]

theorem dropBlank_eq_self (h : ∀ c ∈ text.head?, isBlank c = false) : dropBlank text = text := by
  cases text with
  | nil => rfl
  | cons a text => rw [dropBlank, List.dropWhile_cons, h a rfl, if_neg Bool.false_ne_true]

theorem trimChars_eq_self (h : ∀ c ∈ text, isBlank c = false) : trimChars text = text := by
  have hhead (l : List Char) (hl : ∀ c ∈ l, isBlank c = false) : dropBlank l = l :=
    dropBlank_eq_self fun c hc => hl c (List.mem_of_mem_head? hc)
  rw [trimChars, hhead text h, hhead _ fun c hc => h c (List.mem_reverse.mp hc),
    List.reverse_reverse]

theorem trimChars_trimChars (text : List Char) : trimChars (trimChars text) = trimChars text := by
  have hstart : dropBlank (trimChars text) = trimChars text := by
    refine dropBlank_eq_self fun c hc => ?_
    obtain ⟨rest, hprefix⟩ := List.rdropWhile_prefix isBlank (l := dropBlank text)
    have hhead : (dropBlank text).head? = some c := by
      rw [← hprefix, List.head?_append]
      rw [trimChars_eq] at hc
      rw [hc, Option.some_or]
    have hfirst := List.head?_dropWhile_not isBlank text
    rw [dropBlank] at hhead
    rw [hhead] at hfirst
    simpa using hfirst
  rw [trimChars_eq, hstart, trimChars_eq, List.rdropWhile_idempotent]

theorem trim_trim (text : String) : trim (trim text) = trim text := by
  rw [trim, trim, String.toList_ofList, trimChars_trimChars]

/-- All characters of the text are blank. -/
def IsBlankText (text : String) : Prop := ∀ c ∈ text.toList, isBlank c = true

theorem trimChars_eq_nil_iff : trimChars text = [] ↔ ∀ c ∈ text, isBlank c = true := by
  constructor
  · intro h c hc
    by_contra hblank
    have hleft := (mem_trimChars_iff (Bool.eq_false_iff.mpr hblank)).mpr hc
    rw [h] at hleft
    cases hleft
  · intro h
    rw [trimChars, dropBlank, dropBlank, List.dropWhile_eq_nil_iff.mpr h]
    rfl

theorem isEmpty_trim {text : String} : (trim text).isEmpty = true ↔ IsBlankText text := by
  rw [String.isEmpty_iff, ← String.toList_eq_nil_iff, trim, String.toList_ofList,
    trimChars_eq_nil_iff, IsBlankText]

end HybridSearch.Text
