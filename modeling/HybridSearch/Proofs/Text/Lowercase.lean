import HybridSearch.Text.Lowercase
import Mathlib.Data.List.Infix

/-!
# Lowercase and signs

The signs that come before all letters, such as points, commas and digits, stay where they are in
the lowercase of a text, and no letter becomes one of them. What a character becomes depends on its
place for the sigma alone, so a word without a sigma is found in the lowercase of a text just if it
is found in the text with every character folded.

## Main definitions

* `Text.folded` — a text in lowercase, with one form of the sigma.
* `Text.AllSmall`, `Text.LacksSigma` — texts that stay as they are, and words without a sigma.

## Main results

* `Text.mem_lowerChar_iff` — the lowercase of a character.
* `Text.mem_lowercase_iff` — the lowercase of a text.
* `Text.folded_of_allSmall` — a text that is in lowercase already.
* `Text.infix_lowercase_iff`, `Text.prefix_lowercase_iff`, `Text.suffix_lowercase_iff` — words in
  the lowercase of a text.
-/

namespace HybridSearch.Text

/-- A sign before the letters: its code point is smaller than that of the first capital. -/
def PrecedesLetters (c : Char) : Prop := 0 < c.toNat ∧ c.toNat < 0x41

instance (c : Char) : Decidable (PrecedesLetters c) := inferInstanceAs (Decidable (_ ∧ _))

theorem PrecedesLetters.ne {sign c : Char} (h : PrecedesLetters sign) (hc : 0x41 ≤ c.toNat) :
    sign ≠ c := by
  rintro rfl
  exact absurd h.2 (Nat.not_lt.mpr hc)

/-- Capitals and their lowercase letters come after these signs. -/
theorem letters_of_mem_caseRuns :
    ∀ run ∈ caseRuns, 0x41 ≤ run.first ∧ 0x41 ≤ (run.first : Int) + run.shift := by
  decide +kernel

/-- A code point that is no character stands for the one with the code point zero. -/
theorem not_precedesLetters_ofNat {code : Nat} (h : 0x41 ≤ code) :
    ¬PrecedesLetters (Char.ofNat code) := by
  by_cases hvalid : code.isValidChar
  · have hcode : (Char.ofNat code).toNat = code := by
      rw [Char.ofNat, dif_pos hvalid]
      rfl
    rw [PrecedesLetters, hcode]
    omega
  · rw [Char.ofNat, dif_neg hvalid]
    decide

variable {sign : Char}

theorem mem_lowerChar_iff (hsign : PrecedesLetters sign) (c : Char) :
    sign ∈ lowerChar c ↔ sign = c := by
  have hletter {code : Nat} (hcode : 0x41 ≤ code) : sign ≠ Char.ofNat code := by
    rintro rfl
    exact not_precedesLetters_ofNat hcode hsign
  rw [lowerChar]
  split
  · rename_i hdotted
    have hi : sign ≠ 'i' := hsign.ne (by decide)
    have hdot : sign ≠ Char.ofNat 0x307 := hletter (by decide)
    have hc : sign ≠ c := hsign.ne (by omega)
    simp [hi, hdot, hc]
  · split
    · rename_i run hfind
      have hholds := List.find?_some hfind
      have hrun := letters_of_mem_caseRuns run (List.mem_of_find?_eq_some hfind)
      simp only [CaseRun.holds, Bool.and_eq_true, decide_eq_true_eq] at hholds
      rw [List.mem_singleton]
      exact iff_of_false (hletter (by omega)) (hsign.ne (by omega))
    · exact List.mem_singleton

theorem mem_lowerFrom_iff (hsign : PrecedesLetters sign) (before text : List Char) :
    sign ∈ lowerFrom before text ↔ sign ∈ text := by
  induction text generalizing before with
  | nil => exact Iff.rfl
  | cons c text ih =>
    rw [lowerFrom, List.mem_append, List.mem_cons, ih]
    refine or_congr_left ?_
    split
    · rename_i hsigma
      subst hsigma
      have hcapital : sign ≠ 'Σ' := hsign.ne (by decide)
      have hsmall : sign ≠ 'σ' := hsign.ne (by decide)
      have hfinal : sign ≠ 'ς' := hsign.ne (by decide)
      rw [lowerSigma]
      split <;> simp [hcapital, hsmall, hfinal]
    · exact mem_lowerChar_iff hsign c

/-- **The signs before the letters stay as they are.** -/
theorem mem_lowercase_iff (hsign : PrecedesLetters sign) (text : String) :
    sign ∈ (lowercase text).toList ↔ sign ∈ text.toList := by
  rw [lowercase, String.toList_ofList, mem_lowerFrom_iff hsign]

/-! ### Folded texts -/

/-- The two lowercase forms of the sigma as one. -/
def mergeSigma (c : Char) : Char := if c = 'ς' then 'σ' else c

def foldChar (c : Char) : List Char := if c = 'Σ' then ['σ'] else (lowerChar c).map mergeSigma

/-- The lowercase of a text with one form of the sigma. -/
def folded (text : String) : List Char := text.toList.flatMap foldChar

theorem folded_append (left right : String) :
    folded (left ++ right) = folded left ++ folded right := by
  rw [folded, String.toList_append, List.flatMap_append, folded, folded]

theorem map_mergeSigma_lowerFrom (before text : List Char) :
    (lowerFrom before text).map mergeSigma = text.flatMap foldChar := by
  induction text generalizing before with
  | nil => rfl
  | cons c text ih =>
    rw [lowerFrom, List.map_append, ih, List.flatMap_cons, foldChar]
    split
    · rw [List.map_singleton, lowerSigma]
      split <;> rfl
    · rfl

theorem folded_eq (text : String) : folded text = (lowercase text).toList.map mergeSigma := by
  rw [lowercase, String.toList_ofList, map_mergeSigma_lowerFrom, folded]

/-! ### Small letters -/

/-- A small letter of ASCII, or a sign before the letters. -/
def IsSmall (c : Char) : Prop := PrecedesLetters c ∨ (0x61 ≤ c.toNat ∧ c.toNat ≤ 0x7A)

instance (c : Char) : Decidable (IsSmall c) := inferInstanceAs (Decidable (_ ∨ _))

theorem small_notMem_caseRuns : ∀ run ∈ caseRuns, run.last < 0x61 ∨ 0x7A < run.first := by
  decide +kernel

theorem foldChar_of_isSmall {c : Char} (h : IsSmall c) : foldChar c = [c] := by
  have hascii : c.toNat ≤ 0x7A := h.elim (fun hsign => hsign.2.le.trans (by decide)) (·.2)
  have hne {other : Char} (hother : 0x7A < other.toNat) : c ≠ other := by
    rintro rfl
    omega
  have hruns : caseRuns.find? (CaseRun.holds · c.toNat) = none := by
    refine List.find?_eq_none.mpr fun run hrun hholds => ?_
    have hfirst := (letters_of_mem_caseRuns run hrun).1
    have hapart := small_notMem_caseRuns run hrun
    simp only [CaseRun.holds, Bool.and_eq_true, decide_eq_true_eq] at hholds
    rcases h with ⟨-, hsign⟩ | hletter <;> omega
  rw [foldChar, if_neg (hne (by decide)), lowerChar, if_neg (by omega), hruns, List.map_singleton,
    mergeSigma, if_neg (hne (by decide))]

def AllSmall (text : List Char) : Prop := ∀ c ∈ text, IsSmall c

instance (text : List Char) : Decidable (AllSmall text) := List.decidableBAll _ _

theorem folded_of_allSmall {text : String} (h : AllSmall text.toList) :
    folded text = text.toList := by
  rw [folded, List.flatMap_congr fun c hc => foldChar_of_isSmall (h c hc), List.flatMap_singleton']

/-! ### Words -/

theorem mergeSigma_of_ne {c : Char} (h : c ≠ 'ς') : mergeSigma c = c := if_neg h

theorem mem_map_mergeSigma_iff (hsign : PrecedesLetters sign) (text : List Char) :
    sign ∈ text.map mergeSigma ↔ sign ∈ text := by
  have hsmall : sign ≠ 'σ' := hsign.ne (by decide)
  have hfinal : sign ≠ 'ς' := hsign.ne (by decide)
  rw [List.mem_map]
  constructor
  · rintro ⟨c, hc, rfl⟩
    rw [mergeSigma] at hsmall ⊢
    split
    · rename_i hsigma
      exact absurd (if_pos hsigma) hsmall
    · exact hc
  · exact fun h => ⟨sign, h, mergeSigma_of_ne hfinal⟩

theorem mem_folded_iff (hsign : PrecedesLetters sign) (text : String) :
    sign ∈ folded text ↔ sign ∈ text.toList := by
  rw [folded_eq, mem_map_mergeSigma_iff hsign, mem_lowercase_iff hsign]

/-- A word that has no sigma. -/
def LacksSigma (word : List Char) : Prop := ∀ c ∈ word, c ≠ 'σ' ∧ c ≠ 'ς'

instance (word : List Char) : Decidable (LacksSigma word) := List.decidableBAll _ _

section Words

variable {word : List Char} (hword : LacksSigma word)

include hword

theorem LacksSigma.map_mergeSigma_eq_iff (text : List Char) :
    text.map mergeSigma = word ↔ text = word := by
  constructor
  · rintro rfl
    refine (List.map_id text).symm.trans (List.map_congr_left fun c hc => ?_)
    have hne := (hword _ (List.mem_map_of_mem hc)).1
    rw [mergeSigma] at hne ⊢
    split
    · rename_i hsigma
      exact absurd (if_pos hsigma) hne
    · rfl
  · rintro rfl
    exact (List.map_congr_left fun c hc => mergeSigma_of_ne (hword c hc).2).trans (List.map_id text)

theorem prefix_lowercase_iff (text : String) :
    word <+: (lowercase text).toList ↔ word <+: folded text := by
  rw [folded_eq, List.prefix_map_iff]
  simp only [eq_comm (a := word), hword.map_mergeSigma_eq_iff, exists_eq_right]

theorem suffix_lowercase_iff (text : String) :
    word <:+ (lowercase text).toList ↔ word <:+ folded text := by
  rw [folded_eq, List.suffix_map_iff]
  simp only [eq_comm (a := word), hword.map_mergeSigma_eq_iff, exists_eq_right]

/-- **A word is found in the lowercase of a text** wherever it stands in the folded text. -/
theorem infix_lowercase_iff (text : String) :
    word <:+: (lowercase text).toList ↔ word <:+: folded text := by
  rw [folded_eq, List.infix_map_iff]
  simp only [eq_comm (a := word), hword.map_mergeSigma_eq_iff, exists_eq_right]

end Words

end HybridSearch.Text
