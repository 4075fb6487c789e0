import HybridSearch.Json.Reader
import HybridSearch.Text.Trim

/-!
# Texts that open a document

A text whose first sign is a brace or a bracket denotes no number, and the document that it holds,
if any, is an object or an array. Trimming leaves that first sign where it is, although it takes
away more signs than the reader of documents passes over.

## Main results

* `Json.isNested_of_parse?` — the document of such a text.
* `Decimal.parse?_trim_of_opens` — such a text is no number.
-/

namespace HybridSearch

namespace Json

/-- The signs that open an object or an array. -/
def Opens (c : Char) : Prop := c = '\x7b' ∨ c = '['

def IsNested (json : Json) : Prop := (∃ items, json = .arr items) ∨ ∃ members, json = .obj members

theorem isBlank_of_isSpace {c : Char} (h : isSpace c = true) : Text.isBlank c = true := by
  simp only [isSpace, Bool.or_eq_true, decide_eq_true_eq] at h
  rcases h with ((rfl | rfl) | rfl) | rfl <;> decide

theorem not_isBlank_of_opens {c : Char} (h : Opens c) : Text.isBlank c = false := by
  rcases h with rfl | rfl <;> decide

/-- What the reader passes over, it passes over to the first sign or to a blank of another kind. -/
theorem skipSpace_cases {text : List Char} {c : Char} {rest : List Char}
    (h : Text.dropBlank text = c :: rest) :
    skipSpace text = c :: rest ∨
      ∃ b more, skipSpace text = b :: more ∧ Text.isBlank b = true := by
  induction text with
  | nil => cases h
  | cons a text ih =>
    rw [Text.dropBlank, List.dropWhile_cons] at h
    rw [skipSpace, List.dropWhile_cons]
    cases hspace : isSpace a with
    | true =>
      rw [isBlank_of_isSpace hspace, if_pos rfl] at h
      rw [if_pos rfl]
      exact ih h
    | false =>
      rw [if_neg Bool.false_ne_true]
      cases hblank : Text.isBlank a with
      | true => exact Or.inr ⟨a, text, rfl, hblank⟩
      | false =>
        rw [hblank, if_neg Bool.false_ne_true] at h
        exact Or.inl h

theorem not_isDecimal_of_isBlank {c : Char} (h : Text.isBlank c = true) :
    Text.isDecimal c = false := by
  rw [Bool.eq_false_iff]
  intro hdecimal
  simp only [Text.isDecimal, Bool.and_eq_true, decide_eq_true_eq] at hdecimal
  have hlow : 48 ≤ c.toNat := UInt32.le_iff_toNat_le.mp hdecimal.1
  have hhigh : c.toNat ≤ 57 := UInt32.le_iff_toNat_le.mp hdecimal.2
  have hcovers : Text.CodeRange.covers Text.blank c.toNat = false := by
    simp only [Text.blank, Text.CodeRange.covers]
    rw [if_neg (by omega), if_neg (by omega), if_pos (by omega), Bool.or_false,
      Bool.or_eq_false_iff]
    constructor <;> exact decide_eq_false (by omega)
  rw [Text.isBlank, hcovers] at h
  cases h

theorem readNumber?_of_not_isDecimal {c : Char} (hminus : c ≠ '-')
    (h : Text.isDecimal c = false) (rest : List Char) : readNumber? (c :: rest) = none := by
  rw [readNumber?]
  · simp [Decimal.takeDigits, h]
  · rintro _ ⟨⟩
    exact hminus rfl

/-- The reader of documents does not get past a blank that it does not pass over. -/
theorem readValue?_of_isBlank {c : Char} (h : Text.isBlank c = true)
    {text rest : List Char} (hskip : skipSpace text = c :: rest) {fuel depth : Nat} :
    readValue? fuel depth text = none := by
  cases fuel with
  | zero => rw [readValue?]
  | succ fuel =>
    have hne (d : Char) (hd : Text.isBlank d = false) : c ≠ d := by
      rintro rfl
      rw [h] at hd
      cases hd
    have hnumber := readNumber?_of_not_isDecimal (hne '-' (by decide))
      (not_isDecimal_of_isBlank h) rest
    rw [readValue?, hskip]
    split
    case h_7 =>
      rw [hnumber]
      rfl
    all_goals
      rename_i heq
      exact absurd (List.cons.inj heq).1 (hne _ (by decide))

/-- Behind an opening sign stands an object or an array. -/
theorem isNested_of_readValue? {c : Char} (h : Opens c) {fuel depth : Nat}
    {text rest tail : List Char} (hskip : skipSpace text = c :: rest) {json : Json}
    (hread : readValue? fuel depth text = some (json, tail)) : json.IsNested := by
  cases fuel with
  | zero =>
    rw [readValue?] at hread
    cases hread
  | succ fuel =>
    rw [readValue?, hskip] at hread
    split at hread
    -- the bracket and the brace are the fifth and the sixth sign that the reader tells apart
    case h_5 =>
      split at hread
      · cases hread
      · split at hread
        · cases hread
          exact Or.inl ⟨_, rfl⟩
        · obtain ⟨_, -, hjson⟩ := Option.map_eq_some_iff.mp hread
          cases hjson
          exact Or.inl ⟨_, rfl⟩
    case h_6 =>
      split at hread
      · cases hread
      · split at hread
        · cases hread
          exact Or.inr ⟨_, rfl⟩
        · obtain ⟨_, -, hjson⟩ := Option.map_eq_some_iff.mp hread
          cases hjson
          exact Or.inr ⟨_, rfl⟩
    case h_7 hbracket hbrace =>
      rcases h with rfl | rfl
      · exact (hbrace _ rfl).elim
      · exact (hbracket _ rfl).elim
    all_goals
      rename_i heq
      obtain ⟨rfl, -⟩ := List.cons.inj heq
      exact absurd h (by unfold Opens; decide)

/-- **What begins with an opening sign is an object or an array**, if it is a document. -/
theorem isNested_of_parse? {text : String} {c : Char} {rest : List Char} (h : Opens c)
    (htext : Text.dropBlank text.toList = c :: rest) {json : Json}
    (hparse : parse? text = some json) : json.IsNested := by
  obtain ⟨tail, hread⟩ : ∃ tail, readValue? (2 * text.toList.length + 2) maxDepth text.toList =
      some (json, tail) := by
    rw [parse?, parseChars?] at hparse
    split at hparse
    · rename_i tail hread
      split at hparse
      · cases hparse
        exact ⟨tail, hread⟩
      · cases hparse
    · cases hparse
  rcases skipSpace_cases htext with hskip | ⟨b, more, hskip, hblank⟩
  · exact isNested_of_readValue? h hskip hread
  · rw [readValue?_of_isBlank hblank hskip] at hread
    cases hread

end Json

/-- An opening sign begins no number. -/
theorem Decimal.parse?_trim_of_opens {text : String} {c : Char} {rest : List Char}
    (h : Json.Opens c) (htext : Text.dropBlank text.toList = c :: rest) :
    Decimal.parse? (Text.trim text) = none := by
  obtain ⟨more, htrim⟩ : ∃ more, Text.trimChars text.toList = c :: more := by
    rw [Text.trimChars, htext, List.reverse_cons, Text.dropBlank, List.dropWhile_append]
    split
    · exact ⟨[], by simp [Json.not_isBlank_of_opens h]⟩
    · exact ⟨(rest.reverse.dropWhile Text.isBlank).reverse, by simp⟩
  rw [Decimal.parse?, Text.trim, String.toList_ofList, htrim]
  have hdigits (d : Char) (hd : Text.isDecimal d = false) :
      Decimal.takeDigits (d :: more) = ([], d :: more) := by
    simp [Decimal.takeDigits, hd]
  rcases h with rfl | rfl
  · simp [Decimal.parseChars?, Decimal.takeSign, Decimal.magnitude?, Decimal.special?,
      Decimal.readUnsigned?, hdigits '\x7b' (by decide)]
  · simp [Decimal.parseChars?, Decimal.takeSign, Decimal.magnitude?, Decimal.special?,
      Decimal.readUnsigned?, hdigits '[' (by decide)]

end HybridSearch
