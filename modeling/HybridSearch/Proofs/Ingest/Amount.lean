import HybridSearch.Proofs.Ingest.Numeric
import HybridSearch.Proofs.Number.Numeral

/-!
# Amounts and plain numbers

The number in a text is looked for among its digits, signs and points. A plain number consists of
these but for the mark of its exponent, so a number without an exponent is read as it stands; one
with an exponent is read as if the mark were not there, and not at all where the exponent has a
sign. Numbers of documents are written with such exponents when they are very large or very small:
these, and only these, are not read back from their text.

## Main results

* `Coercion.amount?_eq_unmarked` — the amount of a number, of which the mark is lost.
* `Coercion.amount?_of_hasSignedExponent` — a signed exponent leaves no number.
* `Coercion.plain_numbers_agree` — where the text of a number and the number agree.
-/

namespace HybridSearch.Coercion

open Decimal

theorem isAmountChar_eq (c : Char) :
    isAmountChar c = (Text.isDecimal c || c = '.' || isSign c) := by
  rw [isAmountChar, isSign, Bool.or_assoc]

/-- The characters of a numeral that are dropped are the marks. -/
theorem isAmountChar_of_mem_chars {n : Numeral} {c : Char} (h : c ∈ n.chars) :
    isAmountChar c = !isMark c := by
  rw [isAmountChar_eq]
  rcases n.digit_or_sign_or_point_or_mark h with h | h | rfl | h
  · rw [h, not_isMark_of_isDecimal h]
    rfl
  · rw [h, not_isMark_of_isSign h, Bool.or_true]
    rfl
  · rfl
  · rw [isMark, Bool.or_eq_true, decide_eq_true_iff, decide_eq_true_iff] at h
    rcases h with rfl | rfl <;> rfl

variable {text : String} {x : Float}

/-- What is read of a plain number is the number without its mark. -/
theorem amount?_eq_unmarked (h : parse? text = some x) (hx : x.isFinite = true) :
    amount? text = (parse? (unmarked text)).filter Float.isFinite := by
  obtain ⟨n, hn⟩ := exists_numeral_of_parseChars? h hx
  have hfilter : text.toList.filter isAmountChar = text.toList.filter fun c => !isMark c :=
    List.filter_congr fun c hc => isAmountChar_of_mem_chars (hn ▸ hc)
  rw [amount?, hfilter, unmarked, parse?, String.toList_ofList]

/-- A number without an exponent is read as it stands. -/
theorem amount?_of_not_hasMark (h : parse? text = some x) (hx : x.isFinite = true)
    (hmark : hasMark text = false) : amount? text = some x := by
  have hself : unmarked text = text := by
    rw [hasMark, List.any_eq_false] at hmark
    rw [unmarked, List.filter_eq_self.mpr, String.ofList_toList]
    intro c hc
    rw [Bool.not_eq_true', ← Bool.not_eq_true]
    exact hmark c hc
  rw [amount?_eq_unmarked h hx, hself, h, Option.filter_some, if_pos hx]

/-- Without the mark the sign of an exponent stands among digits, where no number has one. -/
theorem amount?_of_hasSignedExponent (h : parse? text = some x) (hx : x.isFinite = true)
    (hexponent : HasSignedExponent text) : amount? text = none := by
  obtain ⟨before, mark, sign, after, htext, hmark, hsign⟩ := hexponent
  obtain ⟨n, hn⟩ := exists_numeral_of_parseChars? h hx
  rw [amount?_eq_unmarked h hx, Option.eq_none_iff_forall_ne_some]
  intro y hy
  obtain ⟨hread, hy⟩ := Option.filter_eq_some_iff.mp hy
  obtain ⟨m, hm⟩ := exists_numeral_of_parseChars? hread hy
  rw [unmarked, String.toList_ofList] at hm
  have hplain (c : Char) (hc : c ∈ m.chars) : isMark c = false := by
    rw [hm] at hc
    exact Bool.not_eq_true' _ ▸ (List.mem_filter.mp hc).2
  rw [htext] at hn hm
  cases before with
  | nil =>
    rw [n.not_isMark_of_head hn] at hmark
    cases hmark
  | cons c before =>
    have hfirst : (!isMark c) = true := by rw [n.not_isMark_of_head hn, Bool.not_false]
    have htail : sign ∈ m.chars.tail := by
      rw [hm, List.cons_append, List.filter_cons, if_pos hfirst, List.tail_cons, List.mem_filter,
        not_isMark_of_isSign hsign]
      exact ⟨by simp, rfl⟩
    rw [m.not_isSign_of_mem_tail hplain htail] at hsign
    cases hsign

/-! ### Numbers of documents -/

/-- The text of a number without an exponent holds that number. -/
theorem number?_text_of_not_hasMark {number : Number} (h : hasMark number.render = false) :
    number? (.str (Json.num number).text) = some number.toFloat :=
  amount?_of_not_hasMark number.parse?_render number.isFinite_toFloat h

/-- The text of a number with an exponent holds none, as the exponent has a sign. -/
theorem number?_text_of_hasMark {number : Number} (h : hasMark number.render = true) :
    number? (.str (Json.num number).text) = none :=
  amount?_of_hasSignedExponent number.parse?_render number.isFinite_toFloat
    (Number.hasSignedExponent_render h)

/-- **A text without an exponent is read as the number it is, and the text of a number of a document
is coerced as that number exactly where it has no exponent.**

The mark of an exponent is dropped with the currency signs and units: of a number with an exponent
the digits that remain are read, and none of it where the exponent has a sign. The text of a
document's number has that sign, so in strict mode the text is rejected and in lenient mode it
counts as zero, which the number is not. -/
theorem plain_numbers_agree :
    (∀ (text : String) (x : Float), parse? text = some x → x.isFinite = true →
      (hasMark text = false → amount? text = some x) ∧
      amount? text = (parse? (unmarked text)).filter Float.isFinite ∧
      (HasSignedExponent text → amount? text = none)) ∧
    ∀ (options : CoercionOptions) (field : String) (number : Number),
      let own := coerce options field .numeric (.num number)
      let spelled := coerce options field .numeric (.str (Json.num number).text)
      own = .ok (.number number.toFloat) ∧
      (spelled = own ↔ hasMark (Json.num number).text = false) ∧
      (hasMark (Json.num number).text = true → spelled =
        match options.numeric with
        | .lenient => .ok (.number 0.0)
        | .strict => .error (.invalidValue field (Json.num number).text)) := by
  refine ⟨fun text x h hx => ⟨amount?_of_not_hasMark h hx, amount?_eq_unmarked h hx,
    amount?_of_hasSignedExponent h hx⟩, fun options field number => ⟨rfl, ?_, ?_⟩⟩
  · constructor
    · intro hsame
      by_contra hmark
      have hmark : hasMark number.render = true := Bool.eq_true_of_not_eq_false hmark
      rw [coerce_of_not_number? (number?_text_of_hasMark hmark), coerce_of_number? rfl] at hsame
      split at hsame
      · exact Number.toFloat_ne_zero_of_hasMark hmark
          (FieldValue.number.inj (Except.ok.inj hsame)).symm
      · cases hsame
    · intro hmark
      rw [coerce_of_number? (number?_text_of_not_hasMark hmark), coerce_of_number? rfl]
  · intro hmark
    exact coerce_of_not_number? (number?_text_of_hasMark hmark)

/-- The text `1e5` is read as 15, and the text of the number `1e16` as no number: strict mode takes
the number and rejects its text. -/
theorem not_plain_numbers_agree :
    ¬(∀ (text : String) (x : Float), parse? text = some x → x.isFinite = true →
        amount? text = some x) ∧
      ¬∀ (options : CoercionOptions) (field : String) (number : Number),
        coerce options field .numeric (.num number) =
          coerce options field .numeric (.str (Json.num number).text) := by
  constructor
  · intro h
    have hparse : parse? "1e5" = some 100000.0 := by decide +kernel
    have hread : amount? "1e5" = some 15.0 := by decide +kernel
    have := h "1e5" 100000.0 hparse (by decide +kernel)
    rw [hread] at this
    exact absurd this (by decide +kernel)
  · intro h
    have hmark : hasMark (Number.render (.float 1e16 (by decide +kernel))) = true := by
      decide +kernel
    have := h ⟨.strict, false⟩ "price" (.float 1e16 (by decide +kernel))
    rw [coerce_of_not_number? (number?_text_of_hasMark hmark), coerce_of_number? rfl] at this
    cases this

end HybridSearch.Coercion
