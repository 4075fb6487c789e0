import HybridSearch.Proofs.Number.RoundTrip

/-!
# The spelling of numbers

A text that is read as a finite double is a numeral: a sign or none, digits with at most a point
among them, and an exponent or none. Only an exponent has a mark, and after the first character
only an exponent has a sign.

## Main definitions

* `Decimal.Numeral` — the parts of a number written in digits.
* `Decimal.hasMark`, `Decimal.unmarked` — whether a text has an exponent's mark, and what it is
  without.
* `Decimal.HasSignedExponent` — a mark with a sign right after it.

## Main results

* `Decimal.exists_numeral_of_parseChars?` — the parts of a text that is read as a finite double.
* `Decimal.Numeral.not_isSign_of_mem_tail` — without an exponent there is no sign inside.
* `Number.parse?_render` — the text of a number of a document is read as its double.
* `Number.hasSignedExponent_render` — a mark in that text has a sign after it.
-/

namespace HybridSearch

namespace Decimal

/-! ### Marks and signs -/

/-- Whether a character begins an exponent. -/
def isMark (c : Char) : Bool := c = 'e' || c = 'E'

def isSign (c : Char) : Bool := c = '-' || c = '+'

/-- Whether an exponent's mark stands in a text. -/
def hasMark (text : String) : Bool := text.toList.any isMark

/-- A text without the marks of exponents. -/
def unmarked (text : String) : String := String.ofList (text.toList.filter fun c => !isMark c)

/-- An exponent whose sign is written. -/
def HasSignedExponent (text : String) : Prop :=
  ∃ before mark sign after, text.toList = before ++ mark :: sign :: after ∧
    isMark mark = true ∧ isSign sign = true

theorem not_isMark_of_isDecimal {c : Char} (h : Text.isDecimal c = true) : isMark c = false := by
  rw [isMark, Bool.or_eq_false_iff, decide_eq_false_iff_not, decide_eq_false_iff_not]
  constructor <;> rintro rfl <;> cases h

theorem not_isSign_of_isDecimal {c : Char} (h : Text.isDecimal c = true) : isSign c = false := by
  rw [isSign, Bool.or_eq_false_iff, decide_eq_false_iff_not, decide_eq_false_iff_not]
  constructor <;> rintro rfl <;> cases h

theorem not_isMark_of_isSign {c : Char} (h : isSign c = true) : isMark c = false := by
  rw [isSign, Bool.or_eq_true, decide_eq_true_iff, decide_eq_true_iff] at h
  rcases h with rfl | rfl <;> rfl

/-! ### The parts of a number -/

/-- The parts of a number that is written in digits. -/
structure Numeral where
  sign : List Char
  mantissa : List Char
  exponent : List Char
  sign_isSign : ∀ c ∈ sign, isSign c = true
  length_sign : sign.length ≤ 1
  mantissa_ne_nil : mantissa ≠ []
  mantissa_digits : ∀ c ∈ mantissa, Text.isDecimal c = true ∨ c = '.'
  exponent_marks : ∀ c ∈ exponent.head?, isMark c = true
  exponent_digits : ∀ c ∈ exponent.tail, Text.isDecimal c = true ∨ isSign c = true

namespace Numeral

variable (n : Numeral)

def chars : List Char := n.sign ++ (n.mantissa ++ n.exponent)

theorem not_isMark_of_mem_mantissa {c : Char} (h : c ∈ n.mantissa) : isMark c = false := by
  rcases n.mantissa_digits c h with h | rfl
  · exact not_isMark_of_isDecimal h
  · rfl

theorem not_isSign_of_mem_mantissa {c : Char} (h : c ∈ n.mantissa) : isSign c = false := by
  rcases n.mantissa_digits c h with h | rfl
  · exact not_isSign_of_isDecimal h
  · rfl

/-- An exponent begins with its mark. -/
theorem exponent_eq_nil (h : ∀ c ∈ n.chars, isMark c = false) : n.exponent = [] := by
  have hmarks := n.exponent_marks
  cases hexponent : n.exponent with
  | nil => rfl
  | cons mark rest =>
    rw [hexponent] at hmarks
    have hmem : mark ∈ n.chars := by
      rw [chars, hexponent]
      exact List.mem_append_right _ (List.mem_append_right _ List.mem_cons_self)
    have hmark := h mark hmem
    rw [hmarks mark rfl] at hmark
    cases hmark

/-- Nothing but digits, signs, points and marks stands in a numeral. -/
theorem digit_or_sign_or_point_or_mark {c : Char} (h : c ∈ n.chars) :
    Text.isDecimal c = true ∨ isSign c = true ∨ c = '.' ∨ isMark c = true := by
  rcases List.mem_append.mp h with h | h
  · exact .inr (.inl (n.sign_isSign c h))
  rcases List.mem_append.mp h with h | h
  · rcases n.mantissa_digits c h with h | h
    · exact .inl h
    · exact .inr (.inr (.inl h))
  cases hexponent : n.exponent with
  | nil =>
    rw [hexponent] at h
    cases h
  | cons mark rest =>
    rw [hexponent] at h
    have hmarks := n.exponent_marks
    have hdigits := n.exponent_digits
    rw [hexponent] at hmarks hdigits
    rcases List.mem_cons.mp h with rfl | h
    · exact .inr (.inr (.inr (hmarks c rfl)))
    · rcases hdigits c h with h | h
      · exact .inl h
      · exact .inr (.inl h)

/-- A numeral begins with its sign or its mantissa. -/
theorem not_isMark_of_head {c : Char} {rest : List Char} (h : n.chars = c :: rest) :
    isMark c = false := by
  have hmantissa := n.mantissa_ne_nil
  cases hsign : n.sign with
  | nil =>
    rw [chars, hsign, List.nil_append] at h
    obtain ⟨first, others, hfirst⟩ := List.exists_cons_of_ne_nil hmantissa
    rw [hfirst, List.cons_append, List.cons.injEq] at h
    rw [← h.1]
    exact n.not_isMark_of_mem_mantissa (hfirst ▸ List.mem_cons_self)
  | cons sign others =>
    rw [chars, hsign, List.cons_append, List.cons.injEq] at h
    rw [← h.1]
    exact not_isMark_of_isSign (n.sign_isSign sign (hsign ▸ List.mem_cons_self))

/-- Without an exponent the only sign is in front. -/
theorem not_isSign_of_mem_tail (h : ∀ c ∈ n.chars, isMark c = false) {c : Char}
    (hc : c ∈ n.chars.tail) : isSign c = false := by
  have hlength := n.length_sign
  rw [chars, n.exponent_eq_nil h, List.append_nil] at hc
  match hsign : n.sign with
  | [] =>
    rw [hsign, List.nil_append] at hc
    exact n.not_isSign_of_mem_mantissa (List.mem_of_mem_tail hc)
  | [sign] =>
    rw [hsign] at hc
    exact n.not_isSign_of_mem_mantissa hc
  | _ :: _ :: _ =>
    rw [hsign] at hlength
    exact absurd hlength (by simp)

end Numeral

/-! ### What is read is a numeral -/

theorem exists_takeSign_eq (text : List Char) :
    ∃ sign, text = sign ++ (takeSign text).2 ∧ (∀ c ∈ sign, isSign c = true) ∧
      sign.length ≤ 1 := by
  rw [takeSign.eq_def]
  split
  · exact ⟨['-'], rfl, by simp [isSign], le_rfl⟩
  · exact ⟨['+'], rfl, by simp [isSign], le_rfl⟩
  · exact ⟨[], rfl, nofun, Nat.zero_le 1⟩

theorem takeDigits_fst_append_snd (text : List Char) :
    (takeDigits text).1 ++ (takeDigits text).2 = text :=
  List.takeWhile_append_dropWhile

theorem isDecimal_of_mem_takeDigits {text : List Char} {c : Char}
    (h : c ∈ (takeDigits text).1) : Text.isDecimal c = true :=
  List.mem_takeWhile_imp h

theorem exponent?_eq_some {tail : List Char} {e : ℤ} (h : exponent? tail = some e) :
    (∀ c ∈ tail.head?, isMark c = true) ∧
      ∀ c ∈ tail.tail, Text.isDecimal c = true ∨ isSign c = true := by
  cases tail with
  | nil => exact ⟨nofun, nofun⟩
  | cons mark rest =>
    rw [exponent?] at h
    split at h
    · rename_i hmark
      dsimp only at h
      split at h
      · cases h
      · rename_i hrest
        rw [not_or, Bool.not_eq_true, Bool.not_eq_true, Bool.not_eq_false', List.isEmpty_iff]
          at hrest
        refine ⟨fun c hc => ?_, fun c hc => ?_⟩
        · obtain rfl := Option.some.inj hc
          rwa [isMark, Bool.or_eq_true, decide_eq_true_iff, decide_eq_true_iff]
        · obtain ⟨sign, hsign, hsigns, -⟩ := exists_takeSign_eq rest
          rw [List.tail_cons, hsign, ← takeDigits_fst_append_snd (takeSign rest).2, hrest.2,
            List.append_nil] at hc
          rcases List.mem_append.mp hc with hc | hc
          · exact .inr (hsigns c hc)
          · exact .inl (isDecimal_of_mem_takeDigits hc)
    · cases h

/-- The digits of a number and the point among them stand before its exponent. -/
theorem readUnsigned?_eq_some {text : List Char} {d : Decimal}
    (h : readUnsigned? text = some d) :
    ∃ mantissa tail e, text = mantissa ++ tail ∧ mantissa ≠ [] ∧
      (∀ c ∈ mantissa, Text.isDecimal c = true ∨ c = '.') ∧ exponent? tail = some e := by
  have htext := takeDigits_fst_append_snd text
  have hwhole (c : Char) (hc : c ∈ (takeDigits text).1) : Text.isDecimal c = true :=
    isDecimal_of_mem_takeDigits hc
  rw [readUnsigned?] at h
  generalize takeDigits text = parts at h htext hwhole
  obtain ⟨whole, rest⟩ := parts
  dsimp only at h htext hwhole
  split at h
  · rename_i after
    have hafter := takeDigits_fst_append_snd after
    have hfraction (c : Char) (hc : c ∈ (takeDigits after).1) : Text.isDecimal c = true :=
      isDecimal_of_mem_takeDigits hc
    split at h
    · cases h
    · obtain ⟨e, he, -⟩ := Option.map_eq_some_iff.mp h
      refine ⟨whole ++ '.' :: (takeDigits after).1, (takeDigits after).2, e, ?_, by simp, ?_, he⟩
      · rw [List.append_assoc, List.cons_append, hafter, htext]
      · intro c hc
        rcases List.mem_append.mp hc with hc | hc
        · exact .inl (hwhole c hc)
        · rcases List.mem_cons.mp hc with hc | hc
          · exact .inr hc
          · exact .inl (hfraction c hc)
  · split at h
    · cases h
    · rename_i hdigits
      obtain ⟨e, he, -⟩ := Option.map_eq_some_iff.mp h
      have hne : whole ≠ [] := fun hnil => hdigits ⟨List.isEmpty_iff.mpr hnil, rfl⟩
      exact ⟨whole, rest, e, htext.symm, hne, fun c hc => .inl (hwhole c hc), he⟩

/-- The names stand for values that are not finite, whatever their sign. -/
theorem not_isFinite_of_special? {text : List Char} {x : Float} (h : special? text = some x)
    (negative : Bool) : (if negative then -x else x).isFinite = false := by
  rw [special?] at h
  split at h
  · obtain rfl := Option.some.inj h
    cases negative <;> decide +kernel
  · obtain rfl := Option.some.inj h
    cases negative <;> decide +kernel
  · obtain rfl := Option.some.inj h
    cases negative <;> decide +kernel
  · cases h

/-- **A text that is read as a finite double is a numeral.** -/
theorem exists_numeral_of_parseChars? {text : List Char} {x : Float}
    (h : parseChars? text = some x) (hx : x.isFinite = true) : ∃ n : Numeral, n.chars = text := by
  obtain ⟨sign, hsign, hsigns, hlength⟩ := exists_takeSign_eq text
  rw [parseChars?] at h
  generalize takeSign text = parts at h hsign
  obtain ⟨negative, rest⟩ := parts
  obtain ⟨y, hy, rfl⟩ := Option.map_eq_some_iff.mp h
  rcases Option.or_eq_some_iff.mp hy with hspecial | ⟨-, hdigits⟩
  · rw [not_isFinite_of_special? hspecial] at hx
    cases hx
  · obtain ⟨d, hd, -⟩ := Option.map_eq_some_iff.mp hdigits
    obtain ⟨mantissa, tail, e, rfl, hne, hmantissa, he⟩ := readUnsigned?_eq_some hd
    obtain ⟨hmark, htail⟩ := exponent?_eq_some he
    exact ⟨⟨sign, mantissa, tail, hsigns, hlength, hne, hmantissa, hmark, htail⟩, hsign.symm⟩

/-! ### The numbers of documents -/

/-- The digits of a natural number of 64 bits are read as its double. -/
theorem magnitude?_toDigits {n : ℕ} (hn : n < 2 ^ 64) :
    magnitude? (Nat.toDigits 10 n) = some (Float.ofNat n) := by
  have hdigits (c : Char) (hc : c ∈ Nat.toDigits 10 n) : Text.isDecimal c = true :=
    isDecimal_of_mem_toDigits hc
  have hopens := Layout.opens_append hdigits Nat.toDigits_ne_nil []
  rw [List.append_nil] at hopens
  rw [(parseChars?_of_opens hopens).2, readUnsigned?_integer hdigits Nat.toDigits_ne_nil,
    ofDigits_toDigits, Option.map_some, toFloat]
  have hlength : (Nat.toDigits 10 n).length ≤ 20 :=
    (Nat.length_toDigits_le_iff (by norm_num) (by norm_num)).mpr (by omega)
  dsimp only
  by_cases h0 : n = 0
  · subst h0
    rw [if_pos (.inl rfl)]
    exact congrArg some (by decide +kernel)
  · rw [if_neg (by omega), if_neg (by omega)]
    rfl

end Decimal

namespace Number

open Decimal

theorem toList_toString_ofNat (n : ℕ) : (toString (Int.ofNat n)).toList = Nat.toDigits 10 n :=
  Nat.toList_repr

theorem toList_toString_negSucc (n : ℕ) :
    (toString (Int.negSucc n)).toList = '-' :: Nat.toDigits 10 (n + 1) := by
  have htext : toString (Int.negSucc n) = "-" ++ Nat.repr (n + 1) := rfl
  rw [htext, String.toList_append, Nat.toList_repr]
  rfl

/-- The text of a number of a document is read as the double of that number. -/
theorem parse?_render (number : Number) : parse? number.render = some number.toFloat := by
  match number with
  | .float value finite => exact Layout.parse?_render .json finite
  | .int (.ofNat n) fits =>
    have hn : (n : ℤ) < 0x10000000000000000 := fits.2
    have hopens := Layout.opens_append (fun _ => isDecimal_of_mem_toDigits (n := n))
      Nat.toDigits_ne_nil []
    rw [List.append_nil] at hopens
    rw [parse?, render, toList_toString_ofNat, parseChars?, (parseChars?_of_opens hopens).1]
    dsimp only
    rw [magnitude?_toDigits (by omega)]
    rfl
  | .int (.negSucc n) fits =>
    have hn : -0x8000000000000000 ≤ Int.negSucc n := fits.1
    rw [parse?, render, toList_toString_negSucc, parseChars?, takeSign]
    dsimp only
    rw [magnitude?_toDigits (by omega)]
    rfl

theorem not_hasMark_render_int (value : ℤ) (fits : Fits value) :
    hasMark (render (.int value fits)) = false := by
  have hdigits (n : ℕ) (c : Char) (hc : c ∈ Nat.toDigits 10 n) : ¬isMark c = true := by
    rw [not_isMark_of_isDecimal (isDecimal_of_mem_toDigits hc)]
    exact Bool.false_ne_true
  rw [hasMark, render, List.any_eq_false]
  cases value with
  | ofNat n =>
    rw [toList_toString_ofNat]
    exact hdigits n
  | negSucc n =>
    rw [toList_toString_negSucc, List.forall_mem_cons]
    exact ⟨by decide, hdigits (n + 1)⟩

/-- A double is written with an exponent only after a digit, and the sign of that exponent is
written too. -/
theorem hasSignedExponent_magnitude (layout : Layout) (b : Binary)
    (h : (layout.magnitude b).any isMark = true) :
    ∃ before after sign, layout.magnitude b = before ++ 'e' :: sign :: after ∧
      isSign sign = true := by
  have hpositional (d : Decimal) : (layout.positionalDigits d).any isMark = false := by
    rw [List.any_eq_false]
    intro c hc
    rcases Layout.isDecimal_or_of_mem_positionalDigits hc with hdigit | rfl
    · rw [not_isMark_of_isDecimal hdigit]
      exact Bool.false_ne_true
    · decide
  rw [Layout.magnitude] at h ⊢
  split at h
  · rw [hpositional] at h
    cases h
  · dsimp only at h ⊢
    split at h
    · rw [hpositional] at h
      cases h
    · rename_i hzero hplace
      rw [if_neg hzero, if_neg hplace]
      refine ⟨_, _, _, rfl, ?_⟩
      split <;> rfl

/-- **A number of a document that is written with an exponent has a sign in the exponent.** -/
theorem hasSignedExponent_render {number : Number} (h : hasMark number.render = true) :
    HasSignedExponent number.render := by
  match number with
  | .int value fits =>
    rw [not_hasMark_render_int] at h
    cases h
  | .float value finite =>
    obtain ⟨hnan, hinf⟩ := Binary64.not_special finite
    have htext : (render (.float value finite)).toList =
        (if value.toBits.toNat >>> 63 = 1 then ['-'] else []) ++
          Layout.json.magnitude (Binary.ofFloat value) := by
      rw [render, Layout.render, String.toList_ofList, Layout.renderChars, hnan, hinf,
        if_neg Bool.false_ne_true, if_neg Bool.false_ne_true]
    rw [hasMark, htext, List.any_append, Bool.or_eq_true] at h
    have hmagnitude : (Layout.json.magnitude (Binary.ofFloat value)).any isMark = true := by
      refine h.resolve_left fun hsign => ?_
      split at hsign <;> cases hsign
    obtain ⟨before, after, sign, hsplit, hsign⟩ := hasSignedExponent_magnitude _ _ hmagnitude
    exact ⟨_ ++ before, 'e', sign, after, by rw [htext, hsplit, List.append_assoc], rfl, hsign⟩

/-- Zero is written without an exponent. -/
theorem toFloat_ne_zero_of_hasMark {number : Number} (h : hasMark number.render = true) :
    number.toFloat ≠ 0.0 := by
  match number with
  | .int value fits =>
    rw [not_hasMark_render_int] at h
    cases h
  | .float value finite =>
    rintro (rfl : value = 0.0)
    have hzero : hasMark (Layout.json.render 0.0) = false := by decide +kernel
    rw [render, hzero] at h
    cases h

end Number

end HybridSearch
