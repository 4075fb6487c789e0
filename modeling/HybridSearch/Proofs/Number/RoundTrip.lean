import HybridSearch.Decimal.Layout
import HybridSearch.Proofs.Json.Opening
import HybridSearch.Proofs.Number.Shortest
import HybridSearch.Proofs.Text.Trim

/-!
# Numbers read back

The text that a layout writes for a finite double is read as that double, its sign included: the
digits that are read stand for the shortest decimal, and that reads back.

## Main results

* `Layout.readUnsigned?_positionalDigits`, `Layout.readUnsigned?_scientificDigits` — what is
  written for a decimal is read as a decimal of the same value.
* `Layout.parse?_render` — a finite double is read back from its text.
* `Layout.trim_render_plain` — that text has nothing to trim.
* `Layout.parse?_trim_render_plain` — infinities are read back as well.
-/

namespace HybridSearch

open Float.Model (Format UnpackedFloat)
open Float.Model.UnpackedFloat

namespace Decimal

/-! ### Digits -/

theorem isDecimal_of_mem_toDigits {n : ℕ} {c : Char} (h : c ∈ Nat.toDigits 10 n) :
    Text.isDecimal c = true := by
  have hdigit := Nat.isDigit_of_mem_toDigits (by norm_num) (by norm_num) h
  simp only [Char.isDigit, Bool.and_eq_true, decide_eq_true_iff] at hdigit
  simp only [Text.isDecimal, Bool.and_eq_true, decide_eq_true_iff]
  exact hdigit

theorem ofDigits_eq (digits : List Char) : ofDigits digits = Nat.ofDigitChars 10 digits 0 := by
  rw [ofDigits, Nat.ofDigitChars_eq_foldl]
  congr 1
  funext value c
  rw [Nat.mul_comm]

@[simp]
theorem ofDigits_toDigits (n : ℕ) : ofDigits (Nat.toDigits 10 n) = n := by
  rw [ofDigits_eq, Nat.ofDigitChars_ten_toDigits]

theorem ofDigits_append_zeros (digits : List Char) (k : ℕ) :
    ofDigits (digits ++ List.replicate k '0') = ofDigits digits * 10 ^ k := by
  rw [ofDigits_eq, ofDigits_eq, Nat.ofDigitChars_append, Nat.ofDigitChars_replicate_zero,
    Nat.mul_comm]

theorem ofDigits_zeros_append (digits : List Char) (k : ℕ) :
    ofDigits (List.replicate k '0' ++ digits) = ofDigits digits := by
  rw [ofDigits_eq, ofDigits_eq, Nat.ofDigitChars_append, Nat.ofDigitChars_replicate_zero,
    Nat.mul_zero]

/-- What follows the digits of a number. -/
def Ends (tail : List Char) : Prop := ∀ c ∈ tail.head?, Text.isDecimal c = false

theorem ends_nil : Ends [] := nofun

theorem takeDigits_append {digits tail : List Char}
    (hdigits : ∀ c ∈ digits, Text.isDecimal c = true) (htail : Ends tail) :
    takeDigits (digits ++ tail) = (digits, tail) := by
  have htake : tail.takeWhile Text.isDecimal = [] := by
    cases tail with
    | nil => rfl
    | cons c rest => rw [List.takeWhile_cons, htail c rfl, if_neg Bool.false_ne_true]
  have hdrop : tail.dropWhile Text.isDecimal = tail := by
    cases tail with
    | nil => rfl
    | cons c rest => rw [List.dropWhile_cons, htail c rfl, if_neg Bool.false_ne_true]
  rw [takeDigits, List.takeWhile_append_of_pos hdigits, List.dropWhile_append_of_pos hdigits,
    htake, hdrop, List.append_nil]

/-! ### Reading digits, a point and an exponent -/

variable {whole fraction tail : List Char} {exponent : ℤ}

theorem readUnsigned?_whole (hwhole : ∀ c ∈ whole, Text.isDecimal c = true) (hne : whole ≠ [])
    (htail : Ends tail) (hpoint : tail.head? ≠ some '.')
    (hexponent : exponent? tail = some exponent) :
    readUnsigned? (whole ++ tail) = some ⟨ofDigits whole, exponent⟩ := by
  rw [readUnsigned?, takeDigits_append hwhole htail]
  dsimp only
  split
  · exact absurd rfl hpoint
  · rw [if_neg (by simp [hne]), hexponent, Option.map_some, List.append_nil, List.length_nil,
      Int.natCast_zero, sub_zero]

theorem readUnsigned?_point (hwhole : ∀ c ∈ whole, Text.isDecimal c = true) (hne : whole ≠ [])
    (hfraction : ∀ c ∈ fraction, Text.isDecimal c = true) (htail : Ends tail)
    (hexponent : exponent? tail = some exponent) :
    readUnsigned? (whole ++ '.' :: (fraction ++ tail)) =
      some ⟨ofDigits (whole ++ fraction), exponent - fraction.length⟩ := by
  have hpoint : Ends ('.' :: (fraction ++ tail)) := by
    rintro c ⟨⟩
    rfl
  rw [readUnsigned?, takeDigits_append hwhole hpoint]
  dsimp only
  split
  · rename_i h
    rw [← (List.cons.inj h).2, takeDigits_append hfraction htail, if_neg (by simp [hne]),
      hexponent, Option.map_some]
  · rename_i h
    exact absurd rfl (h _)

theorem readUnsigned?_integer (hwhole : ∀ c ∈ whole, Text.isDecimal c = true) (hne : whole ≠ []) :
    readUnsigned? whole = some ⟨ofDigits whole, 0⟩ := by
  have := readUnsigned?_whole hwhole hne ends_nil nofun rfl
  rwa [List.append_nil] at this

theorem readUnsigned?_fraction (hwhole : ∀ c ∈ whole, Text.isDecimal c = true) (hne : whole ≠ [])
    (hfraction : ∀ c ∈ fraction, Text.isDecimal c = true) :
    readUnsigned? (whole ++ '.' :: fraction) =
      some ⟨ofDigits (whole ++ fraction), -fraction.length⟩ := by
  have := readUnsigned?_point hwhole hne hfraction ends_nil rfl
  rwa [List.append_nil, zero_sub] at this

/-- The exponent of a number, as it is written, is read back. -/
theorem exponent?_written (e : ℤ) :
    exponent? ('e' :: (if e < 0 then '-' else '+') :: Nat.toDigits 10 e.natAbs) = some e := by
  have hdigits : takeDigits (Nat.toDigits 10 e.natAbs) = (Nat.toDigits 10 e.natAbs, []) := by
    have := takeDigits_append (fun _ => isDecimal_of_mem_toDigits (n := e.natAbs)) ends_nil
    rwa [List.append_nil] at this
  rw [exponent?, if_pos (.inl rfl)]
  have hne : (Nat.toDigits 10 e.natAbs).isEmpty = false := by
    rw [List.isEmpty_eq_false_iff]
    exact Nat.toDigits_ne_nil
  by_cases he : e < 0
  · rw [if_pos he, takeSign]
    dsimp only
    rw [hdigits, hne, if_neg (by simp), if_pos rfl, ofDigits_toDigits]
    exact congrArg some (by omega)
  · rw [if_neg he, takeSign]
    · dsimp only
      rw [hdigits, hne, if_neg (by simp), if_neg Bool.false_ne_true, ofDigits_toDigits]
      exact congrArg some (by omega)

end Decimal

namespace Layout

open Decimal

/-! ### What a layout writes -/

theorem readUnsigned?_positionalDigits (layout : Layout) (d : Decimal) :
    ∃ d', readUnsigned? (layout.positionalDigits d) = some d' ∧ d'.value = d.value := by
  have hdigits : ∀ c ∈ Nat.toDigits 10 d.digits, Text.isDecimal c = true :=
    fun _ => isDecimal_of_mem_toDigits
  have hzeros (k : ℕ) : ∀ c ∈ List.replicate k '0', Text.isDecimal c = true := by
    intro c hc
    rw [List.eq_of_mem_replicate hc]
    rfl
  have hne : Nat.toDigits 10 d.digits ≠ [] := Nat.toDigits_ne_nil
  rw [positionalDigits]
  dsimp only
  split
  · rename_i hplace
    obtain ⟨k, hk⟩ := Int.eq_ofNat_of_zero_le hplace
    have hwhole : ∀ c ∈ Nat.toDigits 10 d.digits ++ List.replicate k '0',
        Text.isDecimal c = true := fun c hc =>
      (List.mem_append.mp hc).elim (hdigits c) (hzeros k c)
    have hwhole_ne : Nat.toDigits 10 d.digits ++ List.replicate k '0' ≠ [] :=
      List.append_ne_nil_of_left_ne_nil hne _
    rw [hk, Int.toNat_natCast]
    cases layout.keepsPoint with
    | true =>
      refine ⟨_, readUnsigned?_fraction hwhole hwhole_ne (hzeros 1), ?_⟩
      have hvalue : ofDigits (Nat.toDigits 10 d.digits ++ List.replicate k '0' ++ ['0']) =
          d.digits * 10 ^ k * 10 := by
        refine (ofDigits_append_zeros _ 1).trans ?_
        rw [ofDigits_append_zeros, ofDigits_toDigits, pow_one]
      rw [hvalue, Decimal.value, Decimal.value, hk, List.length_singleton]
      push_cast
      rw [zpow_neg_one, zpow_natCast, mul_inv_cancel_right₀ (by norm_num)]
    | false =>
      rw [if_neg Bool.false_ne_true, List.append_nil]
      refine ⟨_, readUnsigned?_integer hwhole hwhole_ne, ?_⟩
      rw [ofDigits_append_zeros, ofDigits_toDigits, Decimal.value, Decimal.value, hk]
      push_cast
      rw [mul_one, zpow_natCast]
  · rename_i hplace
    obtain ⟨after, hafter⟩ : ∃ after : ℕ, d.place = -after := ⟨(-d.place).toNat, by omega⟩
    have htoNat : (-d.place).toNat = after := by omega
    have hself : (⟨d.digits, -after⟩ : Decimal) = d := by rw [← hafter]
    refine ⟨d, ?_, rfl⟩
    rw [htoNat]
    split
    · rename_i hinside
      rw [readUnsigned?_fraction (fun c hc => hdigits c (List.mem_of_mem_take hc))
        (List.ne_nil_of_length_pos (by rw [List.length_take]; omega))
        (fun c hc => hdigits c (List.mem_of_mem_drop hc)), List.take_append_drop,
        ofDigits_toDigits, List.length_drop, Nat.sub_sub_self hinside.le, hself]
    · rename_i hbefore
      have hfraction : ∀ c ∈ List.replicate (after - (Nat.toDigits 10 d.digits).length) '0' ++
          Nat.toDigits 10 d.digits, Text.isDecimal c = true := fun c hc =>
        (List.mem_append.mp hc).elim (hzeros _ c) (hdigits c)
      refine (readUnsigned?_fraction (hzeros 1) (List.cons_ne_nil _ _) hfraction).trans ?_
      rw [ofDigits_zeros_append, ofDigits_zeros_append, ofDigits_toDigits, List.length_append,
        List.length_replicate, Nat.sub_add_cancel (Nat.le_of_not_lt hbefore), hself]

theorem readUnsigned?_scientificDigits (d : Decimal) :
    readUnsigned? (scientificDigits d) = some d := by
  have hdigits : ∀ c ∈ Nat.toDigits 10 d.digits, Text.isDecimal c = true :=
    fun _ => isDecimal_of_mem_toDigits
  have hvalue := ofDigits_toDigits d.digits
  have hne : Nat.toDigits 10 d.digits ≠ [] := Nat.toDigits_ne_nil
  have htail (e : ℤ) : Ends ('e' :: (if e < 0 then '-' else '+') :: Nat.toDigits 10 e.natAbs) := by
    rintro c ⟨⟩
    rfl
  rw [scientificDigits]
  generalize Nat.toDigits 10 d.digits = digits at *
  match digits with
  | [] => exact absurd rfl hne
  | [first] =>
    refine (readUnsigned?_whole hdigits hne (htail _) nofun (exponent?_written _)).trans ?_
    rw [hvalue]
    simp
  | first :: second :: rest =>
    have hfirst : ∀ c ∈ [first], Text.isDecimal c = true := by
      rintro c (_ | ⟨_, ⟨⟩⟩)
      exact hdigits first List.mem_cons_self
    have hrest : ∀ c ∈ second :: rest, Text.isDecimal c = true := fun c hc =>
      hdigits c (List.mem_cons_of_mem _ hc)
    refine (readUnsigned?_point hfirst (List.cons_ne_nil _ _) hrest (htail _)
      (exponent?_written _)).trans ?_
    rw [List.singleton_append, hvalue]
    simp

/-- The text begins with a digit. -/
def Opens (text : List Char) : Prop := ∃ c rest, text = c :: rest ∧ Text.isDecimal c = true

theorem opens_append {digits : List Char} (hdigits : ∀ c ∈ digits, Text.isDecimal c = true)
    (hne : digits ≠ []) (rest : List Char) : Opens (digits ++ rest) := by
  cases digits with
  | nil => exact absurd rfl hne
  | cons c digits => exact ⟨c, digits ++ rest, rfl, hdigits c List.mem_cons_self⟩

theorem opens_positionalDigits (layout : Layout) (d : Decimal) :
    Opens (layout.positionalDigits d) := by
  have hdigits : ∀ c ∈ Nat.toDigits 10 d.digits, Text.isDecimal c = true :=
    fun _ => isDecimal_of_mem_toDigits
  have hne : Nat.toDigits 10 d.digits ≠ [] := Nat.toDigits_ne_nil
  rw [positionalDigits]
  dsimp only
  split
  · rw [List.append_assoc]
    exact opens_append hdigits hne _
  · split
    · exact opens_append (fun c hc => hdigits c (List.mem_of_mem_take hc))
        (List.ne_nil_of_length_pos (by rw [List.length_take]; omega)) _
    · exact ⟨'0', _, rfl, rfl⟩

theorem opens_scientificDigits (d : Decimal) : Opens (scientificDigits d) := by
  have hdigits : ∀ c ∈ Nat.toDigits 10 d.digits, Text.isDecimal c = true :=
    fun _ => isDecimal_of_mem_toDigits
  have hne : Nat.toDigits 10 d.digits ≠ [] := Nat.toDigits_ne_nil
  rw [scientificDigits]
  generalize Nat.toDigits 10 d.digits = digits at *
  match digits with
  | [] => exact absurd rfl hne
  | [first] => exact ⟨first, _, rfl, hdigits first List.mem_cons_self⟩
  | first :: second :: rest => exact ⟨first, _, rfl, hdigits first List.mem_cons_self⟩

end Layout

namespace Decimal

theorem toLower_of_isDecimal {c : Char} (h : Text.isDecimal c = true) : c.toLower = c := by
  simp only [Text.isDecimal, Bool.and_eq_true, decide_eq_true_iff] at h
  have hhigh : c.toNat ≤ 57 := UInt32.le_iff_toNat_le.mp h.2
  refine dif_neg fun hupper => ?_
  have hlow : 65 ≤ c.toNat := UInt32.le_iff_toNat_le.mp hupper.1
  omega

/-- A text that begins with a digit is no name and has no sign. -/
theorem parseChars?_of_opens {text : List Char} (h : Layout.Opens text) :
    takeSign text = (false, text) ∧ magnitude? text = (readUnsigned? text).map toFloat := by
  obtain ⟨c, rest, rfl, hc⟩ := h
  have hne (a : Char) (ha : Text.isDecimal a = false) : c ≠ a := by
    rintro rfl
    rw [hc] at ha
    cases ha
  have hspecial : special? (c :: rest) = none := by
    rw [special?, List.map_cons, toLower_of_isDecimal hc]
    split
    · rename_i h
      exact absurd (List.cons.inj h).1 (hne 'i' rfl)
    · rename_i h
      exact absurd (List.cons.inj h).1 (hne 'i' rfl)
    · rename_i h
      exact absurd (List.cons.inj h).1 (hne 'n' rfl)
    · rfl
  constructor
  · rw [takeSign]
    · rintro _ ⟨⟩
      exact hne '-' rfl rfl
    · rintro _ ⟨⟩
      exact hne '+' rfl rfl
  · rw [magnitude?, hspecial, Option.none_or]

/-- The text of a natural number is read as that number. -/
theorem integer?_toString (n : ℕ) : integer? (toString n).toList = some (n : ℤ) := by
  have htext : (toString n).toList = Nat.toDigits 10 n := by
    rw [Nat.toString_eq_repr, Nat.toList_repr]
  have hall (c : Char) (hc : c ∈ Nat.toDigits 10 n) : Text.isDecimal c = true :=
    isDecimal_of_mem_toDigits hc
  obtain ⟨c, rest, hdigits⟩ := List.exists_cons_of_ne_nil (Nat.toDigits_ne_nil (b := 10) (n := n))
  have hopens : Layout.Opens (Nat.toDigits 10 n) :=
    ⟨c, rest, hdigits, hall c (hdigits ▸ List.mem_cons_self)⟩
  rw [integer?, htext, (parseChars?_of_opens hopens).1]
  dsimp only
  rw [List.all_eq_true.mpr hall, ofDigits_toDigits, hdigits]
  rfl

end Decimal

namespace Binary64

theorem sign_eq (x : Float) :
    sign x = if x.toBits.toNat >>> 63 = 1 then .negative else .positive := by
  have htoNat := toNat_unpackSign x.toBits.toBitVec
  rw [sign]
  rcases BitVec.eq_zero_or_eq_one (@unpackSign Format.binary64 x.toBits.toBitVec)
    with h | h
  · rw [h] at htoNat ⊢
    have htoNat : 0 = x.toBits.toNat >>> 63 := htoNat
    rw [← htoNat]
    rfl
  · rw [h] at htoNat ⊢
    have htoNat : 1 = x.toBits.toNat >>> 63 := htoNat
    rw [← htoNat]
    rfl

theorem not_special {x : Float} (hx : x.isFinite = true) : x.isNaN = false ∧ x.isInf = false := by
  have hnan : x.isNaN = x.toModel.unpack.isNaN := rfl
  have hinf : x.isInf = x.toModel.unpack.isInf := rfl
  rw [hnan, hinf]
  rcases unpack_of_isFinite hx with ⟨-, h⟩ | ⟨hb, h⟩
  · rw [h]
    exact ⟨rfl, rfl⟩
  · rw [h]
    exact ⟨rfl, rfl⟩

theorem neg_ofModel_pack {b : Binary} (hb : b.Normal) :
    -Float.ofModel (.pack (.finite .positive b.m b.q hb.pos)) =
      .ofModel (.pack (.finite .negative b.m b.q hb.pos)) := by
  have h := congrArg (fun u => Float.ofModel (.pack (neg u))) (unpack_pack hb .positive)
  exact h

theorem zero_eq : (0.0 : Float) = .ofModel (.pack (.zero .positive)) := by
  decide +kernel

theorem neg_zero_eq : -(0.0 : Float) = .ofModel (.pack (.zero .negative)) := by
  decide +kernel

theorem infinity_eq : (1.0 / 0.0 : Float) = .ofModel (.pack (.infinity .positive)) := by
  decide +kernel

theorem neg_infinity_eq : -(1.0 / 0.0 : Float) = .ofModel (.pack (.infinity .negative)) := by
  decide +kernel

/-- An infinity is told by its sign. -/
theorem eq_of_isInf {x : Float} (hx : x.isInf = true) :
    x = if x.toBits.toNat >>> 63 = 1 then -(1.0 / 0.0) else 1.0 / 0.0 := by
  have hpack := pack_unpack x
  rw [unpack_of_isInf hx, sign_eq] at hpack
  rw [neg_infinity_eq, infinity_eq]
  refine hpack.symm.trans ?_
  split <;> rfl

theorem isFinite_or_isInf {x : Float} (hx : x.isNaN = false) :
    x.isFinite = true ∨ x.isInf = true := by
  have hnan : x.toModel.unpack.isNaN = false := hx
  show x.toModel.unpack.isFinite = true ∨ x.toModel.unpack.isInf = true
  cases h : x.toModel.unpack with
  | notANumber =>
    rw [h] at hnan
    cases hnan
  | infinity s => exact .inr rfl
  | zero s => exact .inl rfl
  | finite s m q hm => exact .inl rfl

end Binary64

namespace Layout

open Decimal

/-- The digits of a magnitude are read as the double without its sign. -/
theorem magnitude?_magnitude (layout : Layout) {x : Float} (hx : x.isFinite = true) :
    Opens (layout.magnitude (Binary.ofFloat x)) ∧
      ∃ y, magnitude? (layout.magnitude (Binary.ofFloat x)) = some y ∧
        (if x.toBits.toNat >>> 63 = 1 then -y else y) = x := by
  have hpack := Binary64.pack_unpack x
  have hsign := Binary64.sign_eq x
  rcases Binary64.unpack_of_isFinite hx with ⟨hm, hunpack⟩ | ⟨hb, hunpack⟩
  · rw [hunpack] at hpack
    have hopens := opens_positionalDigits layout ⟨0, 0⟩
    obtain ⟨d, hread, hvalue⟩ := readUnsigned?_positionalDigits layout ⟨0, 0⟩
    have hzero : d.toFloat = 0.0 := by
      have hpow : (10 : ℚ) ^ d.place ≠ 0 := (zpow_pos (by norm_num) _).ne'
      rw [value, value, Nat.cast_zero, zero_mul, mul_eq_zero, or_iff_left hpow] at hvalue
      rw [toFloat, if_pos (.inl (by exact_mod_cast hvalue))]
    rw [magnitude, if_pos hm]
    refine ⟨hopens, d.toFloat, ?_, ?_⟩
    · rw [(parseChars?_of_opens hopens).2, hread, Option.map_some]
    · rw [hzero, ← hpack, hsign]
      split
      · exact Binary64.neg_zero_eq
      · exact Binary64.zero_eq
  · rw [hunpack] at hpack
    obtain ⟨text, d, htext, hopens, hread, hvalue⟩ : ∃ text d,
        layout.magnitude (Binary.ofFloat x) = text ∧ Opens text ∧
          readUnsigned? text = some d ∧
            d.value = ((Binary.ofFloat x).shortest layout.tieUp).value := by
      rw [magnitude, if_neg hb.pos.ne']
      dsimp only
      split
      · obtain ⟨d, hread, hvalue⟩ := readUnsigned?_positionalDigits layout
          ((Binary.ofFloat x).shortest layout.tieUp)
        exact ⟨_, d, rfl, opens_positionalDigits layout _, hread, hvalue⟩
      · exact ⟨_, _, rfl, opens_scientificDigits _, readUnsigned?_scientificDigits _, rfl⟩
    have hcovers := Binary.covers_shortest hb layout.tieUp
    rw [← hvalue] at hcovers
    rw [htext]
    refine ⟨hopens, d.toFloat, ?_, ?_⟩
    · rw [(parseChars?_of_opens hopens).2, hread, Option.map_some]
    · rw [Rounding.toFloat_eq hb hcovers, Binary64.neg_ofModel_pack hb]
      refine Eq.trans ?_ hpack
      rw [hsign]
      split <;> rfl

/-- **A finite double is read back from the text that a layout writes for it.** -/
theorem parse?_render (layout : Layout) {x : Float} (hx : x.isFinite = true) :
    parse? (layout.render x) = some x := by
  obtain ⟨hopens, y, hread, hy⟩ := magnitude?_magnitude layout hx
  obtain ⟨hnan, hinf⟩ := Binary64.not_special hx
  rw [parse?, render, String.toList_ofList, renderChars, hnan, hinf, if_neg Bool.false_ne_true]
  dsimp only
  rw [if_neg Bool.false_ne_true]
  split at hy
  · rename_i hnegative
    rw [if_pos hnegative, List.singleton_append, parseChars?, takeSign]
    dsimp only
    rw [hread]
    exact congrArg some hy
  · rename_i hpositive
    rw [if_neg hpositive, List.nil_append, parseChars?, (parseChars?_of_opens hopens).1]
    dsimp only
    rw [hread]
    exact congrArg some hy

/-! ### Blanks -/

theorem isDecimal_or_of_mem_positionalDigits {layout : Layout} {d : Decimal} {c : Char}
    (h : c ∈ layout.positionalDigits d) : Text.isDecimal c = true ∨ c = '.' := by
  have hdigits : ∀ c ∈ Nat.toDigits 10 d.digits, Text.isDecimal c = true :=
    fun _ => isDecimal_of_mem_toDigits
  have hzeros (k : ℕ) (hc : c ∈ List.replicate k '0') : Text.isDecimal c = true := by
    rw [List.eq_of_mem_replicate hc]
    rfl
  rw [positionalDigits] at h
  dsimp only at h
  split at h
  · rcases List.mem_append.mp h with h | h
    · exact .inl ((List.mem_append.mp h).elim (hdigits c) (hzeros _))
    · split at h
      · rcases List.mem_cons.mp h with rfl | h
        · exact .inr rfl
        · exact .inl (hzeros 1 h)
      · cases h
  · split at h
    · rcases List.mem_append.mp h with h | h
      · exact .inl (hdigits c (List.mem_of_mem_take h))
      · rcases List.mem_cons.mp h with rfl | h
        · exact .inr rfl
        · exact .inl (hdigits c (List.mem_of_mem_drop h))
    · rcases List.mem_cons.mp h with rfl | h
      · exact .inl rfl
      · rcases List.mem_cons.mp h with rfl | h
        · exact .inr rfl
        · exact .inl ((List.mem_append.mp h).elim (hzeros _) (hdigits c))

theorem not_isBlank_of_isDecimal {c : Char} (h : Text.isDecimal c = true) :
    Text.isBlank c = false := by
  rw [Bool.eq_false_iff]
  intro hblank
  rw [Json.not_isDecimal_of_isBlank hblank] at h
  cases h

/-- The text of a finite double has nothing to trim. -/
theorem trim_render_plain {x : Float} (hx : x.isFinite = true) :
    Text.trim (plain.render x) = plain.render x := by
  have hmagnitude : ∃ d, plain.magnitude (Binary.ofFloat x) = plain.positionalDigits d := by
    rw [magnitude]
    split
    · exact ⟨_, rfl⟩
    · exact ⟨_, if_pos rfl⟩
  obtain ⟨d, hd⟩ := hmagnitude
  obtain ⟨hnan, hinf⟩ := Binary64.not_special hx
  rw [Text.trim, render, String.toList_ofList]
  refine congrArg String.ofList (Text.trimChars_eq_self fun c hc => ?_)
  rw [renderChars, hnan, hinf, if_neg Bool.false_ne_true,
    if_neg Bool.false_ne_true, hd] at hc
  rcases List.mem_append.mp hc with hc | hc
  · split at hc
    · obtain rfl := List.mem_singleton.mp hc
      rfl
    · cases hc
  · rcases isDecimal_or_of_mem_positionalDigits hc with hdecimal | rfl
    · exact not_isBlank_of_isDecimal hdecimal
    · rfl

/-! ### Infinities -/

theorem parse?_trim_render_of_isInf (layout : Layout) {x : Float} (hnan : x.isNaN = false)
    (hx : x.isInf = true) : parse? (Text.trim (layout.render x)) = some x := by
  have hinf := Binary64.eq_of_isInf hx
  rw [render, renderChars, hnan, hx, if_neg Bool.false_ne_true]
  dsimp only
  rw [if_pos rfl]
  split
  · rename_i hnegative
    rw [if_pos hnegative] at hinf
    rw [hinf]
    rfl
  · rename_i hpositive
    rw [if_neg hpositive] at hinf
    rw [hinf]
    rfl

/-- **Every double but the one that is no number is read back.** -/
theorem parse?_trim_render_plain {x : Float} (hx : x.isNaN = false) :
    parse? (Text.trim (plain.render x)) = some x := by
  rcases Binary64.isFinite_or_isInf hx with hfinite | hinf
  · rw [trim_render_plain hfinite, parse?_render plain hfinite]
  · exact parse?_trim_render_of_isInf plain hx hinf

end Layout

end HybridSearch
