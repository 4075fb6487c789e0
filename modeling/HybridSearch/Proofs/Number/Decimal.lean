import HybridSearch.Decimal.Reader
import HybridSearch.Proofs.Number.Binary64

/-!
# The double nearest to a decimal

A decimal is turned into a double by one rounded product or quotient: of integers, or of doubles
that are exact when it has few digits and a small power of ten. Both give the double as which the
decimal reads back.

## Main definitions

* `Decimal.value` — the number that a decimal stands for.

## Main results

* `Rounding.mul_eq`, `Rounding.div_eq` — products and quotients are rounded once.
* `Rounding.toFloat_eq` — the double nearest to a decimal.
-/

namespace HybridSearch

open Float.Model (Format UnpackedFloat totalExponent)
open Float.Model.UnpackedFloat

/-- The number that a decimal stands for. -/
def Decimal.value (d : Decimal) : ℚ := d.digits * 10 ^ d.place

namespace Decimal

theorem lt_pow_length_toDigits (n : ℕ) : n < 10 ^ (Nat.toDigits 10 n).length :=
  (Nat.length_toDigits_le_iff (by norm_num) Nat.length_toDigits_pos).mp le_rfl

theorem pow_length_toDigits_le {n : ℕ} (hn : 0 < n) :
    10 ^ ((Nat.toDigits 10 n).length - 1) ≤ n := by
  by_contra hlt
  have hpos : 0 < (Nat.toDigits 10 n).length - 1 := by
    by_contra h0
    rw [Nat.eq_zero_of_not_pos h0, pow_zero] at hlt
    omega
  have := (Nat.length_toDigits_le_iff (by norm_num) hpos).mpr (Nat.lt_of_not_le hlt)
  omega

/-- A decimal lies between the powers of ten that its first digit is at. -/
theorem value_bounds {d : Decimal} (hd : 0 < d.digits) :
    10 ^ ((Nat.toDigits 10 d.digits).length + d.place - 1) ≤ d.value ∧
      d.value < 10 ^ ((Nat.toDigits 10 d.digits).length + d.place) := by
  have hpow : (0 : ℚ) < 10 ^ d.place := zpow_pos (by norm_num) _
  have hpos : 0 < (Nat.toDigits 10 d.digits).length := Nat.length_toDigits_pos
  constructor
  · have hlow : (10 : ℚ) ^ ((Nat.toDigits 10 d.digits).length - 1) ≤ d.digits := by
      exact_mod_cast pow_length_toDigits_le hd
    calc (10 : ℚ) ^ ((Nat.toDigits 10 d.digits).length + d.place - 1)
        = 10 ^ ((Nat.toDigits 10 d.digits).length - 1) * 10 ^ d.place := by
          rw [← zpow_natCast, ← zpow_add₀ (by norm_num)]
          congr 1
          omega
      _ ≤ d.value := mul_le_mul_of_nonneg_right hlow hpow.le
  · have hhigh : (d.digits : ℚ) < 10 ^ (Nat.toDigits 10 d.digits).length := by
      exact_mod_cast lt_pow_length_toDigits d.digits
    calc d.value < 10 ^ (Nat.toDigits 10 d.digits).length * 10 ^ d.place :=
          mul_lt_mul_of_pos_right hhigh hpow
      _ = _ := by rw [zpow_add₀ (by norm_num), zpow_natCast]

end Decimal

namespace Rounding

variable {b : Binary}

/-! ### Products and quotients -/

/-- The product of the significands stands for that of the numbers. -/
theorem stands_mul (m₁ : ℕ) (e₁ : ℤ) (m₂ : ℕ) (e₂ : ℤ) :
    Stands (.ofMantissaAndAccuracy (m₁ * m₂) .exact)
      (m₁ * 2 ^ e₁ * (m₂ * 2 ^ e₂) / 2 ^ (e₁ + e₂) : ℚ) := by
  show (_ : ℚ) = _
  have hpow : (2 : ℚ) ^ (e₁ + e₂) ≠ 0 := (zpow_pos two_pos _).ne'
  rw [div_eq_iff hpow, zpow_add₀ two_ne_zero]
  push_cast
  exact mul_mul_mul_comm ..

theorem mul_eq (hb : b.Normal) {m₁ m₂ : ℕ} {e₁ e₂ : ℤ} (hm : 2 ^ 52 ≤ m₁ * m₂)
    (hv : b.Covers (m₁ * 2 ^ e₁ * (m₂ * 2 ^ e₂))) (s₁ s₂ : Sign) (h₁ : 0 < m₁) (h₂ : 0 < m₂) :
    mul Format.binary64 (.finite s₁ m₁ e₁ h₁) (.finite s₂ m₂ e₂ h₂) =
      .finite (s₁ * s₂) b.m b.q hb.pos :=
  roundWithAccuracy_eq hb hv (stands_mul m₁ e₁ m₂ e₂) (.inl hm) (s₁ * s₂)

/-- The quotient and the remainder of a division stand for the fraction. -/
theorem stands_div (m : ℕ) {d : ℕ} (hd : 0 < d) :
    Stands (.ofMantissaAndAccuracy (m / d) (accuracyOfFraction (m % d) d)) (m / d : ℚ) := by
  have hd' : (0 : ℚ) < d := by exact_mod_cast hd
  have hlt : ((m % d : ℕ) : ℚ) < d := by exact_mod_cast Nat.mod_lt m hd
  have heq : (m : ℚ) / d = (m / d : ℕ) + ((m % d : ℕ) : ℚ) / d := by
    rw [div_eq_iff hd'.ne', add_mul, div_mul_cancel₀ _ hd'.ne']
    exact_mod_cast (Nat.div_add_mod' m d).symm
  rw [heq]
  generalize m / d = n
  generalize m % d = r at hlt
  unfold accuracyOfFraction
  split
  · simp_all [Stands, ExtendedMantissa.ofMantissaAndAccuracy]
  · rename_i hr
    have hpos : (0 : ℚ) < r / d := by
      have : (0 : ℚ) < r := by exact_mod_cast Nat.pos_of_ne_zero hr
      exact div_pos this hd'
    have hlt : (r : ℚ) / d < 1 := (div_lt_one hd').mpr hlt
    rcases lt_trichotomy (2 * r) d with h | h | h
    · rw [compare_lt_iff_lt.mpr h]
      have h : (r : ℚ) / d < 1 / 2 := by
        rw [div_lt_div_iff₀ hd' two_pos]
        exact_mod_cast (by omega : r * 2 < 1 * d)
      exact ⟨by linarith, by linarith⟩
    · rw [compare_eq_iff_eq.mpr h]
      have h : (r : ℚ) / d = 1 / 2 := by
        rw [div_eq_div_iff hd'.ne' two_ne_zero]
        exact_mod_cast (by omega : r * 2 = 1 * d)
      show (_ : ℚ) = _
      rw [h]
    · rw [compare_gt_iff_gt.mpr h]
      have h : 1 / 2 < (r : ℚ) / d := by
        rw [div_lt_div_iff₀ two_pos hd']
        exact_mod_cast (by omega : 1 * d < r * 2)
      exact ⟨by linarith, by linarith⟩

theorem div_eq (hb : b.Normal) {m₁ m₂ : ℕ} {e₁ e₂ : ℤ} (h₁ : 0 < m₁) (h₂ : 0 < m₂)
    (hv : b.Covers (m₁ * 2 ^ e₁ / (m₂ * 2 ^ e₂))) (s₁ s₂ : Sign) :
    div Format.binary64 (.finite s₁ m₁ e₁ h₁) (.finite s₂ m₂ e₂ h₂) =
      .finite (s₁ / s₂) b.m b.q hb.pos := by
  have htarget : Format.binary64.targetExponent (totalExponent m₁ e₁ - totalExponent m₂ e₂) =
      max ((m₁.log2 : ℤ) + e₁ - (m₂.log2 + e₂) - 53) (-1074) := by
    simp only [Format.targetExponent, totalExponent, Format.mantissaBits, Format.minExponent]
    norm_num
    omega
  rw [div, divCore, htarget]
  dsimp only
  generalize hE : min (e₁ - e₂) (max ((m₁.log2 : ℤ) + e₁ - (m₂.log2 + e₂) - 53) (-1074)) = E
  generalize hk : (e₁ - e₂ - E).toNat = k
  have hE' : e₁ - e₂ = E + k := by omega
  refine roundWithAccuracy_eq hb hv ?_ ?_ (s₁ / s₂)
  · have hvalue : (m₁ * 2 ^ e₁ / (m₂ * 2 ^ e₂) / 2 ^ E : ℚ) = (m₁ <<< k : ℕ) / m₂ := by
      have he₁ : (2 : ℚ) ^ e₁ = 2 ^ e₂ * 2 ^ E * 2 ^ k := by
        rw [← zpow_natCast, ← zpow_add₀ two_ne_zero, ← zpow_add₀ two_ne_zero]
        congr 1
        omega
      have h₂' : (m₂ : ℚ) ≠ 0 := by exact_mod_cast h₂.ne'
      rw [he₁, Nat.shiftLeft_eq]
      push_cast
      field_simp
    rw [hvalue]
    exact stands_div _ h₂
  · by_cases hleast : E ≤ -1074
    · exact .inr hleast
    left
    rw [Nat.le_div_iff_mul_le h₂, Nat.shiftLeft_eq]
    have hpower : m₂.log2 + 53 ≤ m₁.log2 + k := by omega
    calc 2 ^ 52 * m₂ ≤ 2 ^ 52 * 2 ^ (m₂.log2 + 1) :=
          Nat.mul_le_mul_left _ Nat.lt_log2_self.le
      _ = 2 ^ (m₂.log2 + 53) := by rw [← Nat.pow_add]; congr 1; omega
      _ ≤ 2 ^ (m₁.log2 + k) := Nat.pow_le_pow_right two_pos hpower
      _ = 2 ^ m₁.log2 * 2 ^ k := Nat.pow_add ..
      _ ≤ m₁ * 2 ^ k := Nat.mul_le_mul_right _ (Nat.log2_self_le h₁.ne')

/-- A natural number of few bits is a double itself. -/
theorem ofNat_eq {n : ℕ} (h0 : 0 < n) (hn : n < 2 ^ 53) :
    ∃ (b : Binary) (hb : b.Normal), 2 ^ 52 ≤ b.m ∧ (b.m : ℚ) * 2 ^ b.q = n ∧
      ofNat Format.binary64 n = .finite .positive b.m b.q hb.pos := by
  have hlog : n.log2 ≤ 52 := Nat.lt_succ_iff.mp ((Nat.log2_lt h0.ne').mpr hn)
  have hlow : 2 ^ 52 ≤ n * 2 ^ (52 - n.log2) := by
    calc 2 ^ 52 = 2 ^ n.log2 * 2 ^ (52 - n.log2) := by
          rw [← Nat.pow_add, Nat.add_sub_cancel' hlog]
      _ ≤ n * 2 ^ (52 - n.log2) := Nat.mul_le_mul_right _ (Nat.log2_self_le h0.ne')
  have hhigh : n * 2 ^ (52 - n.log2) < 2 ^ 53 := by
    calc n * 2 ^ (52 - n.log2) < 2 ^ (n.log2 + 1) * 2 ^ (52 - n.log2) :=
          Nat.mul_lt_mul_of_pos_right Nat.lt_log2_self (Nat.two_pow_pos _)
      _ = 2 ^ 53 := by rw [← Nat.pow_add]; congr 1; omega
  let b : Binary := ⟨n * 2 ^ (52 - n.log2), -(52 - n.log2 : ℕ), n * 2 ^ (52 - n.log2) = 2 ^ 52⟩
  have hb : b.Normal := by
    refine .of_full hlow hhigh (by omega) (by omega) ?_
    rw [decide_eq_true_iff]
    exact (and_iff_left (by omega)).symm
  have hvalue : (b.m : ℚ) * 2 ^ b.q = n := by
    show ((n * 2 ^ (52 - n.log2) : ℕ) : ℚ) * 2 ^ (-(52 - n.log2 : ℕ) : ℤ) = n
    rw [zpow_neg, zpow_natCast]
    push_cast
    field_simp
  refine ⟨b, hb, hlow, hvalue, ?_⟩
  have hround : ofNat Format.binary64 n = round Format.binary64 .positive n 0 := by
    have hgt : compare (n : ℤ) 0 = .gt := compare_gt_iff_gt.mpr (by exact_mod_cast h0)
    simp only [ofNat, ofInt, UnpackedFloat.normalize, hgt, Int.toNat_natCast]
  have hshift : (0 - Format.binary64.targetExponent (totalExponent n 0)).toNat =
      52 - n.log2 := by
    rw [targetExponent_eq]
    omega
  rw [hround]
  simp only [UnpackedFloat.round, decreaseExponent, hshift, Nat.shiftLeft_eq]
  rw [zero_sub]
  refine roundWithAccuracy_eq hb (v := n) ?_ ?_ (.inl hlow) .positive
  · rw [← hvalue]
    exact b.covers_self
  · rw [← hvalue]
    show (_ : ℚ) = _
    exact mul_div_cancel_right₀ _ (zpow_pos two_pos _).ne'

/-! ### Powers of ten -/

/-- The unpacked double is this power of ten. -/
def isPowerOfTen (e : ℕ) : UnpackedFloat → Bool
  | .finite .positive m q _ => 2 ^ 52 ≤ m && -52 ≤ q && m * 2 ^ (q + 52).toNat == 10 ^ e * 2 ^ 52
  | _ => false

theorem isPowerOfTen_table : ∀ e : Fin 23,
    isPowerOfTen e (Float.exactlyRepresentablePowersOfTen[e]).toModel.unpack = true := by
  decide +kernel

theorem exists_of_isPowerOfTen {e : ℕ} {u : UnpackedFloat} (h : isPowerOfTen e u = true) :
    ∃ (m : ℕ) (q : ℤ) (h : 0 < m), u = .finite .positive m q h ∧
      2 ^ 52 ≤ m ∧ (m : ℚ) * 2 ^ q = 10 ^ e := by
  match u with
  | .finite .positive m q hm =>
    simp only [isPowerOfTen, Bool.and_eq_true, decide_eq_true_iff, beq_iff_eq] at h
    obtain ⟨⟨hfull, hleast⟩, hvalue⟩ := h
    refine ⟨m, q, hm, rfl, hfull, ?_⟩
    obtain ⟨k, hk⟩ : ∃ k : ℕ, q = k - 52 := ⟨(q + 52).toNat, by omega⟩
    rw [hk, sub_add_cancel, Int.toNat_natCast] at hvalue
    rw [hk, zpow_sub₀ two_ne_zero, zpow_natCast, ← mul_div_assoc,
      div_eq_iff (zpow_pos two_pos _).ne']
    exact_mod_cast hvalue

theorem exists_powerOfTen {e : ℕ} (he : e ≤ 22)
    (hsize : e < Float.exactlyRepresentablePowersOfTen.size) : ∃ (m : ℕ) (q : ℤ) (h : 0 < m),
      (Float.exactlyRepresentablePowersOfTen[e]).toModel.unpack = .finite .positive m q h ∧
        2 ^ 52 ≤ m ∧ (m : ℚ) * 2 ^ q = 10 ^ e :=
  exists_of_isPowerOfTen (isPowerOfTen_table ⟨e, by omega⟩)

/-! ### The double nearest to a decimal -/

theorem two_pow_lt_ten_pow : (2 : ℚ) ^ (1024 : ℤ) < 10 ^ (309 : ℤ) := by
  have h : 2 ^ 1024 < 10 ^ 309 := by decide +kernel
  exact_mod_cast h

theorem ten_pow_lt_two_pow : (10 : ℚ) ^ (-324 : ℤ) < 2 ^ (-1075 : ℤ) := by
  have h : 2 ^ 1075 < 10 ^ 324 := by decide +kernel
  rw [zpow_neg, zpow_neg]
  refine inv_strictAnti₀ (zpow_pos two_pos _) ?_
  exact_mod_cast h

/-- What reads back as a double lies far inside the powers of ten that are computed. -/
theorem between_of_covers (hb : b.Normal) {v : ℚ} (hv : b.Covers v) :
    10 ^ (-324 : ℤ) < v ∧ v < 10 ^ (309 : ℤ) := by
  have hpow : (0 : ℚ) < 2 ^ b.q := zpow_pos two_pos _
  have hgap : (if b.closeBelow then (1 / 4 : ℚ) else 1 / 2) ≤ 1 / 2 := by
    split <;> norm_num
  obtain ⟨hlow, hhigh⟩ := hv.bounds
  have hone : (1 : ℚ) ≤ b.m := by exact_mod_cast hb.pos
  have hm : (b.m : ℚ) + 1 ≤ 2 ^ 53 := by exact_mod_cast hb.lt
  have hlow : 1 / 2 * 2 ^ b.q ≤ v := by
    rw [← le_div_iff₀ hpow]
    linarith
  have hhigh : v < 2 ^ 53 * 2 ^ b.q := by
    rw [← div_lt_iff₀ hpow]
    linarith
  constructor
  · calc (10 : ℚ) ^ (-324 : ℤ) < 2 ^ (-1075 : ℤ) := ten_pow_lt_two_pow
      _ ≤ 2 ^ (b.q - 1) := zpow_le_zpow_right₀ one_le_two (by linarith [hb.least])
      _ = 1 / 2 * 2 ^ b.q := by
        rw [zpow_sub_one₀ two_ne_zero, one_div, mul_comm]
      _ ≤ v := hlow
  · calc v < 2 ^ 53 * 2 ^ b.q := hhigh
      _ = 2 ^ (53 + b.q) := by
        rw [zpow_add₀ two_ne_zero]
        rfl
      _ ≤ 2 ^ (1024 : ℤ) := zpow_le_zpow_right₀ one_le_two (by linarith [hb.greatest])
      _ < 10 ^ (309 : ℤ) := two_pow_lt_ten_pow

variable {d : Decimal}

theorem value_of_nonneg (h : 0 ≤ d.place) : d.value = d.digits * 10 ^ d.place.natAbs := by
  rw [Decimal.value, ← zpow_natCast, Int.natAbs_of_nonneg h]

theorem value_of_neg (h : d.place < 0) : d.value = d.digits / 10 ^ d.place.natAbs := by
  rw [Decimal.value, ← zpow_natCast, Int.ofNat_natAbs_of_nonpos h.le, zpow_neg, div_inv_eq_mul]

/-- Few digits and a small power of ten are doubles, and their product or quotient is rounded
once. -/
theorem ofScientific_small (hb : b.Normal) (hd : 0 < d.digits) (hv : b.Covers d.value)
    (h : d.digits < 2 ^ 53 ∧ d.place.natAbs ≤ 22) :
    Float.ofScientific d.digits (d.place < 0) d.place.natAbs =
      .ofModel (.pack (.finite .positive b.m b.q hb.pos)) := by
  obtain ⟨c, hc, hfull, hvalue, hround⟩ := ofNat_eq hd h.1
  obtain ⟨m, q, hm, hpower, -, hvalue'⟩ := exists_powerOfTen h.2 (Nat.lt_succ_of_le h.2)
  have hdigits : d.digits.toUInt64.toFloat.toModel.unpack =
      .finite .positive c.m c.q hc.pos := by
    have htoNat : d.digits.toUInt64.toNat = d.digits := by
      rw [Nat.toUInt64, UInt64.toNat_ofNat']
      omega
    show UnpackedFloat.unpack Format.binary64 (UnpackedFloat.pack Format.binary64
      (ofNat Format.binary64 d.digits.toUInt64.toNat)) = _
    rw [htoNat, hround]
    exact Binary64.unpack_pack hc .positive
  rw [Float.ofScientific, dif_pos h]
  by_cases hplace : d.place < 0
  · rw [value_of_neg hplace, ← hvalue, ← hvalue'] at hv
    rw [decide_eq_true hplace, if_pos rfl]
    refine congrArg (fun u => Float.ofModel (.pack u)) ?_
    exact (congrArg₂ (div Format.binary64) hdigits hpower).trans (div_eq hb hc.pos hm hv _ _)
  · rw [value_of_nonneg (by omega), ← hvalue, ← hvalue'] at hv
    rw [decide_eq_false hplace, if_neg Bool.false_ne_true]
    refine congrArg (fun u => Float.ofModel (.pack u)) ?_
    have hfull : 2 ^ 52 ≤ c.m * m := hfull.trans (Nat.le_mul_of_pos_right _ hm)
    exact (congrArg₂ (mul Format.binary64) hdigits hpower).trans
      (mul_eq hb hfull hv _ _ hc.pos hm)

/-- Other decimals are computed as one product or quotient of integers. -/
theorem ofScientific_large (hb : b.Normal) (hd : 0 < d.digits) (hv : b.Covers d.value) :
    UnpackedFloat.ofScientific Format.binary64 d.digits d.place =
      .finite .positive b.m b.q hb.pos := by
  have hd' : (1 : ℚ) ≤ d.digits := by exact_mod_cast hd
  obtain ⟨hlow, hhigh⟩ := between_of_covers hb hv
  have hpow : (0 : ℚ) < 10 ^ d.place := zpow_pos (by norm_num) _
  have hupper : d.place < 309 := by
    refine (zpow_lt_zpow_iff_right₀ (by norm_num : (1 : ℚ) < 10)).mp (lt_of_le_of_lt ?_ hhigh)
    exact le_mul_of_one_le_left hpow.le hd'
  have hlower : -324 < d.digits.log2 + 1 + d.place := by
    refine (zpow_lt_zpow_iff_right₀ (by norm_num : (1 : ℚ) < 10)).mp (hlow.trans_le ?_)
    have hdigits : (d.digits : ℚ) ≤ 10 ^ (d.digits.log2 + 1) := by
      have : d.digits < 10 ^ (d.digits.log2 + 1) :=
        Nat.lt_log2_self.trans_le (Nat.pow_le_pow_left (by norm_num) _)
      exact_mod_cast this.le
    calc d.value ≤ 10 ^ (d.digits.log2 + 1) * 10 ^ d.place :=
          mul_le_mul_of_nonneg_right hdigits hpow.le
      _ = 10 ^ ((d.digits.log2 : ℤ) + 1 + d.place) := by
        rw [zpow_add₀ (by norm_num), ← zpow_natCast]
        push_cast
        rfl
  rw [UnpackedFloat.ofScientific, dif_neg hd.ne', if_neg (by norm_num; omega),
    if_neg (by norm_num; omega)]
  have hten (n : ℕ) : 0 < 10 ^ n := Nat.pow_pos (by norm_num)
  split
  · rename_i hplace
    have hnat : d.place.toNat = d.place.natAbs := by omega
    rw [value_of_nonneg hplace] at hv
    refine mul_eq hb ?_ ?_ .positive .positive _ _
    · rw [Nat.shiftLeft_eq]
      calc 2 ^ 52 ≤ 1 * 2 ^ 53 * 1 := by norm_num
        _ ≤ d.digits * 2 ^ 53 * 10 ^ d.place.toNat := by
          exact Nat.mul_le_mul (Nat.mul_le_mul_right _ hd) (hten _)
    · convert hv using 1
      rw [Nat.shiftLeft_eq, hnat, zpow_zero, mul_one]
      show ((d.digits * 2 ^ 53 : ℕ) : ℚ) * 2 ^ (-53 : ℤ) * ((10 ^ _ : ℕ) : ℚ) = _
      rw [zpow_neg]
      push_cast
      rw [mul_inv_cancel_right₀ (by norm_num)]
  · rename_i hplace
    have hnat : (-d.place).toNat = d.place.natAbs := by omega
    rw [value_of_neg (by omega)] at hv
    refine div_eq hb hd (hten _) ?_ .positive .positive
    convert hv using 1
    rw [hnat, zpow_zero, mul_one, mul_one]
    push_cast
    rfl

/-- What reads back as a double is turned into it. -/
theorem ofScientific_eq (hb : b.Normal) (hd : 0 < d.digits) (hv : b.Covers d.value) :
    Float.ofScientific d.digits (d.place < 0) d.place.natAbs =
      .ofModel (.pack (.finite .positive b.m b.q hb.pos)) := by
  by_cases hsmall : d.digits < 2 ^ 53 ∧ d.place.natAbs ≤ 22
  · exact ofScientific_small hb hd hv hsmall
  · have hplace : (if decide (d.place < 0) = true then Int.negOfNat d.place.natAbs
        else Int.ofNat d.place.natAbs) = d.place := by
      by_cases h : d.place < 0
      · rw [decide_eq_true h, if_pos rfl, Int.negOfNat_eq]
        exact (Int.eq_neg_natAbs_of_nonpos h.le).symm
      · rw [decide_eq_false h, if_neg Bool.false_ne_true]
        exact Int.natAbs_of_nonneg (by omega)
    rw [Float.ofScientific, dif_neg hsmall, ← ofScientific_large hb hd hv]
    simp only [hplace]
    rfl

/-- **The double nearest to a decimal** is the one as which the decimal reads back. -/
theorem toFloat_eq (hb : b.Normal) (hv : b.Covers d.value) :
    d.toFloat = .ofModel (.pack (.finite .positive b.m b.q hb.pos)) := by
  obtain ⟨hlow, hhigh⟩ := between_of_covers hb hv
  have hten : (1 : ℚ) < 10 := by norm_num
  have hd : 0 < d.digits := by
    refine Nat.pos_of_ne_zero fun h0 => ?_
    rw [Decimal.value, h0, Nat.cast_zero, zero_mul] at hlow
    exact hlow.not_gt (zpow_pos (by norm_num) _)
  obtain ⟨hfirst, hlast⟩ := Decimal.value_bounds hd
  have hlower := (zpow_lt_zpow_iff_right₀ hten).mp (hlow.trans hlast)
  have hupper := (zpow_lt_zpow_iff_right₀ hten).mp (hfirst.trans_lt hhigh)
  rw [Decimal.toFloat, if_neg (by omega), if_neg (by omega)]
  exact ofScientific_eq hb hd hv

end Rounding

end HybridSearch
