import HybridSearch.Decimal.Shortest
import Mathlib

/-!
# Rounding to a double

A mantissa with two residual bits stands for a rational number: the mantissa is its integral part,
the bits place its fractional part against one half. Shifting keeps that, so that rounding finds
the nearest integer. A number between the midpoints to the neighbours of a double is therefore
rounded to that double, also when it lies in the range of the exponent below.

## Main definitions

* `Rounding.Stands` — the number that a mantissa with its residual bits stands for.
* `Binary.Normal` — significands and exponents of positive doubles.
* `Binary.Covers` — the numbers that read back as a double.

## Main results

* `Rounding.roundWithAccuracy_eq` — what reads back as a double is rounded to it.
-/

namespace HybridSearch

open Float.Model (Format UnpackedFloat totalExponent)
open Float.Model.UnpackedFloat

namespace Rounding

/-- The natural number nearest to `v`, the even one of two equally near ones. -/
def Near (v : ℚ) (n : ℕ) : Prop := |v - n| < 1 / 2 ∨ |v - n| = 1 / 2 ∧ n % 2 = 0

/-- The value of a mantissa with its two residual bits. -/
def Stands : ExtendedMantissa → ℚ → Prop
  | ⟨n, false, false⟩, v => v = n
  | ⟨n, false, true⟩, v => n < v ∧ v < n + 1 / 2
  | ⟨n, true, false⟩, v => v = n + 1 / 2
  | ⟨n, true, true⟩, v => n + 1 / 2 < v ∧ v < n + 1

theorem Stands.bounds {em : ExtendedMantissa} {v : ℚ} (h : Stands em v) :
    em.mantissa ≤ v ∧ v < em.mantissa + 1 := by
  obtain ⟨n, r, s⟩ := em
  cases r <;> cases s <;> simp only [Stands] at h ⊢ <;> constructor <;> linarith

theorem Stands.shiftRightOne {em : ExtendedMantissa} {v : ℚ} (h : Stands em v) :
    Stands em.shiftRightOne (v / 2) := by
  obtain ⟨n, r, s⟩ := em
  obtain ⟨k, rfl | rfl⟩ := Nat.even_or_odd' n
  · have hdiv : 2 * k / 2 = k := by omega
    have hmod : (2 * k % 2 != 0) = false := by simp
    simp only [ExtendedMantissa.shiftRightOne, hdiv, hmod]
    cases r <;> cases s <;> simp only [Stands, Bool.or_false, Bool.or_true] at h ⊢ <;>
      push_cast at h ⊢ <;> first | (constructor <;> linarith) | linarith
  · have hdiv : (2 * k + 1) / 2 = k := by omega
    have hmod : ((2 * k + 1) % 2 != 0) = true := by simp
    simp only [ExtendedMantissa.shiftRightOne, hdiv, hmod]
    cases r <;> cases s <;> simp only [Stands, Bool.or_false, Bool.or_true] at h ⊢ <;>
      push_cast at h ⊢ <;> first | (constructor <;> linarith) | linarith

theorem Stands.shiftRight {em : ExtendedMantissa} {v : ℚ} (h : Stands em v) (k : ℕ) :
    Stands (em >>> k) (v / 2 ^ k) := by
  induction k with
  | zero => rwa [pow_zero, div_one]
  | succ k ih =>
    rw [pow_succ, ← div_div]
    exact ih.shiftRightOne

theorem Stands.roundedMantissa_eq {em : ExtendedMantissa} {v : ℚ} {n : ℕ} (h : Stands em v)
    (hn : Near v n) : em.roundedMantissa = n := by
  have hle : |v - n| ≤ 1 / 2 := hn.elim le_of_lt fun h => h.1.le
  obtain ⟨hlow, hhigh⟩ := abs_le.mp hle
  obtain ⟨k, r, s⟩ := em
  have between {a b : ℕ} (h₁ : (a : ℚ) < b + 1) (h₂ : (b : ℚ) < a + 1) : a = b := by
    have h₁ : a < b + 1 := by exact_mod_cast h₁
    have h₂ : b < a + 1 := by exact_mod_cast h₂
    omega
  cases r with
  | false =>
    cases s with
    | false =>
      simp only [Stands] at h
      show k = n
      exact between (by linarith) (by linarith)
    | true =>
      simp only [Stands] at h
      show k = n
      exact between (by linarith) (by linarith)
  | true =>
    cases s with
    | false =>
      simp only [Stands] at h
      show k + k % 2 = n
      have h₁ : n < k + 2 := by
        have : (n : ℚ) < k + 2 := by linarith
        exact_mod_cast this
      have h₂ : k < n + 1 := by
        have : (k : ℚ) < n + 1 := by linarith
        exact_mod_cast this
      have heven : n % 2 = 0 := by
        refine (hn.resolve_left fun hlt => ?_).2
        rw [abs_lt] at hlt
        have h₃ : (k : ℚ) < n := by linarith
        have h₄ : (n : ℚ) < k + 1 := by linarith
        have h₃ : k < n := by exact_mod_cast h₃
        have h₄ : n < k + 1 := by exact_mod_cast h₄
        omega
      omega
    | true =>
      simp only [Stands] at h
      show k + 1 = n
      exact between (by push_cast; linarith) (by push_cast; linarith)

/-! ### The target exponent -/

theorem targetExponent_eq (M : ℕ) (E : ℤ) :
    Format.binary64.targetExponent (totalExponent M E) = max (M.log2 + E - 52) (-1074) := by
  simp only [Format.targetExponent, totalExponent, Format.mantissaBits, Format.minExponent]
  norm_num
  omega

theorem mantissa_ofMantissaAndAccuracy (M : ℕ) (acc : Accuracy) :
    (ExtendedMantissa.ofMantissaAndAccuracy M acc).mantissa = M := by
  cases acc with
  | exact => rfl
  | inexact o => cases o <;> rfl

/-- The exponent to which a value is shifted is at least that of its mantissa, if that has all
bits or the least exponent. Unless it is the least one, the value has all digits of a
significand. -/
theorem targetExponent_bounds {M : ℕ} {E : ℤ} {acc : Accuracy} {v : ℚ}
    (hM : Stands (.ofMantissaAndAccuracy M acc) (v / 2 ^ E)) (hE : 2 ^ 52 ≤ M ∨ E ≤ -1074) :
    let t := Format.binary64.targetExponent (totalExponent M E)
    E ≤ t ∧ -1074 ≤ t ∧ v < 2 ^ (t + 53) ∧ (t = -1074 ∨ 2 ^ (t + 52) ≤ v) := by
  rw [targetExponent_eq]
  have hpow : (0 : ℚ) < 2 ^ E := zpow_pos two_pos E
  obtain ⟨hlow, hhigh⟩ := hM.bounds
  rw [mantissa_ofMantissaAndAccuracy] at hlow hhigh
  rw [le_div_iff₀ hpow] at hlow
  rw [div_lt_iff₀ hpow] at hhigh
  have hlog : 2 ^ 52 ≤ M → 52 ≤ M.log2 := fun h =>
    (Nat.le_log2 (by omega)).mpr h
  refine ⟨?_, le_max_right _ _, ?_, ?_⟩
  · rcases hE with hE | hE
    · have := hlog hE
      omega
    · omega
  · have hM' : ((M + 1 : ℕ) : ℚ) ≤ 2 ^ (M.log2 + 1) := by
      exact_mod_cast Nat.lt_log2_self (n := M)
    calc v < (M + 1) * 2 ^ E := hhigh
      _ ≤ 2 ^ (M.log2 + 1) * 2 ^ E := by
        push_cast at hM'
        exact mul_le_mul_of_nonneg_right hM' hpow.le
      _ = 2 ^ ((M.log2 : ℤ) + 1 + E) := by
        rw [zpow_add₀ two_ne_zero, zpow_add₀ two_ne_zero, pow_succ]
        simp
      _ ≤ _ := zpow_le_zpow_right₀ one_le_two (by omega)
  · by_cases hmin : max ((M.log2 : ℤ) + E - 52) (-1074) = -1074
    · exact .inl hmin
    have hfull : 2 ^ 52 ≤ M := by
      rcases hE with hE | hE
      · exact hE
      · by_contra hlt
        have hlt : M.log2 < 52 ∨ M = 0 := by
          by_cases h0 : M = 0
          · exact .inr h0
          · exact .inl ((Nat.log2_lt h0).mpr (by omega))
        rcases hlt with hlt | rfl
        · omega
        · rw [Nat.log2_zero] at hmin
          omega
    have hM' : (2 : ℚ) ^ M.log2 ≤ M := by
      exact_mod_cast Nat.log2_self_le (n := M) (by omega)
    right
    calc (2 : ℚ) ^ (max ((M.log2 : ℤ) + E - 52) (-1074) + 52) = 2 ^ ((M.log2 : ℤ) + E) := by
          congr 1
          omega
      _ = 2 ^ M.log2 * 2 ^ E := by rw [zpow_add₀ two_ne_zero, zpow_natCast]
      _ ≤ M * 2 ^ E := mul_le_mul_of_nonneg_right hM' hpow.le
      _ ≤ v := hlow

theorem shiftToTargetExponent_of_lt {m : ℕ} {q : ℤ} (hm : m < 2 ^ 53) (hq : -1074 ≤ q) :
    shiftToTargetExponent Format.binary64 m q .exact = (⟨m, false, false⟩, q) := by
  have hlog : m.log2 ≤ 52 := by
    by_cases h0 : m = 0
    · rw [h0, Nat.log2_zero]
      omega
    · exact Nat.lt_succ_iff.mp ((Nat.log2_lt h0).mpr hm)
  have hshift : (Format.binary64.targetExponent (totalExponent m q) - q).toNat = 0 := by
    rw [targetExponent_eq]
    omega
  simp only [shiftToTargetExponent, shiftToExponent, hshift, Int.ofNat_zero, add_zero]
  rfl

theorem shiftToTargetExponent_two_pow {q : ℤ} (hq : -1074 ≤ q) :
    shiftToTargetExponent Format.binary64 (2 ^ 53) q .exact = (⟨2 ^ 52, false, false⟩, q + 1) := by
  have hshift : (Format.binary64.targetExponent (totalExponent (2 ^ 53) q) - q).toNat = 1 := by
    rw [targetExponent_eq, Nat.log2_two_pow]
    omega
  simp only [shiftToTargetExponent, shiftToExponent, hshift]
  rfl

end Rounding

/-! ### Doubles and the numbers that read back as them -/

namespace Binary

/-- The significand and the exponent are those of a positive double. -/
structure Normal (b : Binary) : Prop where
  pos : 0 < b.m
  lt : b.m < 2 ^ 53
  least : -1074 ≤ b.q
  greatest : b.q ≤ 971
  full : b.q = -1074 ∨ 2 ^ 52 ≤ b.m
  closeBelow_iff : b.closeBelow = true ↔ b.m = 2 ^ 52 ∧ -1074 < b.q

/-- A significand with all its digits, and an exponent in range. -/
theorem Normal.of_full {m : ℕ} {q : ℤ} {closeBelow : Bool} (hfull : 2 ^ 52 ≤ m) (hlt : m < 2 ^ 53)
    (hleast : -1074 ≤ q) (hgreatest : q ≤ 971)
    (hclose : closeBelow = true ↔ m = 2 ^ 52 ∧ -1074 < q) : Normal ⟨m, q, closeBelow⟩ :=
  ⟨Nat.lt_of_lt_of_le (Nat.two_pow_pos 52) hfull, hlt, hleast, hgreatest, .inr hfull, hclose⟩

/-- The number lies between the midpoints to the neighbours of `b`, in units of its exponent. -/
def Covers (b : Binary) (v : ℚ) : Prop :=
  let low : ℚ := b.m - if b.closeBelow then 1 / 4 else 1 / 2
  let high : ℚ := b.m + 1 / 2
  if b.m % 2 = 0 then low ≤ v / 2 ^ b.q ∧ v / 2 ^ b.q ≤ high
  else low < v / 2 ^ b.q ∧ v / 2 ^ b.q < high

variable {b : Binary} {v : ℚ}

theorem Covers.bounds (h : b.Covers v) :
    (b.m : ℚ) - (if b.closeBelow then 1 / 4 else 1 / 2) ≤ v / 2 ^ b.q ∧
      v / 2 ^ b.q ≤ b.m + 1 / 2 := by
  unfold Covers at h
  dsimp only at h
  split at h
  · exact h
  · exact ⟨h.1.le, h.2.le⟩

/-- A double reads back as itself. -/
theorem covers_self (b : Binary) : b.Covers (b.m * 2 ^ b.q) := by
  have hgap : (0 : ℚ) < if b.closeBelow then 1 / 4 else 1 / 2 := by
    split <;> norm_num
  unfold Covers
  rw [mul_div_cancel_right₀ _ (zpow_pos two_pos _).ne']
  dsimp only
  split
  · constructor <;> linarith
  · constructor <;> linarith

theorem Covers.near (h : b.Covers v) : Rounding.Near (v / 2 ^ b.q) b.m := by
  have hgap : (if b.closeBelow then (1 / 4 : ℚ) else 1 / 2) ≤ 1 / 2 := by
    split <;> norm_num
  have hle : |v / 2 ^ b.q - b.m| ≤ 1 / 2 :=
    abs_le.mpr ⟨by linarith [h.bounds.1], by linarith [h.bounds.2]⟩
  rcases hle.lt_or_eq with hlt | heq
  · exact .inl hlt
  · refine .inr ⟨heq, ?_⟩
    by_contra hodd
    unfold Covers at h
    dsimp only at h
    rw [if_neg hodd] at h
    exact absurd heq (abs_lt.mpr ⟨by linarith [h.1], by linarith [h.2]⟩).ne

end Binary

namespace Rounding

variable {b : Binary} {v : ℚ}

/-- The exponent to which a number is shifted that reads back as `b`: that of `b`, or the one
below if the number lies below the least significand with all its digits. -/
theorem targetExponent_of_covers (hb : b.Normal) (hv : b.Covers v) {t : ℤ} (ht : -1074 ≤ t)
    (hlt : v < 2 ^ (t + 53)) (hle : t = -1074 ∨ 2 ^ (t + 52) ≤ v) :
    t = b.q ∨ t = b.q - 1 ∧ b.m = 2 ^ 52 ∧ v / 2 ^ b.q < 2 ^ 52 := by
  have hpow : (0 : ℚ) < 2 ^ b.q := zpow_pos two_pos _
  have hgap : (if b.closeBelow then (1 / 4 : ℚ) else 1 / 2) ≤ 1 / 2 := by
    split <;> norm_num
  obtain ⟨hlow, hhigh⟩ := hv.bounds
  have hm : (b.m : ℚ) + 1 ≤ 2 ^ 53 := by exact_mod_cast hb.lt
  have scale (n : ℕ) : (2 : ℚ) ^ (b.q + n) = 2 ^ n * 2 ^ b.q := by
    rw [zpow_add₀ two_ne_zero, zpow_natCast, mul_comm]
  have hupper : t ≤ b.q := by
    rcases hle with rfl | hle
    · exact hb.least
    · have hv : v < 2 ^ (b.q + (53 : ℕ)) := by
        rw [scale, ← div_lt_iff₀ hpow]
        linarith
      have := (zpow_lt_zpow_iff_right₀ (one_lt_two (α := ℚ))).mp (hle.trans_lt hv)
      omega
  rcases hupper.lt_or_eq with hlow' | heq
  · right
    have hfull : (2 : ℚ) ^ 52 ≤ b.m := by
      exact_mod_cast hb.full.resolve_left (by omega)
    have hlower : b.q - 1 ≤ t := by
      have hv : 2 ^ (b.q + (51 : ℕ)) ≤ v := by
        rw [scale, ← le_div_iff₀ hpow]
        linarith
      have := (zpow_lt_zpow_iff_right₀ (one_lt_two (α := ℚ))).mp (hv.trans_lt hlt)
      omega
    have ht : t = b.q - 1 := by omega
    have hsmall : v / 2 ^ b.q < 2 ^ 52 := by
      rw [div_lt_iff₀ hpow, ← scale]
      exact hlt.trans_eq (congrArg _ (by push_cast; omega))
    have hleast : b.m < 2 ^ 52 + 1 := by
      have : (b.m : ℚ) < 2 ^ 52 + 1 := by linarith
      exact_mod_cast this
    have hmost : 2 ^ 52 ≤ b.m := by exact_mod_cast hfull
    exact ⟨ht, by omega, hsmall⟩
  · exact .inl heq

/-- A number is rounded to the double as which it reads back. -/
theorem roundWithAccuracy_eq (hb : b.Normal) (hv : b.Covers v) {M : ℕ} {E : ℤ} {acc : Accuracy}
    (hM : Stands (.ofMantissaAndAccuracy M acc) (v / 2 ^ E)) (hE : 2 ^ 52 ≤ M ∨ E ≤ -1074)
    (s : Sign) :
    roundWithAccuracy Format.binary64 s M E acc = .finite s b.m b.q hb.pos := by
  obtain ⟨hEt, ht, hlt, hle⟩ := targetExponent_bounds hM hE
  have htarget := targetExponent_of_covers hb hv ht hlt hle
  generalize hteq : Format.binary64.targetExponent (totalExponent M E) = t at *
  have hshift : E + ((t - E).toNat : ℤ) = t := by omega
  have hstands : Stands (ExtendedMantissa.ofMantissaAndAccuracy M acc >>> (t - E).toNat)
      (v / 2 ^ t) := by
    have := hM.shiftRight (t - E).toNat
    rwa [div_div, ← zpow_natCast, ← zpow_add₀ two_ne_zero, hshift] at this
  have hfirst : shiftToTargetExponent Format.binary64 M E acc =
      (ExtendedMantissa.ofMantissaAndAccuracy M acc >>> (t - E).toNat, t) := by
    rw [shiftToTargetExponent, hteq, shiftToExponent]
    simp only [hshift]
  rw [roundWithAccuracy, hfirst]
  rcases htarget with rfl | ⟨rfl, hm, hsmall⟩
  · simp only [hstands.roundedMantissa_eq hv.near, shiftToTargetExponent_of_lt hb.lt hb.least]
    exact dif_neg hb.pos.ne'
  · -- The number lies below a power of two, to which it is rounded up.
    have hnear : Near (v / 2 ^ (b.q - 1)) (2 ^ 53) := by
      have hdouble : v / 2 ^ (b.q - 1) = 2 * (v / 2 ^ b.q) := by
        rw [zpow_sub_one₀ two_ne_zero, div_mul_eq_div_div_swap, div_inv_eq_mul, mul_comm,
          mul_div_assoc]
      have hlow := hv.bounds.1
      rw [if_pos (hb.closeBelow_iff.mpr ⟨hm, by omega⟩), hm] at hlow
      push_cast at hlow
      have hle : |v / 2 ^ (b.q - 1) - (2 ^ 53 : ℕ)| ≤ 1 / 2 := by
        rw [hdouble, abs_le]
        push_cast
        constructor <;> linarith
      exact hle.lt_or_eq.imp_right fun heq => ⟨heq, by norm_num⟩
    simp only [hstands.roundedMantissa_eq hnear, shiftToTargetExponent_two_pow ht, hm,
      Int.sub_add_cancel]
    exact dif_neg (by norm_num)

end Rounding

end HybridSearch
