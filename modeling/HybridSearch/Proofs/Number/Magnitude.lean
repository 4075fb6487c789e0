import HybridSearch.Proofs.Number.Decimal

/-!
# Magnitudes of numbers that are computed

Where a positive number lies between two powers of two says little about it, but it says that the
number has not become zero, infinite or none at all. Rounding does not lead past a power of two, and
not past the upper one either if what is added is less than half of the last digit.

## Main definitions

* `Rounding.Spans` — the powers of two between which every number has all digits of a significand.
* `Rounding.Between` — a positive number with all its digits between two powers of two.
* `Rounding.Sized` — such a number or zero.

## Main results

* `Rounding.roundWithAccuracy_between` — rounding stays between two powers of two.
* `Rounding.Between.add`, `Rounding.Between.mul`, `Rounding.Between.div`, `Rounding.Between.sqrt`,
  `Rounding.Between.unpack_pack` — operations, and the bits of their results.
* `Rounding.sized_foldl_add` — a sum of any number of terms.
-/

namespace HybridSearch

open Float.Model (Format UnpackedFloat totalExponent)
open Float.Model.UnpackedFloat

namespace Rounding

variable {spec : Format} {a b c d t E : ℤ} {M n : ℕ} {acc : Accuracy} {em : ExtendedMantissa}
  {v : ℚ}

/-! ### Rounding between integers -/

theorem Stands.le_roundedMantissa (h : Stands em v) (hn : (n : ℚ) ≤ v) :
    n ≤ em.roundedMantissa := by
  have hle : n ≤ em.mantissa := by
    have hlt : (n : ℚ) < em.mantissa + 1 := hn.trans_lt h.bounds.2
    exact Nat.lt_succ_iff.mp (by exact_mod_cast hlt)
  refine hle.trans ?_
  obtain ⟨k, r, s⟩ := em
  cases r <;> cases s
  · exact Nat.le_refl k
  · exact Nat.le_refl k
  · exact Nat.le_add_right k (k % 2)
  · exact Nat.le_add_right k 1

theorem Stands.roundedMantissa_le (h : Stands em v) (hn : v < n + 1 / 2) :
    em.roundedMantissa ≤ n := by
  obtain ⟨k, r, s⟩ := em
  cases r with
  | false =>
    have hlt : (k : ℚ) < n + 1 := by linarith [h.bounds.1]
    have hle : k ≤ n := Nat.lt_succ_iff.mp (by exact_mod_cast hlt)
    cases s <;> exact hle
  | true =>
    have hlt : k < n := by
      have hhalf : (k : ℚ) + 1 / 2 ≤ v := by
        cases s <;> simp only [Stands] at h <;> linarith
      have hlt : (k : ℚ) < n := by linarith
      exact_mod_cast hlt
    cases s with
    | false =>
      show k + k % 2 ≤ n
      omega
    | true => exact hlt

/-! ### Rounding between powers of two -/

private theorem two_zpow_add (t : ℤ) (k : ℕ) : (2 : ℚ) ^ (t + k) = 2 ^ k * 2 ^ t := by
  rw [zpow_add₀ two_ne_zero, zpow_natCast, mul_comm]

theorem Stands.two_zpow_le (h : Stands em (v / 2 ^ t)) (hpos : 1 ≤ em.roundedMantissa)
    (hlow : 2 ^ a ≤ v) : (2 : ℚ) ^ a ≤ em.roundedMantissa * 2 ^ t := by
  have ht : (0 : ℚ) < 2 ^ t := zpow_pos two_pos t
  rcases le_or_gt t a with hle | hlt
  · obtain ⟨k, rfl⟩ := Int.le.dest hle
    have hk : 2 ^ k ≤ em.roundedMantissa := by
      refine h.le_roundedMantissa ?_
      push_cast
      rwa [le_div_iff₀ ht, ← two_zpow_add]
    rw [two_zpow_add]
    exact mul_le_mul_of_nonneg_right (by exact_mod_cast hk) ht.le
  · calc (2 : ℚ) ^ a ≤ 1 * 2 ^ t := by
          rw [one_mul]
          exact zpow_le_zpow_right₀ one_le_two hlt.le
      _ ≤ em.roundedMantissa * 2 ^ t :=
          mul_le_mul_of_nonneg_right (by exact_mod_cast hpos) ht.le

/-- The digits of what is to be rounded say between which powers of two it lies. -/
theorem Stands.bounds_of_log2 {p : ℕ} (h : Stands (.ofMantissaAndAccuracy M acc) (v / 2 ^ E))
    (hp : 0 < p) (hM : M ≠ 0) (ht : (M.log2 : ℤ) + 1 + E - p = t) :
    2 ^ (p - 1) * 2 ^ t ≤ v ∧ v < 2 ^ p * 2 ^ t := by
  have hE : (0 : ℚ) < 2 ^ E := zpow_pos two_pos E
  obtain ⟨hfloor, hceil⟩ := h.bounds
  rw [mantissa_ofMantissaAndAccuracy] at hfloor hceil
  constructor
  · calc (2 : ℚ) ^ (p - 1) * 2 ^ t = 2 ^ M.log2 * 2 ^ E := by
          rw [← two_zpow_add, ← two_zpow_add]
          congr 1
          omega
      _ ≤ M * 2 ^ E :=
          mul_le_mul_of_nonneg_right (by exact_mod_cast Nat.log2_self_le hM) hE.le
      _ ≤ v := (le_div_iff₀ hE).mp hfloor
  · calc v < (M + 1) * 2 ^ E := (div_lt_iff₀ hE).mp hceil
      _ ≤ 2 ^ (M.log2 + 1) * 2 ^ E :=
          mul_le_mul_of_nonneg_right (by exact_mod_cast Nat.lt_log2_self) hE.le
      _ = 2 ^ p * 2 ^ t := by
          rw [← two_zpow_add, ← two_zpow_add]
          congr 1
          push_cast
          omega

/-- A number of `p` digits may be past the power of two by less than half of the last one. -/
theorem Stands.le_two_zpow {p : ℕ} (h : Stands em (v / 2 ^ t)) (hleast : 2 ^ t ≤ v)
    (hmost : v < 2 ^ p * 2 ^ t) (hhigh : v < 2 ^ b + 2 ^ (b - p)) :
    (em.roundedMantissa : ℚ) * 2 ^ t ≤ 2 ^ b := by
  have ht : (0 : ℚ) < 2 ^ t := zpow_pos two_pos t
  have hb : t ≤ b := by
    by_contra hlt
    have hdouble : (2 : ℚ) ^ b + 2 ^ b ≤ 2 ^ t := by
      rw [← two_mul, mul_comm, ← zpow_add_one₀ two_ne_zero]
      exact zpow_le_zpow_right₀ one_le_two (by omega)
    have hsmall : (2 : ℚ) ^ (b - p) ≤ 2 ^ b := zpow_le_zpow_right₀ one_le_two (by omega)
    linarith
  obtain ⟨k, rfl⟩ := Int.le.dest hb
  rw [two_zpow_add] at hhigh ⊢
  have hk : em.roundedMantissa ≤ 2 ^ k := by
    refine h.roundedMantissa_le ?_
    push_cast
    rw [div_lt_iff₀ ht]
    by_cases hp : p ≤ k
    · have hpk : (2 : ℚ) ^ p * 2 ^ t ≤ 2 ^ k * 2 ^ t :=
        mul_le_mul_of_nonneg_right (pow_le_pow_right₀ one_le_two hp) ht.le
      linarith
    · have hhalf : (2 : ℚ) ^ (t + k - p) ≤ 2 ^ t / 2 := by
        rw [div_eq_mul_inv, ← zpow_sub_one₀ (two_ne_zero (α := ℚ))]
        exact zpow_le_zpow_right₀ one_le_two (by omega)
      linarith
  exact mul_le_mul_of_nonneg_right (by exact_mod_cast hk) ht.le

/-! ### Numbers with all their digits -/

/-- The numbers between these powers of two have all digits of a significand. -/
structure Spans (spec : Format) (a b : ℤ) : Prop where
  least : spec.minExponent + spec.mantissaBits ≤ a + 1
  greatest : b < 2 ^ (spec.exponentBits - 1)

theorem Spans.mono (h : Spans spec a b) (hc : a ≤ c) (hd : d ≤ b) : Spans spec c d :=
  ⟨h.least.trans (by omega), hd.trans_lt h.greatest⟩

theorem spans_binary32 (ha : -126 ≤ a) (hb : b < 128) : Spans Format.binary32 a b := by
  have hleast : Format.binary32.minExponent + Format.binary32.mantissaBits = -125 := rfl
  exact ⟨by omega, hb⟩

theorem spans_binary64 (ha : -1022 ≤ a) (hb : b < 1024) : Spans Format.binary64 a b := by
  have hleast : Format.binary64.minExponent + Format.binary64.mantissaBits = -1021 := rfl
  exact ⟨by omega, hb⟩

/-- A positive number with all its digits between two powers of two. -/
inductive Between (spec : Format) (a b : ℤ) : UnpackedFloat → Prop where
  | intro {m : ℕ} {e : ℤ} (pos : 0 < m) (full : m.log2 + 1 = spec.mantissaBits)
      (low : (2 : ℚ) ^ a ≤ m * 2 ^ e) (high : (m : ℚ) * 2 ^ e ≤ 2 ^ b) :
      Between spec a b (.finite .positive m e pos)

theorem mantissaBits_pos (spec : Format) : 0 < spec.mantissaBits :=
  Nat.lt_of_lt_of_le Nat.zero_lt_one (Nat.le_add_right 1 _)

theorem le_log2_add_one (h : 2 ^ (spec.mantissaBits - 1) ≤ M) :
    spec.mantissaBits ≤ M.log2 + 1 := by
  have := (Nat.le_log2 ((Nat.two_pow_pos _).trans_le h).ne').mpr h
  omega

section

variable {m : ℕ} (full : m.log2 + 1 = spec.mantissaBits)

include full

theorem two_pow_le (pos : 0 < m) : 2 ^ (spec.mantissaBits - 1) ≤ m := by
  rw [← full, Nat.add_sub_cancel]
  exact Nat.log2_self_le pos.ne'

theorem lt_two_pow : m < 2 ^ spec.mantissaBits := by
  rw [← full]
  exact Nat.lt_log2_self

theorem lt_exponent {e : ℤ} (low : (2 : ℚ) ^ a ≤ m * 2 ^ e) : a < e + spec.mantissaBits := by
  have hlt : (m : ℚ) * 2 ^ e < 2 ^ spec.mantissaBits * 2 ^ e :=
    mul_lt_mul_of_pos_right (by exact_mod_cast lt_two_pow full) (zpow_pos two_pos e)
  rw [← two_zpow_add] at hlt
  exact (zpow_lt_zpow_iff_right₀ one_lt_two).mp (low.trans_lt hlt)

theorem exponent_le (pos : 0 < m) {e : ℤ} (high : (m : ℚ) * 2 ^ e ≤ 2 ^ b) :
    e + spec.mantissaBits ≤ b + 1 := by
  have hle : 2 ^ (spec.mantissaBits - 1) * 2 ^ e ≤ (m : ℚ) * 2 ^ e :=
    mul_le_mul_of_nonneg_right (by exact_mod_cast two_pow_le full pos) (zpow_pos two_pos e).le
  rw [← two_zpow_add] at hle
  have := (zpow_le_zpow_iff_right₀ (one_lt_two (α := ℚ))).mp (hle.trans high)
  omega

end

theorem targetExponent_of_le (h : spec.minExponent ≤ M.log2 + 1 + E - spec.mantissaBits) :
    spec.targetExponent (totalExponent M E) = M.log2 + 1 + E - spec.mantissaBits := by
  rw [Format.targetExponent, totalExponent]
  exact max_eq_left h

theorem shiftToTargetExponent_of_le (hbits : spec.mantissaBits ≤ M.log2 + 1)
    (h : spec.minExponent ≤ M.log2 + 1 + E - spec.mantissaBits) :
    shiftToTargetExponent spec M E acc =
      (ExtendedMantissa.ofMantissaAndAccuracy M acc >>> (M.log2 + 1 - spec.mantissaBits),
        M.log2 + 1 + E - spec.mantissaBits) := by
  have hshift : (M.log2 + 1 + E - spec.mantissaBits - E).toNat =
      M.log2 + 1 - spec.mantissaBits := by omega
  have hexponent : E + ((M.log2 + 1 - spec.mantissaBits : ℕ) : ℤ) =
      M.log2 + 1 + E - spec.mantissaBits := by omega
  simp only [shiftToTargetExponent, targetExponent_of_le h, shiftToExponent, hshift, hexponent]

/-- What has been rounded to all digits of a significand, or up to the next power of two, is not
rounded again. -/
theorem exists_roundWithAccuracy_eq (s : Sign) (hbits : spec.mantissaBits ≤ M.log2 + 1)
    (h : spec.minExponent ≤ M.log2 + 1 + E - spec.mantissaBits)
    (hn : (ExtendedMantissa.ofMantissaAndAccuracy M acc >>>
      (M.log2 + 1 - spec.mantissaBits)).roundedMantissa = n)
    (hlow : 2 ^ (spec.mantissaBits - 1) ≤ n) (hhigh : n ≤ 2 ^ spec.mantissaBits) :
    ∃ m e, ∃ hm : 0 < m, roundWithAccuracy spec s M E acc = .finite s m e hm ∧
      m.log2 + 1 = spec.mantissaBits ∧
      (m : ℚ) * 2 ^ e = n * 2 ^ (M.log2 + 1 + E - spec.mantissaBits) := by
  have hp : 0 < spec.mantissaBits := mantissaBits_pos spec
  generalize ht : (M.log2 : ℤ) + 1 + E - spec.mantissaBits = t at h ⊢
  have hround : roundWithAccuracy spec s M E acc =
      let final := shiftToTargetExponent spec n t .exact
      if hm : final.1.mantissa = 0 then .zero s
      else .finite s final.1.mantissa final.2 (Nat.pos_of_ne_zero hm) := by
    rw [roundWithAccuracy, shiftToTargetExponent_of_le hbits (ht ▸ h)]
    simp only [hn, ht]
  rcases hhigh.lt_or_eq with hlt | rfl
  · have hpos : 0 < n := (Nat.two_pow_pos _).trans_le hlow
    have hlog : n.log2 + 1 = spec.mantissaBits := by
      have hlog : n.log2 = spec.mantissaBits - 1 :=
        (Nat.log2_eq_iff hpos.ne').mpr ⟨hlow, by rwa [Nat.sub_add_cancel hp]⟩
      omega
    have hfinal : shiftToTargetExponent spec n t .exact = (⟨n, false, false⟩, t) := by
      have hexponent : (n.log2 : ℤ) + 1 + t - spec.mantissaBits = t := by omega
      rw [shiftToTargetExponent_of_le hlog.ge (by omega), hlog, Nat.sub_self, hexponent]
      rfl
    refine ⟨n, t, hpos, ?_, hlog, rfl⟩
    rw [hround, hfinal]
    exact dif_neg hpos.ne'
  · have hfinal : shiftToTargetExponent spec (2 ^ spec.mantissaBits) t .exact =
        (⟨2 ^ (spec.mantissaBits - 1), false, false⟩, t + 1) := by
      have hexponent : ((2 ^ spec.mantissaBits).log2 : ℤ) + 1 + t - spec.mantissaBits = t + 1 := by
        rw [Nat.log2_two_pow]
        omega
      rw [shiftToTargetExponent_of_le (by rw [Nat.log2_two_pow]; omega) (by omega), hexponent,
        Nat.log2_two_pow, Nat.add_sub_cancel_left]
      refine Prod.ext ?_ rfl
      show ExtendedMantissa.shiftRightOne ⟨2 ^ spec.mantissaBits, false, false⟩ = _
      rw [ExtendedMantissa.shiftRightOne, ← Nat.sub_add_cancel hp, Nat.pow_succ]
      simp
    refine ⟨2 ^ (spec.mantissaBits - 1), t + 1, Nat.two_pow_pos _, ?_, ?_, ?_⟩
    · rw [hround, hfinal]
      exact dif_neg (Nat.two_pow_pos _).ne'
    · rw [Nat.log2_two_pow]
      omega
    · have hdouble : (2 : ℚ) ^ spec.mantissaBits = 2 ^ (spec.mantissaBits - 1) * 2 := by
        rw [← pow_succ, Nat.sub_add_cancel hp]
      push_cast
      rw [zpow_add_one₀ two_ne_zero, hdouble, mul_assoc, mul_comm (2 ^ t)]

/-- **Rounding stays between two powers of two**, if the number is past the upper one by less than
half of the last digit. -/
theorem roundWithAccuracy_between (hspan : Spans spec a b)
    (hM : Stands (.ofMantissaAndAccuracy M acc) (v / 2 ^ E))
    (hbits : 2 ^ (spec.mantissaBits - 1) ≤ M)
    (hlow : 2 ^ a ≤ v) (hhigh : v < 2 ^ b + 2 ^ (b - spec.mantissaBits)) :
    Between spec a b (roundWithAccuracy spec .positive M E acc) := by
  have hlog := le_log2_add_one hbits
  generalize ht : (M.log2 : ℤ) + 1 + E - spec.mantissaBits = t
  obtain ⟨hleast, hmost⟩ := hM.bounds_of_log2 (mantissaBits_pos spec)
    ((Nat.two_pow_pos _).trans_le hbits).ne' ht
  have hmin : spec.minExponent ≤ t := by
    rw [← two_zpow_add] at hmost
    have hlt := (zpow_lt_zpow_iff_right₀ (one_lt_two (α := ℚ))).mp (hlow.trans_lt hmost)
    have := hspan.least
    omega
  have hstands : Stands (ExtendedMantissa.ofMantissaAndAccuracy M acc >>>
      (M.log2 + 1 - spec.mantissaBits)) (v / 2 ^ t) := by
    have hshift : E + ((M.log2 + 1 - spec.mantissaBits : ℕ) : ℤ) = t := by omega
    have := hM.shiftRight (M.log2 + 1 - spec.mantissaBits)
    rwa [div_div, ← zpow_natCast, ← zpow_add₀ two_ne_zero, hshift] at this
  have hpow : (0 : ℚ) < 2 ^ t := zpow_pos two_pos t
  have hfew : 2 ^ (spec.mantissaBits - 1) ≤ (ExtendedMantissa.ofMantissaAndAccuracy M acc >>>
      (M.log2 + 1 - spec.mantissaBits)).roundedMantissa :=
    hstands.le_roundedMantissa (by push_cast; exact (le_div_iff₀ hpow).mpr hleast)
  have hmany : (ExtendedMantissa.ofMantissaAndAccuracy M acc >>>
      (M.log2 + 1 - spec.mantissaBits)).roundedMantissa ≤ 2 ^ spec.mantissaBits := by
    refine hstands.roundedMantissa_le ?_
    have := (div_lt_iff₀ hpow).mpr hmost
    push_cast
    linarith
  obtain ⟨m, e, hm, heq, hfull, hvalue⟩ :=
    exists_roundWithAccuracy_eq .positive hlog (ht ▸ hmin) rfl hfew hmany
  rw [ht] at hvalue
  have hone : 1 ≤ (2 : ℕ) ^ (spec.mantissaBits - 1) := Nat.one_le_two_pow
  have hone' : (1 : ℚ) ≤ 2 ^ (spec.mantissaBits - 1) := one_le_pow₀ one_le_two
  rw [heq]
  refine .intro hm hfull ?_ ?_
  · rw [hvalue]
    exact hstands.two_zpow_le (hone.trans hfew) hlow
  · rw [hvalue]
    refine hstands.le_two_zpow ?_ hmost hhigh
    exact (le_mul_of_one_le_left hpow.le hone').trans hleast

/-! ### Fields of a word -/

theorem exponentBias_add_one (spec : Format) :
    (spec.exponentBias : ℤ) + 1 = 2 ^ (spec.exponentBits - 1) := by
  exact_mod_cast Nat.sub_add_cancel Nat.one_le_two_pow

theorem two_pow_exponentBits (spec : Format) :
    2 ^ spec.exponentBits = 2 * spec.exponentBias + 2 := by
  have hbias : spec.exponentBias + 1 = 2 ^ (spec.exponentBits - 1) :=
    Nat.sub_add_cancel Nat.one_le_two_pow
  rw [← Nat.sub_add_cancel spec.he, Nat.pow_succ, ← hbias]
  omega

/-- The leading digit of a significand is not kept, and put back. -/
theorem toNat_implicit_append {m : ℕ} (full : m.log2 + 1 = spec.mantissaBits) (pos : 0 < m) :
    (1#1 ++ BitVec.ofNat spec.mantissaBitsWithoutImplicit m).toNat = m := by
  have hlow : 2 ^ spec.mantissaBitsWithoutImplicit ≤ m := by
    have := two_pow_le full pos
    rwa [Format.mantissaBits, Nat.add_sub_cancel_left] at this
  have hhigh : m < 2 ^ spec.mantissaBitsWithoutImplicit * 2 := by
    have := lt_two_pow full
    rwa [Format.mantissaBits, Nat.add_comm, Nat.pow_succ] at this
  have hrest : m % 2 ^ spec.mantissaBitsWithoutImplicit =
      m - 2 ^ spec.mantissaBitsWithoutImplicit := by
    rw [Nat.mod_eq_sub_mod hlow, Nat.mod_eq_of_lt (by omega)]
  rw [BitVec.toNat_append, ← Nat.shiftLeft_add_eq_or_of_lt (BitVec.isLt _), BitVec.toNat_ofNat,
    BitVec.toNat_ofNat, hrest]
  simp [Nat.shiftLeft_eq, hlow]

/-! ### Operations -/

/-- A sum is rounded from the sum of the significands at the lesser exponent. -/
theorem exists_add_eq {m₁ m₂ : ℕ} (full : m₁.log2 + 1 = spec.mantissaBits) (pos₁ : 0 < m₁)
    (pos₂ : 0 < m₂) (e₁ e₂ : ℤ) :
    ∃ (M : ℕ) (E : ℤ), 2 ^ (spec.mantissaBits - 1) ≤ M ∧
      (M : ℚ) * 2 ^ E = m₁ * 2 ^ e₁ + m₂ * 2 ^ e₂ ∧
      add spec (.finite .positive m₁ e₁ pos₁) (.finite .positive m₂ e₂ pos₂) =
        roundWithAccuracy spec .positive M E .exact := by
  obtain ⟨E, hE⟩ : ∃ E, E = min e₁ e₂ := ⟨_, rfl⟩
  have hscale {m : ℕ} {e : ℤ} (he : E ≤ e) :
      ((m <<< (e - E).toNat : ℕ) : ℚ) * 2 ^ E = m * 2 ^ e := by
    rw [Nat.shiftLeft_eq]
    push_cast
    rw [mul_assoc, ← two_zpow_add]
    congr 2
    omega
  obtain ⟨M, hM⟩ : ∃ M, M = m₁ <<< (e₁ - E).toNat + m₂ <<< (e₂ - E).toNat := ⟨_, rfl⟩
  have hbits : 2 ^ (spec.mantissaBits - 1) ≤ M := by
    rw [hM, Nat.shiftLeft_eq]
    exact (two_pow_le full pos₁).trans
      ((Nat.le_mul_of_pos_right m₁ (Nat.two_pow_pos _)).trans (Nat.le_add_right _ _))
  refine ⟨M, E, hbits, ?_, ?_⟩
  · rw [hM, Nat.cast_add, add_mul, hscale (hE ▸ min_le_left e₁ e₂),
      hscale (hE ▸ min_le_right e₁ e₂)]
  · have hnormal : add spec (.finite .positive m₁ e₁ pos₁) (.finite .positive m₂ e₂ pos₂) =
        UnpackedFloat.normalize spec M E .positive := by
      rw [add]
      simp only [decreaseExponent, ← hE, Sign.apply, hM]
      push_cast
      rfl
    have hpos : (0 : ℤ) < M := by exact_mod_cast (Nat.two_pow_pos _).trans_le hbits
    have htarget : E ≤ spec.targetExponent (totalExponent M E) := by
      have := le_log2_add_one hbits
      exact le_max_of_le_left (by rw [totalExponent]; omega)
    -- the sum has all digits already, so none is put behind it
    rw [hnormal, UnpackedFloat.normalize, compare_gt_iff_gt.mpr hpos]
    simp only [UnpackedFloat.round, Int.toNat_natCast, decreaseExponent,
      Int.toNat_of_nonpos (sub_nonpos.mpr htarget)]
    simp

/-- A quotient is rounded from that of the significands with all digits behind the first. -/
theorem exists_div_eq {m₁ m₂ : ℕ} (full₁ : m₁.log2 + 1 = spec.mantissaBits)
    (full₂ : m₂.log2 + 1 = spec.mantissaBits) (pos₁ : 0 < m₁) (pos₂ : 0 < m₂) {e₁ e₂ : ℤ}
    (hleast : spec.minExponent ≤ e₁ - e₂ - spec.mantissaBits) :
    ∃ (M : ℕ) (E : ℤ) (acc : Accuracy), 2 ^ (spec.mantissaBits - 1) ≤ M ∧
      Stands (.ofMantissaAndAccuracy M acc) (m₁ * 2 ^ e₁ / (m₂ * 2 ^ e₂) / 2 ^ E) ∧
      div spec (.finite .positive m₁ e₁ pos₁) (.finite .positive m₂ e₂ pos₂) =
        roundWithAccuracy spec .positive M E acc := by
  have htarget : min (e₁ - e₂) (spec.targetExponent (totalExponent m₁ e₁ - totalExponent m₂ e₂)) =
      e₁ - e₂ - spec.mantissaBits := by
    rw [Format.targetExponent, totalExponent, totalExponent]
    omega
  have hshift : (e₁ - e₂ - (e₁ - e₂ - (spec.mantissaBits : ℤ))).toNat = spec.mantissaBits := by
    omega
  refine ⟨(m₁ <<< spec.mantissaBits) / m₂, e₁ - e₂ - spec.mantissaBits,
    accuracyOfFraction ((m₁ <<< spec.mantissaBits) % m₂) m₂, ?_, ?_, ?_⟩
  · rw [Nat.le_div_iff_mul_le pos₂, Nat.shiftLeft_eq]
    exact Nat.mul_le_mul (two_pow_le full₁ pos₁) (lt_two_pow full₂).le
  · have hvalue : (m₁ * 2 ^ e₁ / (m₂ * 2 ^ e₂) / 2 ^ (e₁ - e₂ - (spec.mantissaBits : ℤ)) : ℚ) =
        (m₁ <<< spec.mantissaBits : ℕ) / m₂ := by
      have hm₂ : (m₂ : ℚ) ≠ 0 := by exact_mod_cast pos₂.ne'
      rw [Nat.shiftLeft_eq, zpow_sub₀ two_ne_zero, zpow_sub₀ two_ne_zero, zpow_natCast]
      push_cast
      field_simp
    rw [hvalue]
    exact stands_div _ pos₂
  · rw [div, divCore, htarget, hshift]
    rfl

private theorem two_zpow_twice_add (E : ℤ) (j : ℕ) :
    (2 : ℚ) ^ (2 * (E + j)) = (2 ^ j * 2 ^ j : ℕ) * 2 ^ (2 * E) := by
  have hj : 2 * (E + j) = 2 * E + (j + j : ℕ) := by
    push_cast
    ring
  rw [hj, two_zpow_add, pow_add]
  push_cast
  rfl

theorem two_zpow_le_sqrt (hroot : 1 ≤ Nat.sqrt n) (hlow : (2 : ℚ) ^ (2 * a) ≤ n * 2 ^ (2 * E)) :
    (2 : ℚ) ^ a ≤ Nat.sqrt n * 2 ^ E := by
  have hE : (0 : ℚ) < 2 ^ E := zpow_pos two_pos E
  rcases le_or_gt E a with hle | hlt
  · obtain ⟨j, rfl⟩ := Int.le.dest hle
    rw [two_zpow_twice_add, mul_le_mul_iff_of_pos_right (zpow_pos two_pos _)] at hlow
    have hj : 2 ^ j ≤ Nat.sqrt n := Nat.le_sqrt.mpr (by exact_mod_cast hlow)
    rw [two_zpow_add]
    exact mul_le_mul_of_nonneg_right (by exact_mod_cast hj) hE.le
  · have hroot : (1 : ℚ) ≤ Nat.sqrt n := by exact_mod_cast hroot
    exact (zpow_le_zpow_right₀ one_le_two hlt.le).trans (le_mul_of_one_le_left hE.le hroot)

theorem root_le_two_zpow (hle : E ≤ b) (hroot : M * M ≤ n) (hceil : v = M ∨ v < M + 1 ∧ M * M < n)
    (hhigh : (n : ℚ) * 2 ^ (2 * E) ≤ 2 ^ (2 * b)) : v * 2 ^ E ≤ (2 : ℚ) ^ b := by
  obtain ⟨j, rfl⟩ := Int.le.dest hle
  rw [two_zpow_twice_add, mul_le_mul_iff_of_pos_right (zpow_pos two_pos _)] at hhigh
  have hhigh : n ≤ 2 ^ j * 2 ^ j := by exact_mod_cast hhigh
  rw [two_zpow_add]
  refine mul_le_mul_of_nonneg_right ?_ (zpow_pos two_pos E).le
  rcases hceil with rfl | ⟨hceil, hless⟩
  · exact_mod_cast Nat.mul_self_le_mul_self_iff.mp (hroot.trans hhigh)
  · have hlt : M < 2 ^ j := Nat.mul_self_lt_mul_self_iff.mp (hless.trans_le hhigh)
    have hlt : (M : ℚ) + 1 ≤ 2 ^ j := by exact_mod_cast hlt
    linarith

/-- A root is rounded from that of a significand with twice as many digits. It is met exactly, or
lies between two integers. -/
theorem exists_sqrt_eq {m : ℕ} (full : m.log2 + 1 = spec.mantissaBits) (pos : 0 < m) {e : ℤ}
    (hleast : spec.minExponent ≤ (e + spec.mantissaBits + 1) / 2 - spec.mantissaBits) :
    ∃ (M k : ℕ) (E : ℤ) (acc : Accuracy) (v : ℚ), 2 ^ (spec.mantissaBits - 1) ≤ M ∧
      e = 2 * E + k ∧ M = Nat.sqrt (m * 2 ^ k) ∧
      Stands (.ofMantissaAndAccuracy M acc) v ∧ (M : ℚ) ≤ v ∧
      (v = M ∨ v < M + 1 ∧ M * M < m * 2 ^ k) ∧
      sqrt spec (.finite .positive m e pos) = roundWithAccuracy spec .positive M E acc := by
  have hp := mantissaBits_pos spec
  obtain ⟨E, hE⟩ : ∃ E, E = (e + spec.mantissaBits + 1) / 2 - (spec.mantissaBits : ℤ) := ⟨_, rfl⟩
  have htarget : min (e.ediv 2) (spec.targetExponent ((totalExponent m e + 1).ediv 2)) = E := by
    show min (e / 2) (max ((m.log2 + 1 + e + 1) / 2 - (spec.mantissaBits : ℤ)) spec.minExponent) = E
    omega
  obtain ⟨k, hk⟩ : ∃ k, k = (e - 2 * E).toNat := ⟨_, rfl⟩
  have hke : e = 2 * E + k := by omega
  have hroot : 2 ^ (spec.mantissaBits - 1) ≤ Nat.sqrt (m * 2 ^ k) := by
    rw [Nat.le_sqrt]
    exact Nat.mul_le_mul (two_pow_le full pos) (Nat.pow_le_pow_right two_pos (by omega))
  have hfloor := Nat.sqrt_le (m * 2 ^ k)
  obtain ⟨M, hM⟩ : ∃ M, M = Nat.sqrt (m * 2 ^ k) := ⟨_, rfl⟩
  obtain ⟨r, hr⟩ : ∃ r, r = m * 2 ^ k - M * M := ⟨_, rfl⟩
  have hsqrt : sqrt spec (.finite .positive m e pos) = roundWithAccuracy spec .positive M E
      (if r = 0 then .exact else .inexact (if r ≤ M then .lt else .gt)) := by
    rw [sqrt, sqrtCore, htarget, ← hk, Nat.shiftLeft_eq]
    rw [hr, hM]
  rw [← hM] at hroot hfloor
  by_cases hexact : r = 0
  · rw [if_pos hexact] at hsqrt
    exact ⟨M, k, E, .exact, M, hroot, hke, hM, rfl, le_rfl, Or.inl rfl, hsqrt⟩
  rw [if_neg hexact] at hsqrt
  have hless : M * M < m * 2 ^ k := by omega
  by_cases hhalf : r ≤ M
  · rw [if_pos hhalf] at hsqrt
    refine ⟨M, k, E, .inexact .lt, M + 1 / 4, hroot, hke, hM, ⟨?_, ?_⟩, ?_,
      Or.inr ⟨?_, hless⟩, hsqrt⟩ <;> linarith
  · rw [if_neg hhalf] at hsqrt
    refine ⟨M, k, E, .inexact .gt, M + 3 / 4, hroot, hke, hM, ⟨?_, ?_⟩, ?_,
      Or.inr ⟨?_, hless⟩, hsqrt⟩ <;> linarith

namespace Between

variable {x y : UnpackedFloat}

theorem mono (h : Between spec a b x) (hc : c ≤ a) (hd : b ≤ d) : Between spec c d x := by
  cases h with
  | intro pos full low high =>
    exact .intro pos full ((zpow_le_zpow_right₀ one_le_two hc).trans low)
      (high.trans (zpow_le_zpow_right₀ one_le_two hd))

theorem mul (hx : Between spec a b x) (hy : Between spec c d y)
    (hspan : Spans spec (a + c) (b + d)) :
    Between spec (a + c) (b + d) (UnpackedFloat.mul spec x y) := by
  cases hx with
  | @intro m₁ e₁ pos₁ full₁ low₁ high₁ =>
    cases hy with
    | @intro m₂ e₂ pos₂ full₂ low₂ high₂ =>
      have hnonneg (k : ℤ) : (0 : ℚ) ≤ 2 ^ k := (zpow_pos two_pos k).le
      have hnonneg₁ : (0 : ℚ) ≤ m₁ * 2 ^ e₁ := (hnonneg a).trans low₁
      refine roundWithAccuracy_between hspan (stands_mul m₁ e₁ m₂ e₂) ?_ ?_ ?_
      · exact (two_pow_le full₁ pos₁).trans (Nat.le_mul_of_pos_right m₁ pos₂)
      · rw [zpow_add₀ two_ne_zero]
        exact mul_le_mul low₁ low₂ (hnonneg c) hnonneg₁
      · refine lt_of_le_of_lt ?_ (lt_add_of_pos_right _ (zpow_pos two_pos _))
        rw [zpow_add₀ two_ne_zero]
        exact mul_le_mul high₁ high₂ ((hnonneg c).trans low₂) (hnonneg b)

/-- Adding less than half of the last digit of a power of two does not lead past it. -/
theorem add (hx : Between spec a b x) (hy : Between spec c d y) (hspan : Spans spec a b)
    (hsmall : d + spec.mantissaBits < b) : Between spec a b (UnpackedFloat.add spec x y) := by
  cases hx with
  | @intro m₁ e₁ pos₁ full₁ low₁ high₁ =>
    cases hy with
    | @intro m₂ e₂ pos₂ full₂ low₂ high₂ =>
      obtain ⟨M, E, hbits, hvalue, hadd⟩ := exists_add_eq full₁ pos₁ pos₂ e₁ e₂
      have hE : (0 : ℚ) < 2 ^ E := zpow_pos two_pos E
      have hpos : (0 : ℚ) ≤ m₂ * 2 ^ e₂ := (zpow_pos two_pos c).le.trans low₂
      have hless : (2 : ℚ) ^ d < 2 ^ (b - spec.mantissaBits) :=
        zpow_lt_zpow_right₀ one_lt_two (by omega)
      rw [hadd]
      refine roundWithAccuracy_between (v := M * 2 ^ E) hspan ?_ hbits ?_ ?_
      · exact mul_div_cancel_right₀ _ hE.ne'
      · linarith
      · linarith

theorem div (hx : Between spec a b x) (hy : Between spec c d y)
    (hspan : Spans spec (a - d - 1) (b - c)) :
    Between spec (a - d) (b - c) (UnpackedFloat.div spec x y) := by
  cases hx with
  | @intro m₁ e₁ pos₁ full₁ low₁ high₁ =>
    cases hy with
    | @intro m₂ e₂ pos₂ full₂ low₂ high₂ =>
      have hpos (k : ℤ) : (0 : ℚ) < 2 ^ k := zpow_pos two_pos k
      have hpos₂ : (0 : ℚ) < m₂ * 2 ^ e₂ := (hpos c).trans_le low₂
      have hlow : (2 : ℚ) ^ (a - d) ≤ m₁ * 2 ^ e₁ / (m₂ * 2 ^ e₂) := by
        rw [zpow_sub₀ two_ne_zero]
        exact div_le_div₀ ((hpos a).le.trans low₁) low₁ hpos₂ high₂
      have hhigh : (m₁ * 2 ^ e₁ / (m₂ * 2 ^ e₂) : ℚ) ≤ 2 ^ (b - c) := by
        rw [zpow_sub₀ two_ne_zero]
        exact div_le_div₀ (hpos b).le high₁ (hpos c) low₂
      have hleast : spec.minExponent ≤ e₁ - e₂ - spec.mantissaBits := by
        have := lt_exponent full₁ low₁
        have := exponent_le full₂ pos₂ high₂
        have := hspan.least
        omega
      obtain ⟨M, E, acc, hbits, hstands, hdiv⟩ := exists_div_eq full₁ full₂ pos₁ pos₂ hleast
      rw [hdiv]
      refine roundWithAccuracy_between (hspan.mono (by omega) le_rfl) hstands hbits hlow ?_
      exact hhigh.trans_lt (lt_add_of_pos_right _ (hpos _))

theorem sqrt (hx : Between spec (2 * a) (2 * b) x) (hspan : Spans spec a b) :
    Between spec a b (UnpackedFloat.sqrt spec x) := by
  cases hx with
  | @intro m e pos full low high =>
    have hleast : spec.minExponent ≤ (e + spec.mantissaBits + 1) / 2 - spec.mantissaBits := by
      have := lt_exponent full low
      have := hspan.least
      omega
    obtain ⟨M, k, E, acc, v, hbits, hke, hM, hstands, hfloor, hceil, hsqrt⟩ :=
      exists_sqrt_eq full pos hleast
    have hle : E ≤ b := by
      have := exponent_le full pos high
      have := mantissaBits_pos spec
      omega
    have hE : (0 : ℚ) < 2 ^ E := zpow_pos two_pos E
    have hvalue : (m : ℚ) * 2 ^ e = (m * 2 ^ k : ℕ) * 2 ^ (2 * E) := by
      rw [hke, two_zpow_add]
      push_cast
      ring
    rw [hvalue] at low high
    rw [hsqrt]
    refine roundWithAccuracy_between (v := v * 2 ^ E) hspan ?_ hbits ?_ ?_
    · rwa [mul_div_cancel_right₀ _ hE.ne']
    · refine (two_zpow_le_sqrt (hM ▸ Nat.one_le_two_pow.trans hbits) low).trans ?_
      exact mul_le_mul_of_nonneg_right (hM ▸ hfloor) hE.le
    · refine lt_of_le_of_lt ?_ (lt_add_of_pos_right _ (zpow_pos two_pos _))
      have hroot : M * M ≤ m * 2 ^ k := hM ▸ Nat.sqrt_le _
      exact root_le_two_zpow hle hroot hceil high

/-- Packing loses nothing of a number with all its digits. -/
theorem unpack_pack (hx : Between spec a b x) (hspan : Spans spec a b) :
    UnpackedFloat.unpack spec (UnpackedFloat.pack spec x) = x := by
  cases hx with
  | @intro m e pos full low high =>
    have hlow := lt_exponent full low
    have hhigh := exponent_le full pos high
    obtain ⟨hleast, hgreatest⟩ := hspan
    have hbias := exponentBias_add_one spec
    have hexponents := two_pow_exponentBits spec
    have hmin : spec.minExponent = 2 - spec.exponentBias - spec.mantissaBits := by
      rw [Format.minExponent]
      omega
    have hgreatest : b ≤ spec.exponentBias := by omega
    have hbits : spec.mantissaBits = 1 + spec.mantissaBitsWithoutImplicit := rfl
    -- the biased exponent is neither that of a number with fewer digits nor that of an infinity
    obtain ⟨biased, hbiased⟩ :
        ∃ biased, biased = (e + spec.exponentBias + spec.mantissaBitsWithoutImplicit).toNat :=
      ⟨_, rfl⟩
    have hexponent : (BitVec.ofNat spec.exponentBits biased).toNat = biased := by
      rw [BitVec.toNat_ofNat, Nat.mod_eq_of_lt (by omega)]
    have hzero : BitVec.ofNat spec.exponentBits biased ≠ 0#_ := by
      intro heq
      have := hexponent.symm.trans (congrArg BitVec.toNat heq)
      rw [BitVec.toNat_zero] at this
      omega
    have hones : BitVec.ofNat spec.exponentBits biased ≠ -1#_ := by
      intro heq
      have := hexponent.symm.trans (congrArg BitVec.toNat heq)
      rw [BitVec.neg_one_eq_allOnes, BitVec.toNat_allOnes] at this
      omega
    have hpack : UnpackedFloat.pack spec (.finite .positive m e pos) =
        packComponents spec .positive (BitVec.ofNat _ biased) (BitVec.ofNat _ m) := by
      rw [UnpackedFloat.pack]
      simp only [← hbiased]
      rw [if_neg (by omega), if_pos full]
    rw [hpack, UnpackedFloat.unpack]
    simp only [unpackMantissa_packComponents, unpackExponent_packComponents,
      unpackSign_packComponents, Sign.ofBitVec_toBitVec, if_neg hzero, if_neg hones, hexponent,
      toNat_implicit_append full pos]
    congr 1
    omega

end Between

/-! ### Numbers that are not negative -/

/-- Zero of either sign, or a positive number with all its digits between two powers of two. -/
def Sized (spec : Format) (a b : ℤ) (x : UnpackedFloat) : Prop :=
  (∃ s, x = .zero s) ∨ Between spec a b x

namespace Sized

variable {x y : UnpackedFloat}

theorem mono (h : Sized spec a b x) (hc : c ≤ a) (hd : b ≤ d) : Sized spec c d x :=
  h.imp_right fun h => h.mono hc hd

theorem unpack_pack (h : Sized spec a b x) (hspan : Spans spec a b) :
    UnpackedFloat.unpack spec (UnpackedFloat.pack spec x) = x := by
  rcases h with ⟨s, rfl⟩ | h
  · exact unpack_packedZero
  · exact h.unpack_pack hspan

theorem mul (hx : Sized spec a b x) (hy : Sized spec c d y) (hspan : Spans spec (a + c) (b + d)) :
    Sized spec (a + c) (b + d) (UnpackedFloat.mul spec x y) := by
  rcases hx with ⟨s, rfl⟩ | hx
  · rcases hy with ⟨s', rfl⟩ | hy
    · exact Or.inl ⟨_, rfl⟩
    · cases hy
      exact Or.inl ⟨_, rfl⟩
  · rcases hy with ⟨s', rfl⟩ | hy
    · cases hx
      exact Or.inl ⟨_, rfl⟩
    · exact Or.inr (hx.mul hy hspan)

/-- A sum is zero only if both numbers are. -/
theorem add (hx : Sized spec a b x) (hy : Sized spec c d y) (hspan : Spans spec a b)
    (hleast : a ≤ c) (hsmall : d + spec.mantissaBits < b) :
    Sized spec a b (UnpackedFloat.add spec x y) ∧
      (Between spec a b x ∨ Between spec c d y →
        Between spec a b (UnpackedFloat.add spec x y)) := by
  rcases hx with ⟨s, rfl⟩ | hx
  · rcases hy with ⟨s', rfl⟩ | hy
    · refine ⟨Or.inl ?_, by rintro (h | h) <;> cases h⟩
      rw [UnpackedFloat.add]
      split
      · exact ⟨s, rfl⟩
      · exact ⟨.positive, rfl⟩
    · have hsum : Between spec a b (UnpackedFloat.add spec (.zero s) y) := by
        have hy' := hy.mono hleast (by omega : d ≤ b)
        cases hy
        exact hy'
      exact ⟨Or.inr hsum, fun _ => hsum⟩
  · have hsum : Between spec a b (UnpackedFloat.add spec x y) := by
      rcases hy with ⟨s, rfl⟩ | hy
      · have hx' := hx
        cases hx
        exact hx'
      · exact hx.add hy hspan hsmall
    exact ⟨Or.inr hsum, fun _ => hsum⟩

theorem div (hx : Sized spec a b x) (hy : Between spec c d y)
    (hspan : Spans spec (a - d - 1) (b - c)) :
    Sized spec (a - d) (b - c) (UnpackedFloat.div spec x y) := by
  rcases hx with ⟨s, rfl⟩ | hx
  · cases hy
    exact Or.inl ⟨_, rfl⟩
  · exact Or.inr (hx.div hy hspan)

theorem zero_le (hx : Sized spec a b x) : UnpackedFloat.le (.zero .positive) x = true := by
  rcases hx with ⟨s, rfl⟩ | hx
  · rfl
  · cases hx
    rfl

end Sized

/-- A sum from the left of numbers that are not negative, the greatest of them less than half of the
last digit of the bound, stays below the bound however many they are. It is zero only if all of them
are. -/
theorem sized_foldl_add {α β : Type} (number : α → UnpackedFloat) (term : β → UnpackedFloat)
    {step : α → β → α}
    (hstep : ∀ sum t, number (step sum t) =
      unpack spec (pack spec (add spec (number sum) (term t))))
    (hspan : Spans spec a b) (hleast : a ≤ c) (hsmall : d + spec.mantissaBits < b) {terms : List β}
    (hterms : ∀ t ∈ terms, Sized spec c d (term t)) {start : α}
    (hstart : Sized spec a b (number start)) :
    Sized spec a b (number (terms.foldl step start)) ∧
      (Between spec a b (number start) ∨ (∃ t ∈ terms, Between spec c d (term t)) →
        Between spec a b (number (terms.foldl step start))) := by
  induction terms generalizing start with
  | nil => exact ⟨hstart, fun h => h.resolve_right (by simp)⟩
  | cons t terms ih =>
    rw [List.forall_mem_cons] at hterms
    obtain ⟨hsum, hpositive⟩ := hstart.add hterms.1 hspan hleast hsmall
    have hnext : number (step start t) = add spec (number start) (term t) := by
      rw [hstep, hsum.unpack_pack hspan]
    obtain ⟨hsized, hbetween⟩ := ih hterms.2 (hnext ▸ hsum)
    refine ⟨hsized, fun h => hbetween ?_⟩
    rw [List.exists_mem_cons_iff, ← or_assoc] at h
    exact h.imp_left fun h => hnext ▸ hpositive h

theorem Between.zero_lt {x : UnpackedFloat} (h : Between spec a b x) :
    UnpackedFloat.lt (.zero .positive) x = true := by
  cases h
  rfl

end Rounding

end HybridSearch
