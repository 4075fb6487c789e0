import HybridSearch.Proofs.Number.Decimal

/-!
# The shortest decimal reads back

The search tries the grids from the place of the first digit on. What it takes from a grid lies
between the midpoints to the neighbours of the double. The grid of seventeen digits has steps
smaller than the distance of those midpoints, so that one of the two neighbours on it lies
between them and the search never runs out.

## Main results

* `Binary.covers_of_admits` — what a grid admits reads back.
* `Binary.isSome_onGrid_seventeen` — seventeen digits suffice.
* `Binary.covers_shortest` — the shortest decimal of a double reads back as it.
-/

namespace HybridSearch

namespace Binary

variable {b : Binary}

/-! ### One grid -/

theorem exists_weights (b : Binary) (place : ℤ) : ∃ c : ℚ, 0 < c ∧
    ((b.weights place).1 : ℚ) = c * 2 ^ (b.q - 2) ∧ ((b.weights place).2 : ℚ) = c * 10 ^ place := by
  have htwo : (2 : ℚ) ≠ 0 := two_ne_zero
  have hten : (10 : ℚ) ≠ 0 := by norm_num
  refine ⟨10 ^ (-place).toNat * 2 ^ (-(b.q - 2)).toNat,
    mul_pos (pow_pos (by norm_num) _) (pow_pos two_pos _), ?_, ?_⟩
  · show ((10 ^ (-place).toNat <<< (b.q - 2).toNat : ℕ) : ℚ) = _
    rw [Nat.shiftLeft_eq]
    push_cast
    rw [mul_assoc, ← zpow_natCast 2 (-(b.q - 2)).toNat, ← zpow_add₀ htwo, ← zpow_natCast 2]
    congr 2
    omega
  · show ((10 ^ place.toNat <<< (-(b.q - 2)).toNat : ℕ) : ℚ) = _
    rw [Nat.shiftLeft_eq]
    push_cast
    rw [mul_right_comm, ← zpow_natCast 10 (-place).toNat, ← zpow_add₀ hten, ← zpow_natCast 10]
    congr 2
    omega

/-- A quarter of the unit and the step of a grid, as rational numbers. -/
theorem mul_step_eq (b : Binary) (place : ℤ) (n : ℕ) :
    (n * (b.weights place).2 : ℚ) =
      4 * (Decimal.value ⟨n, place⟩ / 2 ^ b.q) * (b.weights place).1 := by
  obtain ⟨c, -, hquarter, hstep⟩ := b.exists_weights place
  have hpow : (2 : ℚ) ^ b.q ≠ 0 := (zpow_pos two_pos _).ne'
  rw [hquarter, hstep, Decimal.value, zpow_sub₀ two_ne_zero]
  field_simp
  norm_num

theorem quarter_pos (b : Binary) (place : ℤ) : 0 < (b.weights place).1 := by
  show 0 < 10 ^ (-place).toNat <<< (b.q - 2).toNat
  rw [Nat.shiftLeft_eq]
  positivity

theorem step_pos (b : Binary) (place : ℤ) : 0 < (b.weights place).2 := by
  show 0 < 10 ^ place.toNat <<< (-(b.q - 2)).toNat
  rw [Nat.shiftLeft_eq]
  positivity

/-- What a grid admits reads back as the number. -/
theorem covers_of_admits (hm : 0 < b.m) {place : ℤ} {n : ℕ}
    (h : b.admits (b.weights place).1 (b.weights place).2 n = true) :
    b.Covers (Decimal.value ⟨n, place⟩) := by
  have hvalue := b.mul_step_eq place n
  have hquarter : (0 : ℚ) < (b.weights place).1 := by exact_mod_cast b.quarter_pos place
  generalize (b.weights place).1 = quarter at *
  generalize (b.weights place).2 = step at *
  generalize hu : Decimal.value ⟨n, place⟩ / 2 ^ b.q = u at *
  have hgap : ((4 * b.m - (if b.closeBelow then 1 else 2) : ℕ) : ℚ) =
      4 * (b.m - if b.closeBelow then 1 / 4 else 1 / 2) := by
    split <;> rw [Nat.cast_sub (by omega)] <;> push_cast <;> linarith
  have hlow : (((4 * b.m - (if b.closeBelow then 1 else 2)) * quarter : ℕ) : ℚ) =
      4 * (b.m - if b.closeBelow then 1 / 4 else 1 / 2) * quarter := by
    rw [Nat.cast_mul, hgap]
  have hhigh : (((4 * b.m + 2) * quarter : ℕ) : ℚ) = 4 * (b.m + 1 / 2) * quarter := by
    push_cast
    linarith
  rw [admits] at h
  rw [Covers, hu]
  have hn : ((n * step : ℕ) : ℚ) = 4 * u * quarter := by
    push_cast
    exact hvalue
  have le_iff (x y : ℚ) : 4 * x * quarter ≤ 4 * y * quarter ↔ x ≤ y := by
    rw [mul_le_mul_iff_left₀ hquarter, mul_le_mul_iff_right₀ (by norm_num)]
  have lt_iff (x y : ℚ) : 4 * x * quarter < 4 * y * quarter ↔ x < y := by
    rw [mul_lt_mul_iff_left₀ hquarter, mul_lt_mul_iff_right₀ (by norm_num)]
  split at h
  · rename_i heven
    rw [if_pos heven]
    rw [Bool.and_eq_true, decide_eq_true_iff, decide_eq_true_iff] at h
    rw [← le_iff, ← hlow, ← le_iff u, ← hhigh, ← hn]
    exact_mod_cast h
  · rename_i hodd
    rw [if_neg hodd]
    rw [Bool.and_eq_true, decide_eq_true_iff, decide_eq_true_iff] at h
    rw [← lt_iff, ← hlow, ← lt_iff u, ← hhigh, ← hn]
    exact_mod_cast h

theorem admits_of_onGrid {tieUp : Bool} {place : ℤ} {n : ℕ}
    (h : b.onGrid tieUp place = some n) :
    b.admits (b.weights place).1 (b.weights place).2 n = true := by
  generalize hw : b.weights place = w at *
  obtain ⟨quarter, step⟩ := w
  rw [onGrid, hw] at h
  dsimp only at h ⊢
  split at h
  · cases h
  · rename_i hbelow _
    cases h
    exact (Bool.and_eq_true_iff.mp hbelow).1
  · rename_i _ habove
    cases h
    exact habove
  · rename_i hbelow habove
    have hbelow := (Bool.and_eq_true_iff.mp hbelow).1
    split at h
    · cases h
      exact hbelow
    · split at h
      · cases h
        exact habove
      · split at h
        · cases h
          exact habove
        · cases h
          exact hbelow

/-- If a grid holds no number that reads back, then neither neighbour does. -/
theorem admits_of_onGrid_eq_none {tieUp : Bool} {place : ℤ} (h : b.onGrid tieUp place = none)
    {quarter step below : ℕ} (hw : b.weights place = (quarter, step))
    (hbelow : 4 * b.m * quarter / step = below) (hne : below ≠ 0) :
    b.admits quarter step below = false ∧ b.admits quarter step (below + 1) = false := by
  rw [onGrid, hw] at h
  dsimp only at h
  rw [hbelow, bne_iff_ne.mpr hne, Bool.and_true] at h
  split at h
  · rename_i h₁ h₂
    exact ⟨h₁, h₂⟩
  · cases h
  · cases h
  · split at h
    · cases h
    · split at h
      · cases h
      · split at h <;> cases h

/-- A grid that is fine enough holds a number that reads back. -/
theorem isSome_onGrid (hm : 0 < b.m) (tieUp : Bool) {place : ℤ}
    (hfine : (b.weights place).2 < (if b.closeBelow then 3 else 4) * (b.weights place).1)
    (hsmall : (b.weights place).2 ≤ 4 * b.m * (b.weights place).1) :
    (b.onGrid tieUp place).isSome = true := by
  rw [Option.isSome_iff_ne_none]
  intro hnone
  have hstep := b.step_pos place
  have hquarter := b.quarter_pos place
  obtain ⟨quarter, step, hw⟩ : ∃ quarter step, b.weights place = (quarter, step) := ⟨_, _, rfl⟩
  rw [hw] at hquarter hfine hsmall hstep
  dsimp only at hquarter hfine hsmall hstep
  obtain ⟨below, hbelow⟩ : ∃ below, 4 * b.m * quarter / step = below := ⟨_, rfl⟩
  have hlower : below * step ≤ 4 * b.m * quarter := hbelow ▸ Nat.div_mul_le_self ..
  have hupper : 4 * b.m * quarter < (below + 1) * step := by
    rw [← hbelow]
    exact (Nat.lt_div_mul_add hstep).trans_eq (Nat.succ_mul ..).symm
  have hne : below ≠ 0 := hbelow ▸ (Nat.div_pos hsmall hstep).ne'
  obtain ⟨h₁, h₂⟩ := admits_of_onGrid_eq_none hnone hw hbelow hne
  -- Neither neighbour is admitted, so that the step is as wide as the interval.
  have hwide : (below + 1) * step = below * step + step := Nat.succ_mul ..
  have hlow : (4 * b.m - if b.closeBelow then 1 else 2) * quarter +
      (if b.closeBelow then 1 else 2) * quarter = 4 * b.m * quarter := by
    rw [← Nat.add_mul, Nat.sub_add_cancel (by split <;> omega)]
  have hhigh : (4 * b.m + 2) * quarter = 4 * b.m * quarter + 2 * quarter := Nat.add_mul ..
  have hgap : (if b.closeBelow then 3 else 4) * quarter =
      (if b.closeBelow then 1 else 2) * quarter + 2 * quarter := by
    split <;> omega
  rw [hgap] at hfine
  rw [admits] at h₁ h₂
  rw [hhigh] at h₁ h₂
  rw [hwide] at h₂ hupper
  generalize (4 * b.m - if b.closeBelow then 1 else 2) * quarter = low at *
  generalize (if b.closeBelow then 1 else 2) * quarter = gap at *
  generalize 4 * b.m * quarter = value at *
  generalize below * step = lower at *
  split at h₁
  · rename_i heven
    rw [if_pos heven, Bool.and_eq_false_iff, decide_eq_false_iff_not, decide_eq_false_iff_not] at h₂
    rw [Bool.and_eq_false_iff, decide_eq_false_iff_not, decide_eq_false_iff_not] at h₁
    omega
  · rename_i hodd
    rw [if_neg hodd, Bool.and_eq_false_iff, decide_eq_false_iff_not, decide_eq_false_iff_not] at h₂
    rw [Bool.and_eq_false_iff, decide_eq_false_iff_not, decide_eq_false_iff_not] at h₁
    omega

/-! ### The first digit -/

theorem cast_natPow {n p : ℕ} (h : Nat.pow 10 n = p) : (p : ℚ) = 10 ^ (n : ℤ) := by
  rw [← h, zpow_natCast]
  exact Nat.cast_pow 10 n

/-- The first digit of a double is at its place, so that it is at least that power of ten. -/
theorem pow_firstPlace_le (hb : b.Normal) : (10 : ℚ) ^ b.firstPlace ≤ b.m * 2 ^ b.q := by
  have hleast := hb.least
  obtain ⟨p, hp⟩ : ∃ p, Nat.pow 10 400 = p := ⟨_, rfl⟩
  have hlarge {e : ℕ} (he : e ≤ 1074) : 2 ^ e ≤ p := by
    refine (Nat.pow_le_pow_right two_pos he).trans ?_
    rw [← hp]
    decide +kernel
  have hcast := cast_natPow hp
  rw [firstPlace, hp]
  obtain ⟨scaled, hscaled⟩ : ∃ scaled, (b.m * p) <<< b.q.toNat >>> (-b.q).toNat = scaled :=
    ⟨_, rfl⟩
  rw [hscaled]
  rw [Nat.shiftLeft_eq, Nat.shiftRight_eq_div_pow] at hscaled
  have hpos : 0 < scaled := by
    rw [← hscaled]
    refine Nat.div_pos ?_ (Nat.two_pow_pos _)
    calc 2 ^ (-b.q).toNat ≤ p := hlarge (by omega)
      _ ≤ b.m * p := Nat.le_mul_of_pos_left _ hb.pos
      _ ≤ b.m * p * 2 ^ b.q.toNat := Nat.le_mul_of_pos_right _ (Nat.two_pow_pos _)
  have hlength : 0 < (Nat.toDigits 10 scaled).length := Nat.length_toDigits_pos
  have hten : (10 : ℚ) ≠ 0 := by norm_num
  calc (10 : ℚ) ^ (((Nat.toDigits 10 scaled).length : ℤ) - 401)
      = 10 ^ ((Nat.toDigits 10 scaled).length - 1) / p := by
        rw [hcast, ← zpow_natCast, ← zpow_sub₀ hten]
        congr 1
        omega
    _ ≤ scaled / p := by
        gcongr
        exact_mod_cast Decimal.pow_length_toDigits_le hpos
    _ ≤ (b.m * p * 2 ^ b.q.toNat : ℕ) / (2 ^ (-b.q).toNat : ℕ) / p := by
        rw [← hscaled]
        gcongr
        exact Nat.cast_div_le
    _ = b.m * (2 ^ b.q.toNat / 2 ^ (-b.q).toNat) := by
        have : (p : ℚ) ≠ 0 := hcast ▸ (zpow_pos (by norm_num) _).ne'
        push_cast
        field_simp
    _ = b.m * 2 ^ b.q := by
        rw [← zpow_natCast, ← zpow_natCast, ← zpow_sub₀ two_ne_zero]
        congr 2
        omega

/-- With seventeen digits the grid is fine enough. -/
theorem isSome_onGrid_seventeen (hb : b.Normal) (tieUp : Bool) :
    (b.onGrid tieUp (b.firstPlace - 16)).isSome = true := by
  have hpow : (0 : ℚ) < 2 ^ b.q := zpow_pos two_pos _
  obtain ⟨c, hc, hquarter, hstep⟩ := b.exists_weights (b.firstPlace - 16)
  rw [zpow_sub₀ two_ne_zero] at hquarter
  rw [zpow_sub₀ (by norm_num)] at hstep
  have hfirst := pow_firstPlace_le hb
  have hm : (b.m : ℚ) < 2 ^ 53 := by exact_mod_cast hb.lt
  refine isSome_onGrid hb.pos tieUp ?_ ?_
  · split
    · rename_i hclose
      have hleast : (b.m : ℚ) = 2 ^ 52 := by exact_mod_cast (hb.closeBelow_iff.mp hclose).1
      have : ((b.weights (b.firstPlace - 16)).2 : ℚ) <
          3 * (b.weights (b.firstPlace - 16)).1 := by
        rw [hquarter, hstep, mul_left_comm, mul_lt_mul_iff_right₀ hc]
        norm_num
        rw [hleast] at hfirst
        linarith
      exact_mod_cast this
    · have : ((b.weights (b.firstPlace - 16)).2 : ℚ) <
          4 * (b.weights (b.firstPlace - 16)).1 := by
        rw [hquarter, hstep, mul_left_comm, mul_lt_mul_iff_right₀ hc]
        norm_num
        nlinarith
      exact_mod_cast this
  · have : ((b.weights (b.firstPlace - 16)).2 : ℚ) ≤
        4 * b.m * (b.weights (b.firstPlace - 16)).1 := by
      rw [hquarter, hstep, mul_left_comm, mul_le_mul_iff_right₀ hc]
      norm_num
      have : (0 : ℚ) < 10 ^ b.firstPlace := zpow_pos (by norm_num) _
      linarith
    exact_mod_cast this

/-! ### The shortest decimal -/

theorem value_stripZeros (fuel : ℕ) (d : Decimal) : (stripZeros fuel d).value = d.value := by
  induction fuel generalizing d with
  | zero => rfl
  | succ fuel ih =>
    rw [stripZeros]
    split
    · rename_i h
      have hdigits : (d.digits : ℚ) = (d.digits / 10 : ℕ) * 10 := by
        exact_mod_cast (Nat.div_mul_cancel (Nat.dvd_of_mod_eq_zero h.2)).symm
      rw [ih, Decimal.value, Decimal.value, zpow_add_one₀ (by norm_num), hdigits, mul_assoc,
        mul_comm 10]
    · rfl

/-- The search finds a number that reads back, if some grid that it tries holds one. -/
theorem covers_search (hm : 0 < b.m) (tieUp : Bool) (first : ℤ) {left used k : ℕ}
    (hused : used ≤ k) (hleft : k < used + left)
    (hsome : (b.onGrid tieUp (first - k)).isSome = true) :
    b.Covers (b.search tieUp first left used).value := by
  induction left generalizing used with
  | zero => omega
  | succ left ih =>
    rw [search]
    split
    · rename_i n hgrid
      rw [value_stripZeros]
      exact covers_of_admits hm (admits_of_onGrid hgrid)
    · rename_i hgrid
      refine ih (Nat.lt_of_le_of_ne hused ?_) (by omega)
      rintro rfl
      rw [hgrid] at hsome
      cases hsome

/-- **The shortest decimal of a double reads back as it.** -/
theorem covers_shortest (hb : b.Normal) (tieUp : Bool) : b.Covers (b.shortest tieUp).value :=
  covers_search hb.pos tieUp b.firstPlace (k := 16) (by norm_num) (by norm_num)
    (isSome_onGrid_seventeen hb tieUp)

end Binary

end HybridSearch
