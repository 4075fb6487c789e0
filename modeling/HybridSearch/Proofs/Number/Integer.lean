import HybridSearch.Json.Number
import HybridSearch.Proofs.Number.Decimal

/-!
# Integers of 64 bits as doubles

Every positive number in the range of the doubles lies between the midpoints to the neighbours of
one of them: of the double that a significand with all its digits, rounded to the nearest integer,
makes. The double nearest to an integer of 64 bits is therefore finite.

## Main results

* `Binary.exists_covers` — the double as which a number reads back.
* `Rounding.isFinite_ofInt` — an integer of 64 bits is turned into a finite double.
* `Number.isFinite_toFloat` — so is every number of a document.
-/

namespace HybridSearch

namespace Binary

variable {v : ℚ} {q : ℤ} {m : ℕ}

/-- A number that is nearer to a significand than to the next one, or as near and that one is even,
reads back as it. -/
theorem exists_covers_of_down (hleast : -1074 ≤ q) (hgreatest : q < 971) (hfull : 2 ^ 52 ≤ m)
    (hbits : m < 2 ^ 53) (hfloor : m ≤ v / 2 ^ q)
    (hdown : v / 2 ^ q < m + 1 / 2 ∨ v / 2 ^ q = m + 1 / 2 ∧ m % 2 = 0) :
    ∃ b : Binary, b.Normal ∧ b.Covers v := by
  refine ⟨⟨m, q, decide (m = 2 ^ 52 ∧ -1074 < q)⟩,
    .of_full hfull hbits hleast hgreatest.le decide_eq_true_iff, ?_⟩
  have hgap : (0 : ℚ) < if decide (m = 2 ^ 52 ∧ -1074 < q) then 1 / 4 else 1 / 2 := by
    split <;> norm_num
  rw [Covers]
  dsimp only
  split
  · refine ⟨by linarith, ?_⟩
    rcases hdown with h | h
    · exact h.le
    · exact h.1.le
  · rename_i hodd
    exact ⟨by linarith, hdown.resolve_right fun h => hodd h.2⟩

/-- A number that is nearer to the next significand reads back as that. -/
theorem exists_covers_of_up (hleast : -1074 ≤ q) (hgreatest : q < 971) (hfull : 2 ^ 52 ≤ m)
    (hbits : m < 2 ^ 53) (hlt : v / 2 ^ q < m + 1) (hup : m + 1 / 2 ≤ v / 2 ^ q)
    (heven : m % 2 = 0 → m + 1 / 2 < v / 2 ^ q) : ∃ b : Binary, b.Normal ∧ b.Covers v := by
  by_cases hnext : m + 1 < 2 ^ 53
  · refine ⟨⟨m + 1, q, false⟩, .of_full (by omega) hnext hleast hgreatest.le ?_, ?_⟩
    · simp only [Bool.false_eq_true, false_iff]
      omega
    · rw [Covers]
      dsimp only
      rw [if_neg Bool.false_ne_true]
      push_cast
      split
      · constructor <;> linarith
      · have := heven (by omega)
        constructor <;> linarith
  · -- Rounding up reaches the next power of two, and so the next exponent.
    have hm : (m : ℚ) = 2 ^ 53 - 1 := by
      have : m + 1 = 2 ^ 53 := by omega
      rw [eq_sub_iff_add_eq]
      exact_mod_cast this
    refine ⟨⟨2 ^ 52, q + 1, true⟩, .of_full le_rfl (by norm_num) (by omega) (by omega) ?_, ?_⟩
    · simp only [true_iff, true_and]
      omega
    · rw [Covers]
      dsimp only
      rw [if_pos (by norm_num), if_pos rfl, zpow_add_one₀ two_ne_zero, ← div_div]
      push_cast
      constructor <;> linarith

/-- **A number that is `2 ^ q` times a number of 53 binary digits reads back as some double.** -/
theorem exists_covers (hleast : -1074 ≤ q) (hgreatest : q < 971) (hlow : 2 ^ 52 ≤ v / 2 ^ q)
    (hhigh : v / 2 ^ q < 2 ^ 53) : ∃ b : Binary, b.Normal ∧ b.Covers v := by
  have hnonneg : 0 ≤ v / 2 ^ q := le_trans (by norm_num) hlow
  have hfloor := Nat.floor_le hnonneg
  have hlt := Nat.lt_floor_add_one (v / 2 ^ q)
  have hfull : 2 ^ 52 ≤ ⌊v / 2 ^ q⌋₊ := Nat.le_floor (by exact_mod_cast hlow)
  have hbits : ⌊v / 2 ^ q⌋₊ < 2 ^ 53 := (Nat.floor_lt hnonneg).mpr (by exact_mod_cast hhigh)
  generalize ⌊v / 2 ^ q⌋₊ = m at *
  by_cases hdown : v / 2 ^ q < m + 1 / 2 ∨ v / 2 ^ q = m + 1 / 2 ∧ m % 2 = 0
  · exact exists_covers_of_down hleast hgreatest hfull hbits hfloor hdown
  · rw [not_or, not_lt] at hdown
    exact exists_covers_of_up hleast hgreatest hfull hbits hlt hdown.1 fun heven =>
      hdown.1.lt_of_ne fun heq => hdown.2 ⟨heq.symm, heven⟩

end Binary

namespace Rounding

theorem isFinite_ofNat {n : ℕ} (hn : n < 2 ^ 64) : (Float.ofNat n).isFinite = true := by
  by_cases h0 : n = 0
  · subst h0
    decide +kernel
  have hpos : 0 < n := Nat.pos_of_ne_zero h0
  have hlog : n.log2 < 64 := (Nat.log2_lt h0).mpr hn
  have hpow : (0 : ℚ) < 2 ^ ((n.log2 : ℤ) - 52) := zpow_pos two_pos _
  have scale (k : ℕ) : (2 : ℚ) ^ (52 + k) * 2 ^ ((n.log2 : ℤ) - 52) = 2 ^ (n.log2 + k) := by
    rw [← zpow_natCast, ← zpow_natCast, ← zpow_add₀ two_ne_zero]
    congr 1
    push_cast
    omega
  have hlow : 2 ^ 52 ≤ (n : ℚ) / 2 ^ ((n.log2 : ℤ) - 52) := by
    rw [le_div_iff₀ hpow, scale 0]
    exact_mod_cast Nat.log2_self_le h0
  have hhigh : (n : ℚ) / 2 ^ ((n.log2 : ℤ) - 52) < 2 ^ 53 := by
    rw [div_lt_iff₀ hpow, scale 1]
    exact_mod_cast Nat.lt_log2_self (n := n)
  obtain ⟨b, hb, hcovers⟩ := Binary.exists_covers (by omega) (by omega) hlow hhigh
  have hvalue : Decimal.value ⟨n, 0⟩ = n := by rw [Decimal.value, zpow_zero, mul_one]
  have heq : Float.ofNat n = _ := ofScientific_eq (d := ⟨n, 0⟩) hb hpos (hvalue ▸ hcovers)
  rw [heq]
  exact Binary64.isFinite_ofModel_pack hb .positive

theorem isFinite_neg {x : Float} (hx : x.isFinite = true) : (-x).isFinite = true := by
  have hneg : -x = .ofModel (.pack x.toModel.unpack.neg) := rfl
  rw [hneg]
  rcases Binary64.unpack_of_isFinite hx with ⟨-, h⟩ | ⟨hb, h⟩
  · rw [h]
    cases Binary64.sign x <;> rfl
  · rw [h]
    exact Binary64.isFinite_ofModel_pack hb _

/-- **An integer of 64 bits is turned into a finite double.** -/
theorem isFinite_ofInt {n : ℤ} (h : Number.Fits n) : (Float.ofInt n).isFinite = true := by
  cases n with
  | ofNat n =>
    have hn : (n : ℤ) < 0x10000000000000000 := h.2
    exact isFinite_ofNat (by omega)
  | negSucc n =>
    have hn : -0x8000000000000000 ≤ Int.negSucc n := h.1
    exact isFinite_neg (isFinite_ofNat (by omega))

end Rounding

theorem Number.isFinite_toFloat (number : Number) : number.toFloat.isFinite = true := by
  cases number with
  | int value fits => exact Rounding.isFinite_ofInt fits
  | float value finite => exact finite

end HybridSearch
