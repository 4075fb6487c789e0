import HybridSearch.Proofs.Number.Binary64
import HybridSearch.Proofs.Number.Magnitude
import HybridSearch.Vector.Single

/-!
# What is computed with single precision numbers

A number that is computed is stored by its bits and read back for the next operation, and nothing
of it is lost on the way. What a number between two powers of two is widened to lies between the
same.

## Main definitions

* `Single.number` — the sign, the significand and the exponent of a number.

## Main results

* `Single.number_add`, `Single.number_mul`, `Single.number_div` — operations.
* `Single.sized_toFloat`, `Single.between_toFloat` — a number and the double of the same value.
-/

namespace HybridSearch.Single

open Float.Model (Format UnpackedFloat)
open Float.Model.UnpackedFloat
open Rounding

variable {a b c d : ℤ} {x y : Single}

/-! ### Operations -/

def number (x : Single) : UnpackedFloat := x.toFloat32.toModel.unpack

theorem toFloat32_ofFloat32 (x : Float32) : (ofFloat32 x).toFloat32 = x := Float32.ofBits_toBits x

theorem number_ofFloat32 (x : Float32) : (ofFloat32 x).number = x.toModel.unpack :=
  congrArg (fun x => x.toModel.unpack) (toFloat32_ofFloat32 x)

theorem number_add (x y : Single) :
    (x + y).number =
      unpack Format.binary32
        (pack Format.binary32 (UnpackedFloat.add Format.binary32 x.number y.number)) :=
  number_ofFloat32 (x.toFloat32 + y.toFloat32)

theorem number_mul (x y : Single) :
    (x * y).number =
      unpack Format.binary32
        (pack Format.binary32 (UnpackedFloat.mul Format.binary32 x.number y.number)) :=
  number_ofFloat32 (x.toFloat32 * y.toFloat32)

theorem number_div (x y : Single) :
    (x / y).number =
      unpack Format.binary32
        (pack Format.binary32 (UnpackedFloat.div Format.binary32 x.number y.number)) :=
  number_ofFloat32 (x.toFloat32 / y.toFloat32)

theorem zero_le_of_sized (h : Sized Format.binary32 a b x.number) : 0.0 ≤ x.toFloat32 :=
  decide_eq_true h.zero_le

theorem zero_lt_of_between (h : Between Format.binary32 a b x.number) : 0.0 < x.toFloat32 :=
  decide_eq_true h.zero_lt

theorem sized_mul (hx : Sized Format.binary32 a b x.number)
    (hy : Sized Format.binary32 c d y.number) (hspan : Spans Format.binary32 (a + c) (b + d)) :
    Sized Format.binary32 (a + c) (b + d) (x * y).number := by
  have h := hx.mul hy hspan
  rwa [number_mul, h.unpack_pack hspan]

theorem between_mul (hx : Between Format.binary32 a b x.number)
    (hy : Between Format.binary32 c d y.number) (hspan : Spans Format.binary32 (a + c) (b + d)) :
    Between Format.binary32 (a + c) (b + d) (x * y).number := by
  have h := hx.mul hy hspan
  rwa [number_mul, h.unpack_pack hspan]

theorem sized_div (hx : Sized Format.binary32 a b x.number)
    (hy : Between Format.binary32 c d y.number)
    (hspan : Spans Format.binary32 (a - d - 1) (b - c)) :
    Sized Format.binary32 (a - d) (b - c) (x / y).number := by
  have h := hx.div hy hspan
  rwa [number_div, h.unpack_pack (hspan.mono (sub_le_self _ zero_le_one) le_rfl)]

theorem between_div (hx : Between Format.binary32 a b x.number)
    (hy : Between Format.binary32 c d y.number)
    (hspan : Spans Format.binary32 (a - d - 1) (b - c)) :
    Between Format.binary32 (a - d) (b - c) (x / y).number := by
  have h := hx.div hy hspan
  rwa [number_div, h.unpack_pack (hspan.mono (sub_le_self _ zero_le_one) le_rfl)]

/-! ### Widening -/

theorem unpack_pack_unpack (spec : Format) (hspec : 2 ≤ spec.exponentBits)
    (w : BitVec spec.numBits) : unpack spec (pack spec (unpack spec w)) = unpack spec w := by
  rw [pack_unpack w hspec]
  split
  · rename_i hnan
    rw [isNaNBits, decide_eq_true_iff] at hnan
    rw [unpack_packedNaN, unpack]
    simp only [if_pos hnan.1, if_neg hnan.2]
  · rfl

theorem number_eq_unpack (x : Single) : x.number = unpack Format.binary32 x.bits.toBitVec :=
  unpack_pack_unpack Format.binary32 (by decide) x.bits.toBitVec

theorem toFloat_eq_unpack (x : Single) :
    x.toFloat.toModel.unpack =
      unpack Format.binary64 (Precision.widened x.bits.toNat).toUInt64.toBitVec :=
  unpack_pack_unpack Format.binary64 (by decide) _

theorem toNat_unpackMantissa (w : BitVec 32) :
    (@unpackMantissa Format.binary32 w).toNat = w.toNat % 2 ^ 23 := by
  simp [unpackMantissa]

theorem toNat_unpackExponent (w : BitVec 32) :
    (@unpackExponent Format.binary32 w).toNat = w.toNat >>> 23 % 2 ^ 8 := by
  simp [unpackExponent]

theorem toNat_unpackSign (w : BitVec 32) :
    (@unpackSign Format.binary32 w).toNat = w.toNat >>> 31 := by
  have hlt : w.toNat >>> 31 < 2 := by
    rw [Nat.shiftRight_eq_div_pow]
    have := w.isLt
    omega
  simpa [unpackSign] using hlt

/-- The bits of a positive number with all its digits. -/
theorem bits_of_unpack_eq {w : BitVec 32} {m : ℕ} {e : ℤ} {pos : 0 < m}
    (h : unpack Format.binary32 w = .finite .positive m e pos) (full : m.log2 + 1 = 24) :
    ∃ exponent fraction, exponent < 255 ∧ exponent ≠ 0 ∧ fraction < 2 ^ 23 ∧
      w.toNat = exponent * 2 ^ 23 + fraction ∧ m = 2 ^ 23 + fraction ∧ e = exponent - 150 := by
  have hmantissa := toNat_unpackMantissa w
  have hexponent := toNat_unpackExponent w
  have hsign := toNat_unpackSign w
  have hfraction := (@unpackMantissa Format.binary32 w).isLt
  rw [unpack] at h
  split_ifs at h with hones hnone hzero hnone'
  · injection h with _ hm
    have hlog : m.log2 < 23 := (Nat.log2_lt pos.ne').mpr (hm ▸ hfraction)
    omega
  · injection h with hs hm he
    have himplicit : m = 2 ^ 23 + (@unpackMantissa Format.binary32 w).toNat := by
      rw [← hm, BitVec.toNat_append, ← Nat.shiftLeft_add_eq_or_of_lt hfraction]
      rfl
    have hpositive : @unpackSign Format.binary32 w = 0#1 := by
      by_contra hne
      rw [Sign.ofBitVec, if_neg hne] at hs
      cases hs
    have hlt : (@unpackExponent Format.binary32 w).toNat < 256 :=
      (@unpackExponent Format.binary32 w).isLt
    have hbias : (Format.binary32.exponentBias : ℤ) + Format.binary32.mantissaBitsWithoutImplicit =
        150 := rfl
    refine ⟨(@unpackExponent Format.binary32 w).toNat, (@unpackMantissa Format.binary32 w).toNat,
      lt_of_le_of_ne (Nat.le_of_lt_succ hlt) fun heq => hones (BitVec.eq_of_toNat_eq heq),
      fun heq => hzero (BitVec.eq_of_toNat_eq heq), hfraction, ?_, himplicit, by rw [← he, hbias]⟩
    have hnone : w.toNat >>> 31 = 0 := by
      rw [← hsign, hpositive]
      rfl
    rw [Nat.shiftRight_eq_div_pow] at hnone hexponent
    omega

theorem toNat_of_unpack_eq_zero {w : BitVec 32} {s : Sign}
    (h : unpack Format.binary32 w = .zero s) : w.toNat = 0 ∨ w.toNat = 2 ^ 31 := by
  have hmantissa := toNat_unpackMantissa w
  have hexponent := toNat_unpackExponent w
  rw [unpack] at h
  split_ifs at h with hones hnone hzero hnone'
  rw [hzero] at hexponent
  rw [hnone'] at hmantissa
  rw [BitVec.toNat_zero] at hexponent hmantissa
  rw [Nat.shiftRight_eq_div_pow] at hexponent
  have := w.isLt
  omega

theorem widened_eq {exponent fraction : ℕ} (hmost : exponent < 255) (hleast : exponent ≠ 0)
    (hfraction : fraction < 2 ^ 23) :
    Precision.widened (exponent * 2 ^ 23 + fraction) =
      (exponent + 896) * 2 ^ 52 + fraction * 2 ^ 29 := by
  have hsign : (exponent * 2 ^ 23 + fraction) >>> 31 = 0 := by
    rw [Nat.shiftRight_eq_div_pow]
    omega
  have hexponent : (exponent * 2 ^ 23 + fraction) >>> 23 % 256 = exponent := by
    rw [Nat.shiftRight_eq_div_pow]
    omega
  have hrest : (exponent * 2 ^ 23 + fraction) % 8388608 = fraction := by omega
  rw [Precision.widened]
  simp only [hsign, hexponent, hrest, Nat.shiftLeft_eq]
  rw [if_neg hmost.ne, if_pos hleast]
  omega

theorem unpack_widened {exponent fraction : ℕ} (hmost : exponent < 255) (hleast : exponent ≠ 0)
    (hfraction : fraction < 2 ^ 23) :
    unpack Format.binary64
        (Precision.widened (exponent * 2 ^ 23 + fraction)).toUInt64.toBitVec =
      .finite .positive (2 ^ 52 + fraction * 2 ^ 29) (exponent - 179) (by omega) := by
  generalize hw : (Precision.widened (exponent * 2 ^ 23 + fraction)).toUInt64.toBitVec = w
  have hword : w.toNat = (exponent + 896) * 2 ^ 52 + fraction * 2 ^ 29 := by
    rw [← hw, widened_eq hmost hleast hfraction, UInt64.toNat_toBitVec, Nat.toUInt64_eq,
      UInt64.toNat_ofNat']
    omega
  have hsign : @unpackSign Format.binary64 w = 0#1 := by
    refine BitVec.eq_of_toNat_eq ?_
    rw [Binary64.toNat_unpackSign, hword, Nat.shiftRight_eq_div_pow]
    show _ = 0
    omega
  have hexponent : (@unpackExponent Format.binary64 w).toNat = exponent + 896 := by
    rw [Binary64.toNat_unpackExponent, hword, Nat.shiftRight_eq_div_pow]
    omega
  have hmantissa : (@unpackMantissa Format.binary64 w).toNat = fraction * 2 ^ 29 := by
    rw [Binary64.toNat_unpackMantissa, hword]
    omega
  have hfields := @packComponents_unpackSign_unpackExponent_unpackMantissa Format.binary64 w
  have hpositive : Sign.ofBitVec 0#1 = .positive := rfl
  rw [hsign, hpositive] at hfields
  have hzero : @unpackExponent Format.binary64 w ≠ 0#11 := by
    intro heq
    have : exponent + 896 = 0 := hexponent.symm.trans (congrArg BitVec.toNat heq)
    omega
  have hones : @unpackExponent Format.binary64 w ≠ 2047#11 := by
    intro heq
    have : exponent + 896 = 2047 := hexponent.symm.trans (congrArg BitVec.toNat heq)
    omega
  have h := Binary64.unpack_packComponents .positive (@unpackMantissa Format.binary64 w) hzero hones
  rw [← hfields, h]
  simp only [hmantissa, hexponent, UnpackedFloat.finite.injEq, true_and]
  omega

theorem between_toFloat (h : Between Format.binary32 a b x.number) :
    Between Format.binary64 a b x.toFloat.toModel.unpack := by
  generalize hnumber : x.number = u at h
  cases h with
  | @intro m e pos full low high =>
    rw [number_eq_unpack] at hnumber
    obtain ⟨exponent, fraction, hmost, hleast, hfraction, hbits, hm, he⟩ :=
      bits_of_unpack_eq hnumber full
    have hvalue : ((2 ^ 52 + fraction * 2 ^ 29 : ℕ) : ℚ) * 2 ^ ((exponent : ℤ) - 179) =
        m * 2 ^ e := by
      have hexponent : (exponent : ℤ) - 150 = exponent - 179 + (29 : ℕ) := by omega
      rw [hm, he, hexponent, zpow_add₀ two_ne_zero, zpow_natCast]
      push_cast
      ring
    rw [toFloat_eq_unpack, show x.bits.toNat = exponent * 2 ^ 23 + fraction from hbits,
      unpack_widened hmost hleast hfraction]
    refine .intro _ ?_ (by rwa [hvalue]) (by rwa [hvalue])
    have hlog : (2 ^ 52 + fraction * 2 ^ 29).log2 = 52 := Binary64.log2_eq (by omega) (by omega)
    rw [hlog]
    rfl

theorem sized_toFloat (h : Sized Format.binary32 a b x.number) :
    Sized Format.binary64 a b x.toFloat.toModel.unpack := by
  refine h.imp ?_ between_toFloat
  rintro ⟨s, hs⟩
  have hbits : x = ⟨0⟩ ∨ x = ⟨0x80000000⟩ := by
    rw [number_eq_unpack] at hs
    refine (toNat_of_unpack_eq_zero hs).imp (fun h => ?_) fun h => ?_
    · exact congrArg Single.mk (UInt32.toNat_inj.mp h)
    · exact congrArg Single.mk (UInt32.toNat_inj.mp h)
  rcases hbits with rfl | rfl
  · exact ⟨.positive, rfl⟩
  · exact ⟨.negative, rfl⟩

end HybridSearch.Single
