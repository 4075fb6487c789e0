import HybridSearch.Proofs.Number.Rounding

/-!
# The fields of a double

The word of a double holds its sign, its exponent and its significand without the leading bit. A
double that is a number is made of the same significand and exponent that its shortest decimal is
found from, and packing them again gives the double.

## Main definitions

* `Binary64.sign` — the sign of a double.

## Main results

* `Binary64.unpack_of_isFinite` — the significand and the exponent of a number.
* `Binary64.unpack_of_isInf` — an infinity has nothing but a sign.
* `Binary64.unpack_pack`, `Binary64.pack_unpack` — packing loses nothing.
-/

namespace HybridSearch

open Float.Model (Format UnpackedFloat)
open Float.Model.UnpackedFloat

namespace Binary64

/-! ### The fields of a word -/

theorem toNat_unpackMantissa (w : BitVec 64) :
    (@unpackMantissa Format.binary64 w).toNat = w.toNat % 2 ^ 52 := by
  simp [unpackMantissa]

theorem toNat_unpackExponent (w : BitVec 64) :
    (@unpackExponent Format.binary64 w).toNat = w.toNat >>> 52 % 2 ^ 11 := by
  simp [unpackExponent]

theorem toNat_unpackSign (w : BitVec 64) :
    (@unpackSign Format.binary64 w).toNat = w.toNat >>> 63 := by
  have hlt : w.toNat >>> 63 < 2 := by
    rw [Nat.shiftRight_eq_div_pow]
    have := w.isLt
    omega
  simpa [unpackSign] using hlt

/-! ### Packing -/

theorem unpack_packComponents_zero (s : Sign) {m : BitVec 52} (hm : m ≠ 0#52) :
    UnpackedFloat.unpack Format.binary64 (packComponents Format.binary64 s 0#11 m) =
      .finite s m.toNat (-1074) (by simpa [BitVec.toNat_pos, BitVec.pos_iff_ne_zero]) := by
  rw [UnpackedFloat.unpack]
  simp [hm]
  rfl

theorem unpack_packComponents (s : Sign) {e : BitVec 11} (m : BitVec 52) (h₀ : e ≠ 0#11)
    (h₁ : e ≠ 2047#11) :
    UnpackedFloat.unpack Format.binary64 (packComponents Format.binary64 s e m) =
      .finite s (2 ^ 52 + m.toNat) (e.toNat - 1075) (by omega) := by
  have himplicit : (1#1 ++ m).toNat = 2 ^ 52 + m.toNat := by
    rw [BitVec.toNat_append, ← Nat.shiftLeft_add_eq_or_of_lt m.isLt]
    rfl
  rw [UnpackedFloat.unpack]
  simp [h₀, h₁]
  exact ⟨himplicit, rfl⟩

theorem log2_eq {m : ℕ} (h₁ : 2 ^ 52 ≤ m) (h₂ : m < 2 ^ 53) : m.log2 = 52 :=
  (Nat.log2_eq_iff (by omega)).mpr ⟨h₁, h₂⟩

theorem pack_finite {m : ℕ} {q : ℤ} (hm : 2 ^ 52 ≤ m) (hlt : m < 2 ^ 53) (hleast : -1074 ≤ q)
    (hgreatest : q ≤ 971) (s : Sign) (hpos : 0 < m) :
    UnpackedFloat.pack Format.binary64 (.finite s m q hpos) =
      packComponents Format.binary64 s (BitVec.ofNat 11 (q + 1075).toNat) (BitVec.ofNat 52 m) := by
  have hbias : q + (Format.binary64.exponentBias : ℤ) + (52 : ℕ) = q + 1075 := by
    rw [add_assoc]
    rfl
  rw [UnpackedFloat.pack]
  simp only [hbias]
  rw [if_neg (by omega), if_pos (by rw [log2_eq hm hlt]; rfl)]

theorem pack_subnormal {m : ℕ} (hlt : m < 2 ^ 52) (s : Sign) (hpos : 0 < m) :
    UnpackedFloat.pack Format.binary64 (.finite s m (-1074) hpos) =
      packComponents Format.binary64 s 0#11 (BitVec.ofNat 52 m) := by
  have hlog : m.log2 < 52 := (Nat.log2_lt hpos.ne').mpr hlt
  rw [UnpackedFloat.pack, if_neg (by decide), if_neg]
  show m.log2 + 1 ≠ 53
  omega

theorem finite_congr {s : Sign} {m n : ℕ} {q r : ℤ} (hm : 0 < m) (h : m = n) (h' : q = r) :
    UnpackedFloat.finite s m q hm = .finite s n r (h ▸ hm) := by
  subst h h'
  rfl

/-- Packing loses nothing of a double. -/
theorem unpack_pack {b : Binary} (hb : b.Normal) (s : Sign) :
    UnpackedFloat.unpack Format.binary64
        (UnpackedFloat.pack Format.binary64 (.finite s b.m b.q hb.pos)) =
      .finite s b.m b.q hb.pos := by
  have hleast := hb.least
  have hgreatest := hb.greatest
  have hlt := hb.lt
  by_cases hfull : 2 ^ 52 ≤ b.m
  · have htoNat : (BitVec.ofNat 11 (b.q + 1075).toNat).toNat = (b.q + 1075).toNat := by
      rw [BitVec.toNat_ofNat]
      omega
    have ne_ofNat {n : ℕ} (h : (b.q + 1075).toNat ≠ n % 2 ^ 11) :
        BitVec.ofNat 11 (b.q + 1075).toNat ≠ BitVec.ofNat 11 n := fun heq =>
      h (htoNat.symm.trans ((congrArg BitVec.toNat heq).trans (BitVec.toNat_ofNat ..)))
    rw [pack_finite hfull hlt hleast hgreatest,
      unpack_packComponents _ _ (ne_ofNat (by omega)) (ne_ofNat (by omega)), htoNat]
    refine finite_congr _ ?_ (by omega)
    rw [BitVec.toNat_ofNat]
    omega
  · have hq : b.q = -1074 := hb.full.resolve_right hfull
    have htoNat : (BitVec.ofNat 52 b.m).toNat = b.m := by
      rw [BitVec.toNat_ofNat]
      omega
    have hne : BitVec.ofNat 52 b.m ≠ 0#52 := fun heq =>
      hb.pos.ne' (htoNat.symm.trans (congrArg BitVec.toNat heq))
    rw [finite_congr hb.pos rfl hq, pack_subnormal (by omega),
      unpack_packComponents_zero _ hne]
    exact finite_congr _ htoNat rfl

theorem isFinite_ofModel_pack {b : Binary} (hb : b.Normal) (s : Sign) :
    (Float.ofModel (.pack (.finite s b.m b.q hb.pos))).isFinite = true :=
  congrArg UnpackedFloat.isFinite (unpack_pack hb s)

/-! ### The significand and the exponent of a double -/

/-- The significand and the exponent that the fields of a word show. -/
def ofFields (e m : ℕ) : Binary :=
  if e = 0 then ⟨m, -1074, false⟩ else ⟨m + 2 ^ 52, e - 1075, m = 0 && 1 < e⟩

theorem normal_ofFields {e m : ℕ} (he : e < 2047) (hm : m < 2 ^ 52) (h : e ≠ 0 ∨ m ≠ 0) :
    (ofFields e m).Normal := by
  rw [ofFields]
  split
  · rename_i h0
    refine ⟨Nat.pos_of_ne_zero (h.resolve_left (absurd h0)), hm.trans (by norm_num), le_rfl,
      (by norm_num), .inl rfl, ?_⟩
    show false = true ↔ m = 2 ^ 52 ∧ (-1074 : ℤ) < -1074
    simp
  · refine .of_full (Nat.le_add_left _ _) (by omega) (by omega) (by omega) ?_
    rw [Bool.and_eq_true, decide_eq_true_iff, decide_eq_true_iff]
    omega

/-- What the fields of a word show that is a number: zero or a positive double, and its sign. -/
theorem unpack_ofFields (s : Sign) (e : BitVec 11) (m : BitVec 52)
    (hfinite : (UnpackedFloat.unpack Format.binary64
      (packComponents Format.binary64 s e m)).isFinite = true) :
    ((ofFields e.toNat m.toNat).m = 0 ∧
        UnpackedFloat.unpack Format.binary64 (packComponents Format.binary64 s e m) = .zero s) ∨
      ∃ hb : (ofFields e.toNat m.toNat).Normal,
        UnpackedFloat.unpack Format.binary64 (packComponents Format.binary64 s e m) =
          .finite s (ofFields e.toNat m.toNat).m (ofFields e.toNat m.toNat).q hb.pos := by
  have hlt := m.isLt
  by_cases hmax : e = 2047#11
  · subst hmax
    exfalso
    rw [UnpackedFloat.unpack] at hfinite
    simp at hfinite
    split at hfinite <;> cases hfinite
  by_cases he : e = 0#11
  · subst he
    by_cases hm : m = 0#52
    · subst hm
      exact .inl ⟨rfl, by rw [UnpackedFloat.unpack]; simp⟩
    · refine .inr ⟨normal_ofFields (by decide) hlt (.inr ?_), ?_⟩
      · exact fun h => hm (BitVec.eq_of_toNat_eq h)
      · rw [unpack_packComponents_zero s hm]
        rfl
  · have he' : e.toNat ≠ 0 := fun h => he (BitVec.eq_of_toNat_eq h)
    have hmax' : e.toNat ≠ 2047 := fun h => hmax (BitVec.eq_of_toNat_eq h)
    have he'' := e.isLt
    refine .inr ⟨normal_ofFields (by omega) hlt (.inl he'), ?_⟩
    rw [unpack_packComponents s m he hmax]
    refine finite_congr _ ?_ ?_
    · rw [ofFields, if_neg he']
      exact Nat.add_comm ..
    · rw [ofFields, if_neg he']

/-- The sign of a double. -/
def sign (x : Float) : Sign := .ofBitVec (@unpackSign Format.binary64 x.toBits.toBitVec)

theorem packComponents_fields (x : Float) :
    packComponents Format.binary64 (sign x)
      (@unpackExponent Format.binary64 x.toBits.toBitVec)
      (@unpackMantissa Format.binary64 x.toBits.toBitVec) = x.toBits.toBitVec :=
  packComponents_unpackSign_unpackExponent_unpackMantissa _

theorem ofFloat_eq (x : Float) :
    Binary.ofFloat x =
      ofFields (@unpackExponent Format.binary64 x.toBits.toBitVec).toNat
        (@unpackMantissa Format.binary64 x.toBits.toBitVec).toNat := by
  rw [toNat_unpackMantissa, toNat_unpackExponent]
  rfl

/-- A double that is a number is zero, or its significand and exponent are those that its bits
show. -/
theorem unpack_of_isFinite {x : Float} (hx : x.isFinite = true) :
    ((Binary.ofFloat x).m = 0 ∧ x.toModel.unpack = .zero (sign x)) ∨
      ∃ hb : (Binary.ofFloat x).Normal,
        x.toModel.unpack = .finite (sign x) (Binary.ofFloat x).m (Binary.ofFloat x).q hb.pos := by
  have hunpack : x.toModel.unpack = UnpackedFloat.unpack Format.binary64
      (packComponents Format.binary64 (sign x)
        (@unpackExponent Format.binary64 x.toBits.toBitVec)
        (@unpackMantissa Format.binary64 x.toBits.toBitVec)) := by
    rw [packComponents_fields]
    rfl
  have hfinite : x.toModel.unpack.isFinite = true := hx
  rw [hunpack] at hfinite ⊢
  rw [ofFloat_eq]
  exact unpack_ofFields _ _ _ hfinite

/-- An infinity has nothing but a sign. -/
theorem unpack_of_isInf {x : Float} (hx : x.isInf = true) : x.toModel.unpack = .infinity (sign x) := by
  have hunpack : x.toModel.unpack = UnpackedFloat.unpack Format.binary64 x.toBits.toBitVec := rfl
  have hinf : x.toModel.unpack.isInf = true := hx
  rw [hunpack, UnpackedFloat.unpack] at hinf
  rw [hunpack, UnpackedFloat.unpack, sign]
  -- of the five kinds of words only one is an infinity
  split_ifs at hinf ⊢
  · rfl
  all_goals cases hinf

/-- Unpacking loses nothing of a double. -/
theorem pack_unpack (x : Float) : Float.ofModel (.pack x.toModel.unpack) = x := by
  obtain ⟨⟨bits, valid⟩⟩ := x
  simp only [Float.ofModel.injEq, Float.Model.mk.injEq, Float.Model.pack]
  exact congrArg UInt64.ofBitVec (pack_unpack_of_valid valid)

end Binary64

end HybridSearch
