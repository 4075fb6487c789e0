import HybridSearch.Vector.Single
import Mathlib.Data.Nat.Digits.Defs
import Mathlib.Data.Fintype.Basic
import Mathlib.Tactic.FinCases

/-!
# Vectors as bytes

The bytes of a number are the digits of its bits to the base 256, the lowest first, and four of them
are the digits of one number only. A vector is written as the bytes of its components, so bytes
stand for a vector if they come in fours, and then for one.

## Main results

* `Single.ofDigits_toBytes`, `Single.toNat_ofBytes` — four bytes as digits.
* `Embedding.getElem?_encode` — which byte stands where.
* `Embedding.decode?_eq_some_iff`, `Embedding.decode?_eq_none_iff` — the bytes of a vector, and
  those of none.
* `Embedding.codec_bijective` — vectors and bytes that come in fours.
-/

namespace HybridSearch

/-! ### One number -/

namespace Single

theorem getElem?_toBytes (x : Single) (place : Fin 4) :
    x.toBytes[(place : ℕ)]? = some (UInt8.ofNat (x.bits.toNat / 256 ^ (place : ℕ))) := by
  have hshift (places : ℕ) : x.bits.toNat >>> places = x.bits.toNat / 2 ^ places :=
    Nat.shiftRight_eq_div_pow ..
  fin_cases place <;> simp [toBytes, ← UInt8.toNat_inj, hshift]

theorem ofDigits_toBytes (x : Single) :
    Nat.ofDigits 256 (x.toBytes.map UInt8.toNat) = x.bits.toNat := by
  have hlt := x.bits.toNat_lt
  simp only [toBytes, List.map_cons, List.map_nil, Nat.ofDigits_cons, Nat.ofDigits_nil]
  simp [Nat.shiftRight_eq_div_pow]
  omega

theorem toNat_ofBytes (a b c d : UInt8) :
    (ofBytes a b c d).bits.toNat = Nat.ofDigits 256 ([a, b, c, d].map UInt8.toNat) := by
  have ha := a.toNat_lt
  have hb := b.toNat_lt
  have hc := c.toNat_lt
  have hd := d.toNat_lt
  have hfit {byte : ℕ} (width : ℕ) (hbyte : byte < 2 ^ 8) (hwidth : width ≤ 24) :
      byte <<< width % 2 ^ 32 = byte <<< width := by
    refine Nat.mod_eq_of_lt ?_
    rw [Nat.shiftLeft_eq]
    calc byte * 2 ^ width < 2 ^ 8 * 2 ^ width := Nat.mul_lt_mul_of_pos_right hbyte (by positivity)
      _ ≤ 2 ^ 8 * 2 ^ 24 := Nat.mul_le_mul_left _ (Nat.pow_le_pow_right two_pos hwidth)
  -- the bytes do not overlap, so that joining them is adding them
  have hor {low width : ℕ} (high : ℕ) (hlow : low < 2 ^ width) :
      low ||| high <<< width = low + high * 2 ^ width := by
    rw [Nat.or_comm, ← Nat.shiftLeft_add_eq_or_of_lt hlow, Nat.shiftLeft_eq, Nat.add_comm]
  simp only [ofBytes, UInt32.toNat_or, UInt32.toNat_shiftLeft, UInt8.toNat_toUInt32]
  show a.toNat ||| b.toNat <<< 8 % 2 ^ 32 ||| c.toNat <<< 16 % 2 ^ 32 |||
    d.toNat <<< 24 % 2 ^ 32 = _
  have hlow : a.toNat + b.toNat * 2 ^ 8 < 2 ^ 16 := by omega
  have hmiddle : a.toNat + b.toNat * 2 ^ 8 + c.toNat * 2 ^ 16 < 2 ^ 24 := by omega
  rw [hfit 8 hb (by omega), hfit 16 hc (by omega), hfit 24 hd (by omega), hor _ ha, hor _ hlow,
    hor _ hmiddle]
  simp only [List.map_cons, List.map_nil, Nat.ofDigits_cons, Nat.ofDigits_nil]
  omega

theorem toBytes_ofBytes (a b c d : UInt8) : (ofBytes a b c d).toBytes = [a, b, c, d] := by
  have hdigits := ofDigits_toBytes (ofBytes a b c d)
  rw [toNat_ofBytes] at hdigits
  have hmap : Function.Injective (List.map UInt8.toNat) :=
    List.map_injective_iff.mpr fun _ _ => UInt8.toNat_inj.mp
  refine hmap (Nat.ofDigits_inj_of_len_eq (by norm_num) rfl ?_ ?_ hdigits)
  all_goals
    intro digit hdigit
    obtain ⟨byte, -, rfl⟩ := List.mem_map.mp hdigit
    exact byte.toNat_lt

theorem ofBytes_toBytes (x : Single) {a b c d : UInt8} (h : x.toBytes = [a, b, c, d]) :
    ofBytes a b c d = x := by
  have hbits := toNat_ofBytes a b c d
  rw [← h, ofDigits_toBytes] at hbits
  exact Single.mk.injEq .. ▸ UInt32.toNat_inj.mp hbits

end Single

/-! ### Vectors -/

namespace Embedding

@[simp] theorem encode_nil : encode [] = [] := rfl

@[simp] theorem encode_cons (x : Single) (vector : Embedding) :
    encode (x :: vector) = x.toBytes ++ encode vector :=
  List.flatMap_cons

@[simp] theorem length_encode (vector : Embedding) :
    (encode vector).length = 4 * vector.length := by
  induction vector with
  | nil => rfl
  | cons x vector ih =>
    rw [encode_cons, List.length_append, ih, List.length_cons]
    show 4 + _ = _
    omega

/-- **Which byte stands where:** the bytes of the components follow each other, those of one
component the lowest first. -/
theorem getElem?_encode (vector : Embedding) (i : ℕ) (place : Fin 4) :
    (encode vector)[4 * i + place]? =
      vector[i]?.map fun x => UInt8.ofNat (x.bits.toNat / 256 ^ (place : ℕ)) := by
  induction vector generalizing i with
  | nil => rfl
  | cons x vector ih =>
    have hlength : x.toBytes.length = 4 := rfl
    cases i with
    | zero =>
      rw [encode_cons, Nat.mul_zero, Nat.zero_add, List.getElem?_append_left (by omega),
        Single.getElem?_toBytes]
      rfl
    | succ i =>
      rw [encode_cons, List.getElem?_append_right (by omega), List.getElem?_cons_succ, ← ih]
      congr 1
      omega

/-- **The bytes of a vector** are read as this vector, and no others are. -/
theorem decode?_eq_some_iff {bytes : Bytes} {vector : Embedding} :
    decode? bytes = some vector ↔ encode vector = bytes := by
  constructor
  · intro h
    fun_induction decode? bytes generalizing vector with
    | case1 =>
      cases h
      rfl
    | case2 a b c d rest ih =>
      obtain ⟨tail, htail, rfl⟩ := Option.map_eq_some_iff.mp h
      rw [encode_cons, Single.toBytes_ofBytes, ih htail]
      rfl
    | case3 => cases h
  · rintro rfl
    induction vector with
    | nil => rfl
    | cons x vector ih =>
      rw [encode_cons, Single.toBytes]
      show (decode? (encode vector)).map _ = _
      rw [ih, Single.ofBytes_toBytes x rfl]
      rfl

theorem decode?_eq_none_iff {bytes : Bytes} : decode? bytes = none ↔ bytes.length % 4 ≠ 0 := by
  fun_induction decode? bytes with
  | case1 => simp
  | case2 a b c d rest ih =>
    rw [Option.map_eq_none_iff, ih]
    simp only [List.length_cons]
    omega
  | case3 bytes hnil hfour =>
    match bytes with
    | [] => exact absurd rfl hnil
    | [_] | [_, _] | [_, _, _] => simp
    | a :: b :: c :: d :: rest => exact absurd rfl (hfour a b c d rest)

/-- **Vectors and bytes that come in fours** are turned into each other: each component into four
bytes, the lowest first, whatever its bits are, and back. -/
theorem codec_bijective :
    (∀ vector : Embedding, decode? (encode vector) = some vector ∧
      (encode vector).length = 4 * vector.length ∧
      ∀ (i : ℕ) (place : Fin 4), (encode vector)[4 * i + place]? =
        vector[i]?.map fun x => UInt8.ofNat (x.bits.toNat / 256 ^ (place : ℕ))) ∧
    ∀ bytes : Bytes, (decode? bytes = none ↔ bytes.length % 4 ≠ 0) ∧
      ∀ vector, decode? bytes = some vector ↔ encode vector = bytes :=
  ⟨fun vector => ⟨decode?_eq_some_iff.mpr rfl, length_encode vector, getElem?_encode vector⟩,
    fun _ => ⟨decode?_eq_none_iff, fun _ => decode?_eq_some_iff⟩⟩

end Embedding

end HybridSearch
