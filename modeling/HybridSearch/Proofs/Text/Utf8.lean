import HybridSearch.Text.Utf8

/-!
# Reading what was written

## Main results

* `Text.scan_utf8EncodeChar_append` — the bytes of a character are read as that character, whatever
  follows.
* `Text.decodeLossy_encode`, `Text.decode?_encode` — the bytes of a text are read as that text.
* `Text.encode_prefix_iff` — the bytes of a text begin as the text does.
-/

namespace HybridSearch.Text

/-! ### Bytes -/

private theorem toNat_ofNat {n : Nat} (h : n < 256) : (UInt8.ofNat n).toNat = n := by
  rw [UInt8.toNat_ofNat', Nat.mod_eq_of_lt h]

private theorem isTail_ofNat {n : Nat} (h : n < 64) : isTail (UInt8.ofNat (n + 0x80)) = true := by
  have hn := toNat_ofNat (show n + 0x80 < 256 by omega)
  generalize UInt8.ofNat (n + 0x80) = byte at hn
  rw [isTail, Bool.and_eq_true, decide_eq_true_eq, decide_eq_true_eq, UInt8.le_iff_toNat_le,
    UInt8.le_iff_toNat_le, hn]
  change 128 ≤ n + 128 ∧ n + 128 ≤ 191
  omega

private theorem tailBits_ofNat {n : Nat} (h : n < 64) : tailBits (UInt8.ofNat (n + 0x80)) = n :=
  (congrArg (· - 0x80) (toNat_ofNat (show n + 0x80 < 256 by omega))).trans
    (Nat.add_sub_cancel n 0x80)

private theorem ofNat_eq_iff {n : Nat} (h : n < 256) (byte : UInt8) :
    UInt8.ofNat n = byte ↔ n = byte.toNat := by
  rw [← UInt8.toNat_inj, toNat_ofNat h]

/-- A second byte that spells no surrogate and nothing that fits into fewer bytes. -/
private theorem isSecond_ofNat {m n : Nat} (hm : m < 256) (hn : n < 64)
    (hlow : m = 0xE0 → 0x20 ≤ n) (hfour : m = 0xF0 → 0x10 ≤ n) (hsurrogate : m = 0xED → n < 0x20)
    (hlast : m = 0xF4 → n < 0x10) :
    isSecond (UInt8.ofNat m) (UInt8.ofNat (n + 0x80)) = true := by
  have hn' : n + 0x80 < 256 := by omega
  simp only [isSecond, ofNat_eq_iff hm, UInt8.reduceToNat, Bool.and_eq_true, decide_eq_true_eq,
    UInt8.le_iff_toNat_le, toNat_ofNat (show n + 0x80 < 256 by omega)]
  constructor
  · split
    · exact Nat.add_le_add_right (hlow ‹_›) 0x80
    · split
      · exact Nat.add_le_add_right (hfour ‹_›) 0x80
      · exact Nat.le_add_left 0x80 n
  · split
    · exact Nat.lt_succ_iff.mp (Nat.add_lt_add_right (hsurrogate ‹_›) 0x80)
    · split
      · exact Nat.lt_succ_iff.mp (Nat.add_lt_add_right (hlast ‹_›) 0x80)
      · exact Nat.lt_succ_iff.mp (Nat.add_lt_add_right hn 0x80)

/-! ### Characters -/

/-- The leading bytes by the length of the spelling. -/
private theorem lead_eq_two {m : Nat} (hlow : 0xC2 ≤ m) (hhigh : m ≤ 0xDF) :
    lead m = .two := by
  rw [lead, if_neg (by omega), if_pos ⟨hlow, hhigh⟩]

private theorem lead_eq_three {m : Nat} (hlow : 0xE0 ≤ m) (hhigh : m ≤ 0xEF) :
    lead m = .three := by
  rw [lead, if_neg (by omega), if_neg (by omega), if_pos ⟨hlow, hhigh⟩]

private theorem lead_eq_four {m : Nat} (hlow : 0xF0 ≤ m) (hhigh : m ≤ 0xF4) :
    lead m = .four := by
  rw [lead, if_neg (by omega), if_neg (by omega), if_neg (by omega),
    if_pos ⟨hlow, hhigh⟩]

theorem next_one {v : Nat} (h : v ≤ 0x7F) (rest : Bytes) :
    next (UInt8.ofNat v) rest = (some (Char.ofNat v), 0) := by
  have hv := toNat_ofNat (show v < 256 by omega)
  have hlead : lead v = .one := by rw [lead, if_pos (by omega)]
  cases rest with
  | nil => rw [next, hv, if_pos hlead]
  | cons b rest => simp only [next, hlead, hv]

theorem next_two {v : Nat} (hlow : 0x80 ≤ v) (hhigh : v ≤ 0x7FF) (rest : Bytes) :
    next (UInt8.ofNat (v / 64 + 0xC0)) (UInt8.ofNat (v % 64 + 0x80) :: rest) =
      (some (Char.ofNat v), 1) := by
  have hlead := lead_eq_two (show 0xC2 ≤ v / 64 + 0xC0 by omega) (by omega)
  have htail := isTail_ofNat (show v % 64 < 64 by omega)
  have hsum : v / 64 * 64 + v % 64 = v := by omega
  simp only [next, hlead, htail, if_true, toNat_ofNat (show v / 64 + 0xC0 < 256 by omega),
    tailBits_ofNat (show v % 64 < 64 by omega), Nat.add_sub_cancel, hsum]

theorem next_three {v : Nat} (hlow : 0x800 ≤ v) (hhigh : v ≤ 0xFFFF)
    (hvalid : v < 0xD800 ∨ 0xDFFF < v) (rest : Bytes) :
    next (UInt8.ofNat (v / 4096 + 0xE0))
        (UInt8.ofNat (v / 64 % 64 + 0x80) :: UInt8.ofNat (v % 64 + 0x80) :: rest) =
      (some (Char.ofNat v), 2) := by
  have hlead := lead_eq_three (show 0xE0 ≤ v / 4096 + 0xE0 by omega) (by omega)
  have hsecond := isSecond_ofNat (show v / 4096 + 0xE0 < 256 by omega)
    (show v / 64 % 64 < 64 by omega) (by omega) (by omega) (by omega) (by omega)
  have htail := isTail_ofNat (show v % 64 < 64 by omega)
  have hsum : (v / 4096 * 64 + v / 64 % 64) * 64 + v % 64 = v := by omega
  simp only [next, hlead, hsecond, htail, if_true, toNat_ofNat (show v / 4096 + 0xE0 < 256 by omega),
    tailBits_ofNat (show v / 64 % 64 < 64 by omega), tailBits_ofNat (show v % 64 < 64 by omega),
    Nat.add_sub_cancel, hsum]

theorem next_four {v : Nat} (hlow : 0x10000 ≤ v) (hhigh : v < 0x110000) (rest : Bytes) :
    next (UInt8.ofNat (v / 262144 + 0xF0))
        (UInt8.ofNat (v / 4096 % 64 + 0x80) :: UInt8.ofNat (v / 64 % 64 + 0x80) ::
          UInt8.ofNat (v % 64 + 0x80) :: rest) =
      (some (Char.ofNat v), 3) := by
  have hlead := lead_eq_four (show 0xF0 ≤ v / 262144 + 0xF0 by omega) (by omega)
  have hsecond := isSecond_ofNat (show v / 262144 + 0xF0 < 256 by omega)
    (show v / 4096 % 64 < 64 by omega) (by omega) (by omega) (by omega) (by omega)
  have hthird := isTail_ofNat (show v / 64 % 64 < 64 by omega)
  have htail := isTail_ofNat (show v % 64 < 64 by omega)
  have hsum : ((v / 262144 * 64 + v / 4096 % 64) * 64 + v / 64 % 64) * 64 + v % 64 = v := by omega
  simp only [next, hlead, hsecond, hthird, htail, if_true,
    toNat_ofNat (show v / 262144 + 0xF0 < 256 by omega),
    tailBits_ofNat (show v / 4096 % 64 < 64 by omega),
    tailBits_ofNat (show v / 64 % 64 < 64 by omega), tailBits_ofNat (show v % 64 < 64 by omega),
    Nat.add_sub_cancel, hsum]

/-! ### Texts -/

/-- The bytes of a character are read as that character, whatever follows. -/
theorem scan_utf8EncodeChar_append (c : Char) (rest : Bytes) :
    scan (String.utf8EncodeChar c ++ rest) = some c :: scan rest := by
  have hvalid : c.val.toNat < 0xD800 ∨ 0xDFFF < c.val.toNat ∧ c.val.toNat < 0x110000 := c.valid
  have hchar : Char.ofNat c.val.toNat = c := Char.ofNat_toNat c
  simp only [String.utf8EncodeChar]
  generalize c.val.toNat = v at hvalid hchar
  split
  · rw [List.singleton_append, scan, next_one ‹_›, hchar]
    rfl
  · split
    · rw [Nat.mod_eq_of_lt (show v / 64 < 32 by omega), List.cons_append, List.singleton_append,
        scan, next_two (by omega) ‹_›, hchar]
      rfl
    · split
      · rw [Nat.mod_eq_of_lt (show v / 4096 < 16 by omega), List.cons_append, List.cons_append,
          List.singleton_append, scan, next_three (by omega) ‹_› (by omega), hchar]
        rfl
      · rw [Nat.mod_eq_of_lt (show v / 262144 < 8 by omega), List.cons_append, List.cons_append,
          List.cons_append, List.singleton_append, scan, next_four (by omega) (by omega), hchar]
        rfl

theorem scan_encodeChars_append (text : List Char) (rest : Bytes) :
    scan (encodeChars text ++ rest) = text.map some ++ scan rest := by
  induction text with
  | nil => rfl
  | cons c text ih =>
    rw [encodeChars, List.flatMap_cons, ← encodeChars, List.append_assoc, scan_utf8EncodeChar_append,
      ih, List.map_cons, List.cons_append]

theorem scan_encodeChars (text : List Char) : scan (encodeChars text) = text.map some := by
  have hscan := scan_encodeChars_append text []
  rwa [List.append_nil, scan, List.append_nil] at hscan

/-- **The bytes of a text are read as that text.** -/
@[simp] theorem decodeLossy_encode (text : String) : decodeLossy (encode text) = text := by
  rw [decodeLossy, encode, scan_encodeChars, List.map_map]
  simp [Function.comp_def]

@[simp] theorem decode?_encode (text : String) : decode? (encode text) = some text := by
  have hreadable (chars : List Char) : readable? (chars.map some) = some chars := by
    induction chars with
    | nil => rfl
    | cons c chars ih => rw [List.map_cons, readable?, ih, Option.map_some]
  rw [decode?, encode, scan_encodeChars, hreadable, Option.map_some, String.ofList_toList]

@[simp] theorem encode_inj {left right : String} : encode left = encode right ↔ left = right := by
  constructor
  · intro h
    rw [← decodeLossy_encode left, h, decodeLossy_encode]
  · rintro rfl
    rfl

/-! ### Parts of texts -/

theorem encode_append (left right : String) :
    encode (left ++ right) = encode left ++ encode right := by
  rw [encode, String.toList_append, encodeChars, List.flatMap_append]
  rfl

/-- The bytes of a text begin with those of another just if the text begins with it. -/
theorem encode_prefix_iff {start text : String} :
    encode start <+: encode text ↔ ∃ rest, text = start ++ rest := by
  constructor
  · rintro ⟨bytes, hbytes⟩
    have hscan := congrArg scan hbytes
    rw [encode, encode, scan_encodeChars, scan_encodeChars_append] at hscan
    obtain ⟨first, rest, htext, hfirst, -⟩ := List.map_eq_append_iff.mp hscan.symm
    obtain rfl := (List.map_inj_right fun _ _ => Option.some.inj).mp hfirst
    refine ⟨String.ofList rest, ?_⟩
    rw [← String.toList_inj, String.toList_append, String.toList_ofList, htext]
  · rintro ⟨rest, rfl⟩
    exact ⟨encode rest, (encode_append start rest).symm⟩

/-- A byte of seven bits spells a character of its own. -/
theorem ofNat_mem_of_mem_encode {byte : UInt8} (hbyte : byte.toNat < 0x80) {text : String}
    (h : byte ∈ encode text) : Char.ofNat byte.toNat ∈ text.toList := by
  obtain ⟨c, hc, hmem⟩ := List.mem_flatMap.mp h
  have hvalid : c.val.toNat < 0xD800 ∨ 0xDFFF < c.val.toNat ∧ c.val.toNat < 0x110000 := c.valid
  have hchar : Char.ofNat c.val.toNat = c := Char.ofNat_toNat c
  simp only [String.utf8EncodeChar] at hmem
  generalize c.val.toNat = v at hvalid hchar hmem
  split at hmem
  · rw [List.mem_singleton.mp hmem, toNat_ofNat (by omega), hchar]
    exact hc
  · exfalso
    split at hmem
    · simp only [List.mem_cons, List.not_mem_nil, or_false] at hmem
      rcases hmem with rfl | rfl <;> rw [toNat_ofNat (by omega)] at hbyte <;> omega
    · split at hmem
      · simp only [List.mem_cons, List.not_mem_nil, or_false] at hmem
        rcases hmem with rfl | rfl | rfl <;> rw [toNat_ofNat (by omega)] at hbyte <;> omega
      · simp only [List.mem_cons, List.not_mem_nil, or_false] at hmem
        rcases hmem with rfl | rfl | rfl | rfl <;> rw [toNat_ofNat (by omega)] at hbyte <;> omega

end HybridSearch.Text
