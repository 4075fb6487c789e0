import HybridSearch.Embedding.Trigram
import HybridSearch.Proofs.Vector.Single
import HybridSearch.Vector.Metric

/-!
# Vectors of the trigram model

A text with a run of three characters has a vector of numbers that are not negative and of which one
is positive, however long the text is: a count stops growing where one more is less than half of its
last digit, so neither the counts nor the sum of their squares become infinite. A shorter text has
no run, and its vector is zero.

## Main definitions

* `Trigram.IsTally` — vectors of counts.

## Main results

* `Trigram.isTally_counts`, `Trigram.sized_normalized` — the counts of a text, and what is left of
  them in a vector of length one.
* `Metric.zero_lt_norm` — the norm of a vector with a positive component.
* `Trigram.embed_isUsable` — the vector of a text.
* `Trigram.not_embed_isUsable` — a text whose vector is zero.
-/

namespace HybridSearch

open Float.Model (Format UnpackedFloat)
open Float.Model.UnpackedFloat
open Rounding

namespace Trigram

variable {size index : ℕ} {vector : Embedding} {text : List Char} {x : Single}

/-! ### Runs -/

theorem length_windows (text : List Char) : (windows text).length = text.length - 2 := by
  fun_induction windows text with
  | case1 a b c rest ih =>
    rw [List.length_cons, ih]
    simp
  | case2 text hshort =>
    match text with
    | [] | [_] | [_, _] => rfl
    | a :: b :: c :: rest => exact absurd rfl (hshort a b c rest)

theorem windows_eq_nil_iff : windows text = [] ↔ text.length < 3 := by
  rw [← List.length_eq_zero_iff, length_windows]
  omega

theorem bucket_lt (hsize : 0 < size) (run : List Char) : bucket size run < size :=
  Nat.mod_lt _ hsize

/-! ### Counts -/

/-- Every component is zero or a number from one up to a bound that a count cannot pass. -/
structure IsTally (size : ℕ) (vector : Embedding) : Prop where
  length_eq : vector.length = size
  sized : ∀ x ∈ vector, Sized Format.binary32 0 30 x.number

theorem between_one : Between Format.binary32 0 0 one.number := by
  have hnumber : one.number = .finite .positive (2 ^ 23) (-23) (by decide) := by rfl
  have hfull : (2 ^ 23).log2 + 1 = Format.binary32.mantissaBits := by decide
  rw [hnumber]
  refine .intro _ hfull ?_ ?_ <;> norm_num

theorem between_add_one (h : Sized Format.binary32 0 30 x.number) :
    Between Format.binary32 0 30 (x + one).number := by
  have hspan : Spans Format.binary32 0 30 := spans_binary32 (by omega) (by omega)
  have hsum := (h.add (Or.inr between_one) hspan le_rfl (by decide)).2 (Or.inr between_one)
  rwa [Single.number_add, hsum.unpack_pack hspan]

theorem getElem?_countIn (vector : Embedding) (index i : ℕ) :
    (countIn vector index)[i]? = (vector[i]?).map fun x => if index = i then x + one else x :=
  List.getElem?_modify ..

theorem IsTally.countIn (h : IsTally size vector) (index : ℕ) :
    IsTally size (countIn vector index) := by
  refine ⟨(List.length_modify ..).trans h.length_eq, fun x hx => ?_⟩
  obtain ⟨i, hi⟩ := List.mem_iff_getElem?.mp hx
  rw [getElem?_countIn] at hi
  obtain ⟨y, hy, rfl⟩ := Option.map_eq_some_iff.mp hi
  have hy := h.sized y (List.mem_of_getElem? hy)
  split
  · exact Or.inr (between_add_one hy)
  · exact hy

theorem IsTally.exists_between_countIn (h : IsTally size vector)
    (hcount : index < size ∨ ∃ x ∈ vector, Between Format.binary32 0 30 x.number) :
    ∃ x ∈ Trigram.countIn vector index, Between Format.binary32 0 30 x.number := by
  rcases hcount with hlt | ⟨y, hy, hbetween⟩
  · have hlt : index < vector.length := h.length_eq ▸ hlt
    have hnew : (Trigram.countIn vector index)[index]? = some (vector[index] + one) := by
      rw [getElem?_countIn, List.getElem?_eq_getElem hlt, Option.map_some, if_pos rfl]
    exact ⟨_, List.mem_of_getElem? hnew, between_add_one (h.sized _ (List.getElem_mem hlt))⟩
  · obtain ⟨i, hi⟩ := List.mem_iff_getElem?.mp hy
    have hnew : (Trigram.countIn vector index)[i]? = some (if index = i then y + one else y) := by
      rw [getElem?_countIn, hi, Option.map_some]
    refine ⟨_, List.mem_of_getElem? hnew, ?_⟩
    split
    · exact between_add_one (Or.inr hbetween)
    · exact hbetween

theorem isTally_replicate (size : ℕ) : IsTally size (List.replicate size Single.zero) := by
  refine ⟨List.length_replicate, fun x hx => ?_⟩
  obtain rfl := List.eq_of_mem_replicate hx
  exact Or.inl ⟨.positive, rfl⟩

/-- Counting keeps a tally, and leaves it with a positive component where there was one or is
counted once. -/
theorem isTally_foldl_countIn (h : IsTally size vector) {indexes : List ℕ}
    (hindexes : ∀ index ∈ indexes, index < size) :
    IsTally size (indexes.foldl countIn vector) ∧
      (indexes ≠ [] ∨ (∃ x ∈ vector, Between Format.binary32 0 30 x.number) →
        ∃ x ∈ indexes.foldl countIn vector, Between Format.binary32 0 30 x.number) := by
  induction indexes generalizing vector with
  | nil => exact ⟨h, fun hcount => hcount.resolve_left (absurd rfl)⟩
  | cons index indexes ih =>
    obtain ⟨hindex, hindexes⟩ := List.forall_mem_cons.mp hindexes
    obtain ⟨htally, hpositive⟩ := ih (h.countIn index) hindexes
    exact ⟨htally, fun _ => hpositive (Or.inr (h.exists_between_countIn (Or.inl hindex)))⟩

theorem isTally_counts (hsize : 0 < size) (text : List Char) :
    IsTally size (counts size text) ∧
      (3 ≤ text.length → ∃ x ∈ counts size text, Between Format.binary32 0 30 x.number) := by
  have hindexes : ∀ index ∈ (windows text).map (bucket size), index < size := by
    simpa using fun run _ => bucket_lt hsize run
  obtain ⟨htally, hpositive⟩ := isTally_foldl_countIn (isTally_replicate size) hindexes
  refine ⟨htally, fun hlength => hpositive (Or.inl ?_)⟩
  rw [Ne, List.map_eq_nil_iff, windows_eq_nil_iff]
  omega

theorem counts_of_length_lt (hshort : text.length < 3) :
    counts size text = List.replicate size Single.zero := by
  rw [counts, windows_eq_nil_iff.mpr hshort]
  rfl

/-! ### Vectors of length one -/

theorem between_magnitude (h : IsTally size vector)
    (hpositive : ∃ x ∈ vector, Between Format.binary32 0 30 x.number) :
    Between Format.binary32 0 50 (magnitude vector).number := by
  have hspan : Spans Format.binary32 0 60 := spans_binary32 (by omega) (by omega)
  have hsquares : ∀ x ∈ vector, Sized Format.binary32 0 60 (x * x).number :=
    fun x hx => Single.sized_mul (h.sized x hx) (h.sized x hx) hspan
  have hsquare : ∃ x ∈ vector, Between Format.binary32 0 60 (x * x).number := by
    obtain ⟨x, hx, hbetween⟩ := hpositive
    exact ⟨x, hx, Single.between_mul hbetween hbetween hspan⟩
  have hzero : Sized Format.binary32 0 100 Single.zero.number := Or.inl ⟨.positive, rfl⟩
  have hsum : Between Format.binary32 0 100
      (vector.foldl (fun sum x => sum + x * x) Single.zero).number :=
    (sized_foldl_add Single.number (fun x : Single => (x * x).number)
      (fun sum x => Single.number_add sum (x * x)) (spans_binary32 (by omega) (by omega)) le_rfl
      (by decide) hsquares hzero).2 (Or.inr hsquare)
  have hroot := Between.sqrt (a := 0) (b := 50) hsum (spans_binary32 (by omega) (by omega))
  have hnumber : (magnitude vector).number = unpack Format.binary32 (pack Format.binary32
      (UnpackedFloat.sqrt Format.binary32
        (vector.foldl (fun sum x => sum + x * x) Single.zero).number)) :=
    Single.number_ofFloat32 _
  rwa [hnumber, hroot.unpack_pack (spans_binary32 (by omega) (by omega))]

theorem magnitude_replicate_zero (size : ℕ) :
    magnitude (List.replicate size Single.zero) = Single.zero := by
  have hsum : (List.replicate size Single.zero).foldl (fun sum x => sum + x * x) Single.zero =
      Single.zero := by
    induction size with
    | zero => rfl
    | succ size ih =>
      have hstep : Single.zero + Single.zero * Single.zero = Single.zero := by rfl
      rw [List.replicate_succ, List.foldl_cons, hstep, ih]
  rw [magnitude, hsum]
  rfl

theorem normalized_of_isTally (h : IsTally size vector)
    (hpositive : ∃ x ∈ vector, Between Format.binary32 0 30 x.number) :
    normalized vector = vector.map (· / magnitude vector) :=
  if_pos (Single.zero_lt_of_between (between_magnitude h hpositive))

/-- The components of a vector that is scaled by its magnitude. -/
theorem sized_normalized (h : IsTally size vector)
    (hpositive : ∃ x ∈ vector, Between Format.binary32 0 30 x.number) :
    (normalized vector).length = size ∧
      (∀ x ∈ normalized vector, Sized Format.binary32 (-50) 30 x.number) ∧
      ∃ x ∈ normalized vector, Between Format.binary32 (-50) 30 x.number := by
  have hlength := between_magnitude h hpositive
  have hspan : Spans Format.binary32 (0 - 50 - 1) (30 - 0) := spans_binary32 (by omega) (by omega)
  rw [normalized_of_isTally h hpositive]
  refine ⟨(List.length_map _).trans h.length_eq, ?_, ?_⟩
  · simpa using fun x hx => Single.sized_div (h.sized x hx) hlength hspan
  · obtain ⟨x, hx, hbetween⟩ := hpositive
    exact ⟨_, List.mem_map_of_mem hx, Single.between_div hbetween hlength hspan⟩

end Trigram

/-! ### Norms -/

namespace Metric

theorem zero_lt_of_between {a b : ℤ} {x : Float}
    (h : Between Format.binary64 a b x.toModel.unpack) : 0.0 < x :=
  decide_eq_true h.zero_lt

/-- A vector with a positive component has a positive norm. -/
theorem zero_lt_norm {vector : Embedding}
    (h : ∀ x ∈ vector, Sized Format.binary32 (-50) 30 x.number)
    (hpositive : ∃ x ∈ vector, Between Format.binary32 (-50) 30 x.number) :
    0.0 < norm vector := by
  have hspan : Spans Format.binary32 (-100) 60 := spans_binary32 (by omega) (by omega)
  have hterms : ∀ t ∈ vector.map fun x => (x * x).toFloat,
      Sized Format.binary64 (-100) 60 t.toModel.unpack := by
    rw [List.forall_mem_map]
    exact fun x hx => Single.sized_toFloat (Single.sized_mul (h x hx) (h x hx) hspan)
  have hterm : ∃ t ∈ vector.map fun x => (x * x).toFloat,
      Between Format.binary64 (-100) 60 t.toModel.unpack := by
    obtain ⟨x, hx, hbetween⟩ := hpositive
    exact ⟨_, List.mem_map_of_mem hx,
      Single.between_toFloat (Single.between_mul hbetween hbetween hspan)⟩
  have hzero : Sized Format.binary64 (-100) 120 (-0.0 : Float).toModel.unpack :=
    Or.inl ⟨.negative, rfl⟩
  have hstep (sum t : Float) : (sum + t).toModel.unpack = unpack Format.binary64
      (pack Format.binary64
        (UnpackedFloat.add Format.binary64 sum.toModel.unpack t.toModel.unpack)) := rfl
  have hsum : Between Format.binary64 (-100) 120
      (total (vector.map fun x => (x * x).toFloat)).toModel.unpack :=
    (sized_foldl_add (fun sum : Float => sum.toModel.unpack) (fun t : Float => t.toModel.unpack)
      hstep (spans_binary64 (by omega) (by omega)) le_rfl (by decide) hterms hzero).2 (Or.inr hterm)
  have hroot := Between.sqrt (a := -50) (b := 60) hsum (spans_binary64 (by omega) (by omega))
  have hnumber : (norm vector).toModel.unpack = UnpackedFloat.sqrt Format.binary64
      (total (vector.map fun x => (x * x).toFloat)).toModel.unpack :=
    hroot.unpack_pack (spans_binary64 (by omega) (by omega))
  exact zero_lt_of_between (hnumber ▸ hroot)

end Metric

namespace Trigram

/-- **A text with a run of three characters in lowercase has a vector of numbers that are not
negative and of which one is positive**, and so is its norm; a shorter text has a vector of zeros.
Every run counts in a component of the vector. -/
theorem embed_isUsable (dimensions : ℕ) (hdimensions : 0 < dimensions) (text : String) :
    (embed dimensions text).length = dimensions ∧
    (∀ run ∈ windows (Text.lowercase text).toList, bucket dimensions run < dimensions) ∧
    (∀ x ∈ embed dimensions text, 0.0 ≤ x.toFloat32) ∧
    (3 ≤ (Text.lowercase text).length →
      (∃ x ∈ embed dimensions text, 0.0 < x.toFloat32) ∧
        0.0 < Metric.norm (embed dimensions text)) ∧
    ((Text.lowercase text).length < 3 →
      embed dimensions text = List.replicate dimensions Single.zero) := by
  have hlength : (Text.lowercase text).length = (Text.lowerFrom [] text.toList).length := by
    rw [Text.lowercase, String.length_ofList]
  have hembed : embed dimensions text =
      normalized (counts dimensions (Text.lowerFrom [] text.toList)) := by
    rw [embed, max_eq_left hdimensions]
  obtain ⟨htally, hcounts⟩ := isTally_counts hdimensions (Text.lowerFrom [] text.toList)
  rw [hembed, hlength]
  by_cases hlong : 3 ≤ (Text.lowerFrom [] text.toList).length
  · obtain ⟨hsize, hsized, hpositive⟩ := sized_normalized htally (hcounts hlong)
    refine ⟨hsize, fun run _ => bucket_lt hdimensions run,
      fun x hx => Single.zero_le_of_sized (hsized x hx),
      fun _ => ⟨?_, Metric.zero_lt_norm hsized hpositive⟩,
      fun hshort => absurd hlong (not_le_of_gt hshort)⟩
    obtain ⟨x, hx, hbetween⟩ := hpositive
    exact ⟨x, hx, Single.zero_lt_of_between hbetween⟩
  · have hzeros : normalized (counts dimensions (Text.lowerFrom [] text.toList)) =
        List.replicate dimensions Single.zero := by
      rw [counts_of_length_lt (not_le.mp hlong), normalized, magnitude_replicate_zero]
      exact if_neg (by decide)
    rw [hzeros]
    refine ⟨List.length_replicate, fun run _ => bucket_lt hdimensions run,
      fun x hx => Single.zero_le_of_sized ((isTally_replicate dimensions).sized x hx),
      fun h => absurd h hlong, fun _ => rfl⟩

/-- Three runs, of which two are equal, count in two of five components. -/
theorem embed_isUsable_of_repeated :
    (windows (Text.lowercase "Ababa").toList).map (bucket 5) = [2, 4, 2] ∧
      (embed 5 "Ababa").length = 5 ∧ (∀ x ∈ embed 5 "Ababa", 0.0 ≤ x.toFloat32) ∧
      (∃ x ∈ embed 5 "Ababa", 0.0 < x.toFloat32) ∧ 0.0 < Metric.norm (embed 5 "Ababa") := by
  obtain ⟨hlength, -, hnonneg, hlong, -⟩ := embed_isUsable 5 (by decide) "Ababa"
  exact ⟨by decide +kernel, hlength, hnonneg, hlong (by decide)⟩

/-- A text of one character has a vector of zeros. -/
theorem not_embed_isUsable :
    ¬∀ (dimensions : ℕ) (text : String), 0 < dimensions → 0 < text.length →
      ∃ x ∈ embed dimensions text, x.isZero = false := by
  intro h
  obtain ⟨x, hx, hzero⟩ := h 1 "a" (by decide) (by decide)
  have hembed : embed 1 "a" = [Single.zero] := by decide
  rw [hembed, List.mem_singleton] at hx
  subst hx
  revert hzero
  decide

end Trigram

end HybridSearch
