import HybridSearch.Proofs.Attempt
import HybridSearch.Proofs.Number.Integer
import HybridSearch.Query.Predicate

/-!
# The numbers of attributes

Whatever a numeric attribute takes its number from, the number is finite, and a filter that takes
the same value takes the same number. An array counts as its first item, however deep it is nested,
and where these items lead to nothing that holds a number, the mode decides between zero and an
error.

## Main definitions

* `Coercion.LeadsTo` — the value that the first items of nested arrays end in.
* `Coercion.IsNoNumber` — an end that holds no number.

## Main results

* `Coercion.isFinite_of_coerce` — the number of an attribute is finite.
* `Coercion.number?_of_filterNumber?` — the number of a filter is that of an attribute.
* `Coercion.LeadsTo.number?_eq_none_iff` — a value has no number where its first items end in none.
* `Coercion.coerce_numeric_modes` — strict mode gives what lenient mode gives, or an error where
  that gives zero.
-/

namespace HybridSearch.Coercion

theorem isFinite_of_amount? {text : String} {x : Float} (h : amount? text = some x) :
    x.isFinite = true :=
  (Option.filter_eq_some_iff.mp h).2

mutual

theorem isFinite_of_number? : ∀ {value : Json} {x : Float}, number? value = some x →
    x.isFinite = true
  | .num number, _, h => Option.some.inj h ▸ number.isFinite_toFloat
  | .str _, _, h => isFinite_of_amount? h
  | .bool true, _, h => Option.some.inj h ▸ by decide +kernel
  | .bool false, _, h => Option.some.inj h ▸ by decide +kernel
  | .arr _, _, h => isFinite_of_firstNumber? h

theorem isFinite_of_firstNumber? : ∀ {items : List Json} {x : Float},
    firstNumber? items = some x → x.isFinite = true
  | _ :: _, _, h => isFinite_of_number? h

end

theorem numeric_of_number? {mode : NumericMode} {field : String} {value : Json} {x : Float}
    (h : number? value = some x) : numeric mode field value = .ok x := by
  rw [numeric.eq_def, h]

/-- A number is given as it is, or zero is given in its place. -/
theorem isFinite_of_coerce {options : CoercionOptions} {field : String} {type : FieldType}
    {value : Json} {x : Float} (h : coerce options field type value = .ok (.number x)) :
    x.isFinite = true := by
  cases type with
  | numeric =>
    obtain ⟨number, hnumber, heq⟩ := Attempt.except_map_eq_ok.mp h
    obtain rfl : number = x := FieldValue.number.inj heq
    rw [numeric.eq_def] at hnumber
    split at hnumber
    · rename_i hvalue
      cases hnumber
      exact isFinite_of_number? hvalue
    · cases hnumber
      decide +kernel
    · cases hnumber
  | text => cases h
  | tag => cases h
  | vector => cases h

/-- Filters take numbers and texts only, and from these the same numbers as attributes. -/
theorem number?_of_filterNumber? {value : Json} {x : Float}
    (h : Predicate.filterNumber? value = some x) : number? value = some x := by
  cases value with
  | num number => exact h
  | str text => exact h
  | null => cases h
  | bool flag => cases h
  | arr items => cases h
  | obj members => cases h

/-! ### First items -/

/-- Following first items: a value leads to what its first item leads to, and ends where there is
none. -/
inductive LeadsTo : Json → Json → Prop
  | first {item inner : Json} {rest : List Json} (h : LeadsTo item inner) :
      LeadsTo (.arr (item :: rest)) inner
  | empty : LeadsTo (.arr []) (.arr [])
  | null : LeadsTo .null .null
  | bool (flag : Bool) : LeadsTo (.bool flag) (.bool flag)
  | num (number : Number) : LeadsTo (.num number) (.num number)
  | str (text : String) : LeadsTo (.str text) (.str text)
  | obj (members : Json.Members) : LeadsTo (.obj members) (.obj members)

/-- The ends that hold no number. -/
inductive IsNoNumber : Json → Prop
  | empty : IsNoNumber (.arr [])
  | null : IsNoNumber .null
  | obj (members : Json.Members) : IsNoNumber (.obj members)
  | str {text : String} (h : amount? text = none) : IsNoNumber (.str text)

mutual

theorem leadsTo_innermost : ∀ value : Json, LeadsTo value (innermost value)
  | .null => .null
  | .bool flag => .bool flag
  | .num number => .num number
  | .str text => .str text
  | .obj members => .obj members
  | .arr items => leadsTo_firstInnermost items

theorem leadsTo_firstInnermost : ∀ items : List Json, LeadsTo (.arr items) (firstInnermost items)
  | [] => .empty
  | item :: _ => .first (leadsTo_innermost item)

end

namespace LeadsTo

variable {value inner : Json}

/-- First items lead to one value only. -/
theorem eq_innermost (h : LeadsTo value inner) : inner = innermost value := by
  induction h with
  | first _ ih => exact ih
  | _ => rfl

theorem number?_eq_none_iff (h : LeadsTo value inner) :
    number? value = none ↔ IsNoNumber inner := by
  induction h with
  | first _ ih => exact ih
  | empty => exact ⟨fun _ => .empty, fun _ => rfl⟩
  | null => exact ⟨fun _ => .null, fun _ => rfl⟩
  | bool flag => exact ⟨nofun, nofun⟩
  | num number => exact ⟨nofun, nofun⟩
  | str text => exact ⟨.str, fun | .str h => h⟩
  | obj members => exact ⟨fun _ => .obj members, fun _ => rfl⟩

end LeadsTo

/-! ### Modes -/

variable {options : CoercionOptions} {field : String} {value : Json}

theorem coerce_of_number? {x : Float} (h : number? value = some x) :
    coerce options field .numeric value = .ok (.number x) := by
  rw [coerce, numeric_of_number? h]
  rfl

/-- What becomes of a value without a number depends on the mode. -/
theorem coerce_of_not_number? (h : number? value = none) :
    coerce options field .numeric value =
      match options.numeric with
      | .lenient => .ok (.number 0.0)
      | .strict => .error (.invalidValue field (innermost value).text) := by
  rw [coerce, numeric.eq_def, h]
  cases options.numeric <;> rfl

/-- **Strict mode gives the number that lenient mode gives, or an error where lenient mode gives
zero.**

Lenient mode never fails, and the numbers of both modes are finite. Strict mode fails where the
first items of nested arrays end in an empty array, nothing, an object or a text without a number;
the error names the attribute and shows that end. -/
theorem coerce_numeric_modes (sanitizes : Bool) (field : String) (value : Json) :
    let lenient := coerce ⟨.lenient, sanitizes⟩ field .numeric value
    let strict := coerce ⟨.strict, sanitizes⟩ field .numeric value
    (∃ x : Float, lenient = .ok (.number x) ∧ x.isFinite = true) ∧
    (∀ result, strict = .ok result →
      lenient = .ok result ∧ ∃ x : Float, result = .number x ∧ x.isFinite = true) ∧
    ∃ inner, (∀ other, LeadsTo value other ↔ other = inner) ∧
      ((∃ error, strict = .error error) ↔ IsNoNumber inner) ∧
      (IsNoNumber inner →
        lenient = .ok (.number 0.0) ∧ strict = .error (.invalidValue field inner.text)) := by
  have hinner := leadsTo_innermost value
  have hend : ∀ other, LeadsTo value other ↔ other = innermost value :=
    fun other => ⟨LeadsTo.eq_innermost, fun h => h ▸ hinner⟩
  cases hnumber : number? value with
  | some x =>
    have hx := isFinite_of_number? hnumber
    have hsome : ¬IsNoNumber (innermost value) := fun h => by
      rw [hinner.number?_eq_none_iff.mpr h] at hnumber
      cases hnumber
    rw [coerce_of_number? hnumber, coerce_of_number? hnumber]
    refine ⟨⟨x, rfl, hx⟩, fun result h => ?_, innermost value, hend, ?_, fun h => absurd h hsome⟩
    · obtain rfl := Except.ok.inj h
      exact ⟨rfl, x, rfl, hx⟩
    · exact iff_of_false nofun hsome
  | none =>
    have hnone : IsNoNumber (innermost value) := hinner.number?_eq_none_iff.mp hnumber
    rw [coerce_of_not_number? hnumber, coerce_of_not_number? hnumber]
    refine ⟨⟨0.0, rfl, by decide +kernel⟩, nofun, innermost value, hend, ?_, fun _ => ⟨rfl, rfl⟩⟩
    exact iff_of_true ⟨_, rfl⟩ hnone

end HybridSearch.Coercion
