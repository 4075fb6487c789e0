import HybridSearch.Decimal.Layout

/-!
# JSON numbers

A number is an integer of at most 64 bits, signed or unsigned, or a finite double.

## Main definitions

* `Number` — an integer or a double.
* `Number.ofInt?`, `Number.ofFloat?` — the number of a value in range.
* `Number.toFloat` — the nearest double.
* `Number.render` — the text of a number in a document.
-/

namespace HybridSearch

/-- Whether 64 bits hold an integer, with a sign or without. -/
abbrev Number.Fits (value : Int) : Prop :=
  -0x8000000000000000 ≤ value ∧ value < 0x10000000000000000

inductive Number where
  | int (value : Int) (fits : Number.Fits value)
  | float (value : Float) (finite : value.isFinite = true)
  deriving DecidableEq

namespace Number

def ofInt? (value : Int) : Option Number :=
  if fits : Fits value then some (int value fits) else none

def ofFloat? (value : Float) : Option Number :=
  if finite : value.isFinite = true then some (float value finite) else none

def zero : Number := int 0 (by decide)

instance : Inhabited Number := ⟨zero⟩

/-- The number of a count of 64 bits. -/
def ofNat (value : Nat) : Number := (ofInt? value).getD zero

def toFloat : Number → Float
  | int value _ => Float.ofInt value
  | float value _ => value

def render : Number → String
  | int value _ => toString value
  | float value _ => Layout.json.render value

/-- The value of an integer that is not negative. -/
def toNat? : Number → Option Nat
  | int value _ => if 0 ≤ value then some value.toNat else none
  | float _ _ => none

end Number

end HybridSearch
