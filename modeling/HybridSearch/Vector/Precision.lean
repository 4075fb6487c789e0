/-!
# Single and double precision

Both formats have a sign, an exponent and a fraction, from the highest bit down. Every single
precision number is a double. The other way the significand is rounded to 24 bits, a tie to the even
neighbour; the smallest numbers have fewer bits, and the greatest become infinite.

## Main definitions

* `Precision.widened` — the bits of a single precision number as a double.
* `Precision.narrowed` — the bits of the single precision number nearest to a double.
-/

namespace HybridSearch.Precision

/-- The quotient by a power of two, rounded to the nearest integer and from a tie to the even one.
-/
def roundedShift (value drop : Nat) : Nat :=
  let quotient := value >>> drop
  let unit := 1 <<< drop
  let rest := 2 * (value % unit)
  if unit < rest ∨ (rest = unit ∧ quotient % 2 = 1) then quotient + 1 else quotient

/-- The bits of a single precision number as a double; there is one not-a-number. -/
def widened (bits : Nat) : Nat :=
  let sign := bits >>> 31 <<< 63
  let exponent := bits >>> 23 % 0x100
  let fraction := bits % 0x800000
  if exponent = 0xFF then
    if fraction = 0 then sign + 0x7FF <<< 52 else 0xFFF <<< 51
  else if exponent ≠ 0 then sign + (exponent + 896) <<< 52 + fraction <<< 29
  else if fraction = 0 then sign
  else
    let top := fraction.log2
    sign + (top + 874) <<< 52 + (fraction - 1 <<< top) <<< (52 - top)

/-- The bits of the single precision number nearest to a double. A significand that is rounded up to
the next power of two carries into the exponent. -/
def narrowed (bits : Nat) : Nat :=
  let sign := bits >>> 63 <<< 31
  let exponent := bits >>> 52 % 0x800
  let fraction := bits % 0x10000000000000
  if exponent = 0x7FF then
    if fraction = 0 then sign + 0xFF <<< 23 else 0x1FF <<< 22
  else
    let significand := if exponent = 0 then fraction else 1 <<< 52 + fraction
    let scale := max exponent 1
    let drop := max (significand.log2 - 23) (926 - scale)
    let magnitude := (scale + drop - 926) <<< 23 + roundedShift significand drop
    sign + min magnitude (0xFF <<< 23)

end HybridSearch.Precision
