import HybridSearch.Decimal.Shortest

/-!
# Numbers as text

The shortest digits of a double set out by a layout. The library writes numbers in two layouts:
`Layout.plain` never uses an exponent and is what records, ranges and distances hold;
`Layout.json` is that of JSON documents.

## Main definitions

* `Layout`, `Layout.plain`, `Layout.json`.
* `Layout.render` — the text of a double.
-/

namespace HybridSearch

/-- How the digits of a number are set out: the places of the first digit for which no exponent is
written, whether an integral number ends in `.0`, and which of two equally near digit strings is
taken. -/
structure Layout where
  positional : Int → Bool
  keepsPoint : Bool
  tieUp : Bool

namespace Layout

/-- All digits before and after the point; an integral number has no point. -/
def plain : Layout := ⟨fun _ => true, false, true⟩

/-- Positional from `0.00001` up to sixteen digits before the point, and always with a point or an
exponent. -/
def json : Layout := ⟨fun place => -5 ≤ place && place ≤ 15, true, false⟩

/-- Digits with the point after the one at place zero. -/
def positionalDigits (layout : Layout) (d : Decimal) : List Char :=
  let digits := Nat.toDigits 10 d.digits
  let tail := if layout.keepsPoint then ['.', '0'] else []
  if 0 ≤ d.place then digits ++ List.replicate d.place.toNat '0' ++ tail
  else
    let after := (-d.place).toNat
    if after < digits.length then
      digits.take (digits.length - after) ++ '.' :: digits.drop (digits.length - after)
    else '0' :: '.' :: (List.replicate (after - digits.length) '0' ++ digits)

/-- One digit before the point, and an exponent that always shows its sign. -/
def scientificDigits (d : Decimal) : List Char :=
  let digits := Nat.toDigits 10 d.digits
  let exponent := d.place + (digits.length - 1 : Nat)
  let mantissa :=
    match digits with
    | first :: second :: rest => first :: '.' :: second :: rest
    | _ => digits
  mantissa ++ 'e' :: (if exponent < 0 then '-' else '+') :: Nat.toDigits 10 exponent.natAbs

/-- The text of a finite magnitude. -/
def magnitude (layout : Layout) (b : Binary) : List Char :=
  if b.m = 0 then layout.positionalDigits ⟨0, 0⟩
  else
    let d := b.shortest layout.tieUp
    let first := d.place + ((Nat.toDigits 10 d.digits).length - 1 : Nat)
    if layout.positional first then layout.positionalDigits d else scientificDigits d

/-- The text of a double. -/
def renderChars (layout : Layout) (x : Float) : List Char :=
  if x.isNaN then ['N', 'a', 'N']
  else
    let sign := if x.toBits.toNat >>> 63 = 1 then ['-'] else []
    sign ++ if x.isInf then ['i', 'n', 'f'] else layout.magnitude (Binary.ofFloat x)

def render (layout : Layout) (x : Float) : String := String.ofList (layout.renderChars x)

end Layout

end HybridSearch
