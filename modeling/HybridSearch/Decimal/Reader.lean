import HybridSearch.Decimal.Shortest
import HybridSearch.Text.Class

/-!
# Reading a number

A number is an optional sign, digits with at most one point among them, and an optional exponent;
infinity and not-a-number have names. The double is the one nearest to the number read.

## Main definitions

* `integer?` — the integer that a text spells.
* `readUnsigned?` — digits and exponent of a text that is a number.
* `toFloat` — the double nearest to `digits · 10 ^ place`.
* `parse?` — the double that a text denotes.
-/

namespace HybridSearch.Decimal

/-- The number that decimal digits spell. -/
def ofDigits (digits : List Char) : Nat :=
  digits.foldl (fun value c => value * 10 + (c.toNat - '0'.toNat)) 0

/-- The digits at the start of a text, and the rest. -/
def takeDigits (text : List Char) : List Char × List Char :=
  (text.takeWhile Text.isDecimal, text.dropWhile Text.isDecimal)

/-- A sign at the start of a text, and the rest. -/
def takeSign : List Char → Bool × List Char
  | '-' :: rest => (true, rest)
  | '+' :: rest => (false, rest)
  | text => (false, text)

/-- The integer that the whole text spells: an optional sign and digits. -/
def integer? (text : List Char) : Option Int :=
  let (negative, digits) := takeSign text
  if digits.isEmpty ∨ !digits.all Text.isDecimal then none
  else some (if negative then -(ofDigits digits : Int) else ofDigits digits)

/-- An exponent to the end of the text: none, or a mark, an optional sign and digits. -/
def exponent? : List Char → Option Int
  | [] => some 0
  | c :: rest =>
    if c = 'e' ∨ c = 'E' then
      let (negative, rest) := takeSign rest
      let (digits, rest) := takeDigits rest
      if digits.isEmpty ∨ !rest.isEmpty then none
      else some (if negative then -(ofDigits digits : Int) else ofDigits digits)
    else none

/-- Digits, a point and more digits, an exponent. -/
def readUnsigned? (text : List Char) : Option Decimal :=
  let (whole, rest) := takeDigits text
  let (fraction, rest) :=
    match rest with
    | '.' :: rest => takeDigits rest
    | _ => ([], rest)
  if whole.isEmpty ∧ fraction.isEmpty then none
  else
    (exponent? rest).map fun exponent =>
      ⟨ofDigits (whole ++ fraction), exponent - (fraction.length : Int)⟩

/-- The double nearest to a decimal. Far outside the range of doubles no power is computed. -/
def toFloat (d : Decimal) : Float :=
  let size := (Nat.toDigits 10 d.digits).length + d.place
  if d.digits = 0 ∨ size < -400 then 0.0
  else if 400 < size then 1.0 / 0.0
  else Float.ofScientific d.digits (d.place < 0) d.place.natAbs

/-- The names of the values that have no digits, in any case. -/
def special? (text : List Char) : Option Float :=
  match text.map Char.toLower with
  | ['i', 'n', 'f'] => some (1.0 / 0.0)
  | ['i', 'n', 'f', 'i', 'n', 'i', 't', 'y'] => some (1.0 / 0.0)
  | ['n', 'a', 'n'] => some (0.0 / 0.0)
  | _ => none

/-- The magnitude of a text without its sign. -/
def magnitude? (text : List Char) : Option Float :=
  (special? text).or ((readUnsigned? text).map toFloat)

def parseChars? (text : List Char) : Option Float :=
  let (negative, rest) := takeSign text
  (magnitude? rest).map fun x => if negative then -x else x

/-- The double that the whole text denotes. -/
def parse? (text : String) : Option Float := parseChars? text.toList

end HybridSearch.Decimal
