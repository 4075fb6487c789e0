/-!
# ASCII

Keywords are compared and shown in the letter case of ASCII alone: other characters stay as they
are. Hexadecimal numbers are written with digits and letters of ASCII.

## Main definitions

* `upperAscii`, `lowerAscii` — a text in one case.
* `sameWord` — equality of texts that ignores the case of ASCII letters.
* `hexDigit` — one of the sixteen digits, in lowercase.
* `hexOfNat` — a number without leading zeros.
* `hexOfByte` — two digits.
* `hexValue?` — the value of a digit in either case.
-/

namespace HybridSearch.Text

/-! ### Letter case -/

def upperAscii (text : String) : String := String.ofList (text.toList.map Char.toUpper)

def lowerAscii (text : String) : String := String.ofList (text.toList.map Char.toLower)

def sameWord (left right : String) : Bool := lowerAscii left == lowerAscii right

/-! ### Hexadecimal -/

def hexDigit (value : Nat) : Char := Nat.digitChar (value % 16)

def hexOfNat (value : Nat) : List Char := Nat.toDigits 16 value

def hexOfByte (byte : UInt8) : List Char := [hexDigit (byte.toNat / 16), hexDigit byte.toNat]

def hexValue? (c : Char) : Option Nat :=
  if '0' ≤ c ∧ c ≤ '9' then some (c.toNat - '0'.toNat)
  else if 'a' ≤ c ∧ c ≤ 'f' then some (c.toNat - 'a'.toNat + 10)
  else if 'A' ≤ c ∧ c ≤ 'F' then some (c.toNat - 'A'.toNat + 10)
  else none

end HybridSearch.Text
