import HybridSearch.Text.Property.Alphabetic
import HybridSearch.Text.Property.Number
import HybridSearch.Text.Property.Mark

/-!
# Character classes

The three classes that the rules of the library name: blank characters, which trimming removes,
letters and numbers, which make up the tokens of a text, and word characters, which a query needs
no escape for.

## Main definitions

* `isBlank` — the property White_Space.
* `isAlphanumeric` — letters and numbers.
* `isWord` — letters, marks, decimal digits, connectors and joiners.
-/

namespace HybridSearch.Text

/-- Code points with the property White_Space. -/
def blank : List CodeRange :=
  [(0x9, 0xD), (0x20, 0x20), (0x85, 0x85), (0xA0, 0xA0), (0x1680, 0x1680), (0x2000, 0x200A),
   (0x2028, 0x2029), (0x202F, 0x202F), (0x205F, 0x205F), (0x3000, 0x3000)]

def isBlank (c : Char) : Bool := CodeRange.covers blank c.toNat

def isAlphabetic (c : Char) : Bool := CodeRange.covers alphabetic c.toNat

def isAlphanumeric (c : Char) : Bool := isAlphabetic c || CodeRange.covers number c.toNat

/-- Whether a character is a word character of the query language. -/
def isWord (c : Char) : Bool :=
  (isAlphabetic c || CodeRange.covers mark c.toNat || CodeRange.covers decimalDigit c.toNat ||
    CodeRange.covers connector c.toNat || CodeRange.covers joinControl c.toNat) &&
    !CodeRange.covers unknownWord c.toNat

/-- One of the ten digits `0` to `9`. -/
def isDecimal (c : Char) : Bool := '0' ≤ c && c ≤ '9'

end HybridSearch.Text
