/-!
# Tables of code points

A property of characters is a list of inclusive code point ranges in increasing order, so a look-up
stops at the first range that begins above the character.

## Main definitions

* `CodeRange`, `CodeRange.covers` — a range, and membership in a list of ranges.
-/

namespace HybridSearch.Text

/-- The first and the last code point of a range. -/
abbrev CodeRange := Nat × Nat

/-- Whether one of the ranges holds the code point. The ranges must be in increasing order. -/
def CodeRange.covers : List CodeRange → Nat → Bool
  | [], _ => false
  | (first, last) :: rest, code =>
    if code < first then false else code ≤ last || CodeRange.covers rest code

end HybridSearch.Text
