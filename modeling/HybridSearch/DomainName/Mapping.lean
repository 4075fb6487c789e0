import HybridSearch.DomainName.Property.Expansion
import HybridSearch.DomainName.Property.Ideograph
import HybridSearch.DomainName.Property.Image
import HybridSearch.DomainName.Property.Permitted

/-!
# What a name is written with

A name is the same in capitals and small letters, in letters of any width and style, and with or
without characters that show nothing. So each of its characters stands for an image, and characters
without one are refused.

## Main definitions

* `image?` — the characters that a name has instead of one that it was written with.
* `isStable` — whether a character is its own image.
-/

namespace HybridSearch.DomainName

/-- The value of a code point in a table of rows. A row gives the first code point and the values
of those that follow one another from there. -/
def rowValue? {α : Type} (code : Nat) : List (Nat × List α) → Option α
  | [] => none
  | (first, entries) :: rest =>
    if code < first then none else entries[code - first]?.or (rowValue? code rest)

/-- The image of a permitted character: that of a table, or else its lowercase. -/
def tableImage (c : Char) : List Char :=
  match rowValue? c.toNat expansions with
  | some codes => codes.map Char.ofNat
  | none =>
    match (rowValue? c.toNat images).or (rowValue? c.toNat ideographs) with
    | some code => [Char.ofNat code]
    | none =>
      match shifts.find? (Text.CaseRun.holds · c.toNat) with
      | some run => [Char.ofNat (c.toNat + run.shift).toNat]
      | none => Text.lowerChar c

/-- The characters that stand in a name for one that it was written with. -/
def image? (c : Char) : Option (List Char) :=
  if c.toNat < 0x80 then some [c.toLower]
  else if Text.CodeRange.covers ignored c.toNat then some []
  else if Text.CodeRange.covers permitted c.toNat then some (tableImage c)
  else none

def isStable (c : Char) : Bool := image? c = some [c]

/-- The images of all characters of a text. -/
def mapped? : List Char → Option (List Char)
  | [] => some []
  | c :: rest =>
    match image? c, mapped? rest with
    | some image, some more => some (image ++ more)
    | _, _ => none

end HybridSearch.DomainName
