import HybridSearch.DomainName.Property.Combining
import HybridSearch.DomainName.Property.Composite
import HybridSearch.Ranking

/-!
# The composed form

A letter and its marks can be written as one character or as several. In the composed form every
letter is taken apart, its marks are put into the order of their classes, and what can be one
character becomes one.

## Main definitions

* `parts?`, `whole?` — the two parts of a composed character, and what two characters compose.
* `composed` — the composed form of a text.
-/

namespace HybridSearch.DomainName

/-- The class of a mark; other characters have class zero. -/
def markClass (c : Char) : Nat :=
  go combining
where
  go : List (Nat × Nat × Nat) → Nat
    | [] => 0
    | (first, last, markClass) :: rest =>
      if c.toNat < first then 0 else if c.toNat ≤ last then markClass else go rest

namespace Hangul

/-- Nineteen leading consonants, 21 vowels and 27 trailing consonants make all syllables, which are
numbered in this order; a syllable without a trailing consonant comes first. -/
def firstSyllable : Nat := 0xAC00

def firstLead : Nat := 0x1100

def firstVowel : Nat := 0x1161

/-- The code point before that of the first trailing consonant. -/
def beforeTrail : Nat := 0x11A7

/-- The number of a syllable. -/
def number? (code : Nat) : Option Nat :=
  if firstSyllable ≤ code && code < firstSyllable + 19 * 21 * 28 then some (code - firstSyllable)
  else none

/-- The two parts of a syllable: the syllable without its trailing consonant and that consonant, or
the leading consonant and the vowel. -/
def parts? (code : Nat) : Option (Nat × Nat) :=
  (number? code).map fun number =>
    if number % 28 = 0 then (firstLead + number / (21 * 28), firstVowel + number / 28 % 21)
    else (code - number % 28, beforeTrail + number % 28)

def whole? (first second : Nat) : Option Nat :=
  if firstLead ≤ first && first < firstLead + 19 && firstVowel ≤ second &&
      second < firstVowel + 21 then
    some (firstSyllable + ((first - firstLead) * 21 + (second - firstVowel)) * 28)
  else if (number? first).any (· % 28 = 0) && beforeTrail < second &&
      second < beforeTrail + 28 then
    some (first + (second - beforeTrail))
  else none

end Hangul

/-- The two parts of a composed character. -/
def parts? (c : Char) : Option (Char × Char) :=
  if c.toNat < 0x80 then none
  else
    ((Hangul.parts? c.toNat).or (composites.findSome? fun (second, wholes) =>
      (wholes.find? (·.2 = c.toNat)).map fun (first, _) => (first, second))).map
        fun (first, second) => (Char.ofNat first, Char.ofNat second)

/-- The character that two characters compose. -/
def whole? (first second : Char) : Option Char :=
  if second.toNat < 0x80 then none
  else
    ((Hangul.whole? first.toNat second.toNat).or
      ((composites.lookup second.toNat).bind (·.lookup first.toNat))).map Char.ofNat

/-- The parts of a character down to a depth. -/
def partsWithin : Nat → Char → List Char
  | 0, c => [c]
  | depth + 1, c =>
    match parts? c with
    | some (first, second) => partsWithin depth first ++ [second]
    | none => [c]

/-- A letter carries at most three marks that are one character with it. -/
def marksAtMost : Nat := 3

/-- The text in parts, with the marks of each letter in the order of their classes. Marks of one
class keep their order, and none passes a letter. -/
def decomposed (text : List Char) : List Char :=
  ranked (fun c d => 0 < markClass c && markClass c < markClass d)
    (text.flatMap (partsWithin marksAtMost))

/-- Composes what follows a letter with it. A mark is kept off the letter by one of its class, or of
a later one, between them; `between` holds these marks, the last one first. -/
def composeFrom (letter : Char) (between : List Char) : List Char → List Char
  | [] => letter :: between.reverse
  | c :: rest =>
    let isFree := between.head?.all fun mark => markClass mark < markClass c
    match if isFree then whole? letter c else none with
    | some whole => composeFrom whole between rest
    | none =>
      if markClass c = 0 then letter :: (between.reverse ++ composeFrom c [] rest)
      else composeFrom letter (c :: between) rest

def composed (text : List Char) : List Char :=
  match decomposed text with
  | [] => []
  | c :: rest => composeFrom c [] rest

end HybridSearch.DomainName
