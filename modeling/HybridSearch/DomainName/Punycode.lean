import HybridSearch.Ranking

/-!
# Names in ASCII letters

A label with characters beyond ASCII is written by those of ASCII, a hyphen, and a row of numbers
that tell how to insert the others. Characters are inserted in the order of their code points, and
those of one code point from left to right. A number says how many places are skipped before the
next insertion, where the places of a text are counted once for each code point. A number is written
in base 36 with the least digit first; a digit below the threshold of its position ends it, and the
thresholds follow the size of the numbers before.

## Main definitions

* `Punycode.encode` — the written form of a label.
* `Punycode.decode?` — the label of a written form.
-/

namespace HybridSearch.DomainName.Punycode

/-- The letters are the digits up to 25, and the decimal digits stand for 26 to 35. -/
def digitChar (digit : Nat) : Char :=
  if digit < 26 then Char.ofNat ('a'.toNat + digit) else Char.ofNat ('0'.toNat + (digit - 26))

def digit? (c : Char) : Option Nat :=
  if c.isLower then some (c.toNat - 'a'.toNat)
  else if c.isDigit then some (c.toNat - '0'.toNat + 26)
  else none

/-- The threshold of a position. Positions are counted in steps of 36, beginning with 36. -/
def threshold (bias position : Nat) : Nat := max 1 (min 26 (position - bias))

def firstBias : Nat := 72

/-- How often a number is divided by 35 until it is at most 455, and what is left of it. -/
def scaled (number : Nat) : Nat × Nat :=
  if 455 < number then
    let (times, rest) := scaled (number / 35)
    (times + 1, rest)
  else (0, number)
termination_by number
decreasing_by omega

/-- The bias after a number, when the text has `length` characters. The first number counts less. -/
def nextBias (number length : Nat) (isFirst : Bool) : Nat :=
  let number := if isFirst then number / 700 else number / 2
  let (times, rest) := scaled (number + number / length)
  36 * times + 36 * rest / (rest + 38)

/-! ### Writing -/

/-- The digits of a number from a position on. -/
def digits (bias position number : Nat) : List Char :=
  let limit := threshold bias position
  if number < limit then [digitChar number]
  else
    digitChar (limit + (number - limit) % (36 - limit)) ::
      digits bias (position + 36) ((number - limit) / (36 - limit))
termination_by number
decreasing_by
  have above : 1 ≤ threshold bias position := Nat.le_max_left 1 _
  exact Nat.lt_of_le_of_lt (Nat.div_le_self _ _) (by omega)

/-- The rows of digits of several numbers; `length` counts the characters that are there before. -/
def writeNumbers (bias length : Nat) (isFirst : Bool) : List Nat → List Char
  | [] => []
  | number :: rest =>
    digits bias 36 number ++
      writeNumbers (nextBias number (length + 1) isFirst) (length + 1) false rest

/-- A code point and the place at which it is inserted. -/
abbrev Insertion := Nat × Nat

/-- Each character beyond ASCII with the place that it has when it is inserted: behind those before
it that are there by then. -/
def placed (before : List Char) : List Char → List Insertion
  | [] => []
  | c :: rest =>
    let rest := placed (before ++ [c]) rest
    if c.toNat < 0x80 then rest else (c.toNat, before.countP (·.toNat ≤ c.toNat)) :: rest

def insertions (text : List Char) : List Insertion :=
  ranked (fun a b => a.1 < b.1) (placed [] text)

/-- The places that are skipped before each insertion, from a code point and a place on. -/
def skips (code place length : Nat) : List Insertion → List Nat
  | [] => []
  | (next, spot) :: rest =>
    ((next - code) * (length + 1) + spot - place) :: skips next (spot + 1) (length + 1) rest

def isBasic (c : Char) : Bool := c.toNat < 0x80

def encode (text : List Char) : List Char :=
  let basic := text.filter isBasic
  let numbers := skips 0x80 0 basic.length (insertions text)
  basic ++ (if basic.isEmpty then [] else ['-']) ++ writeNumbers firstBias basic.length true numbers

/-! ### Reading -/

/-- No number of a label needs more than 32 bits. -/
def numberLimit : Nat := 0xFFFFFFFF

/-- Reads rows of digits. The digits of a number so far make `value`, and its next digit stands at
`position` and counts `weight`. -/
def readNumbers? (bias length : Nat) (isFirst : Bool) (position weight value : Nat) :
    List Char → Option (List Nat)
  | [] => if position = 36 then some [] else none
  | c :: rest =>
    match digit? c with
    | none => none
    | some digit =>
      let value := value + digit * weight
      let limit := threshold bias position
      if numberLimit < value then none
      else if digit < limit then
        (readNumbers? (nextBias value (length + 1) isFirst) (length + 1) false 36 1 0 rest).map
          (value :: ·)
      else if numberLimit < weight * (36 - limit) then none
      else readNumbers? bias length isFirst (position + 36) (weight * (36 - limit)) value rest

/-- Inserts a character for each number, from a code point and a place on. -/
def insertAll? (code place : Nat) (text : List Char) : List Nat → Option (List Char)
  | [] => some text
  | skip :: rest =>
    let count := text.length + 1
    let next := code + (place + skip) / count
    let spot := (place + skip) % count
    if next.isValidChar then insertAll? next (spot + 1) (text.insertIdx spot (Char.ofNat next)) rest
    else none

/-- The two sides of the last hyphen; one at the start counts as a digit. -/
def splitBasic (written : List Char) : List Char × List Char :=
  match written.reverse.dropWhile (· ≠ '-') with
  | [] | [_] => ([], written)
  | _ :: before => (before.reverse, written.drop (before.length + 1))

def decode? (written : List Char) : Option (List Char) :=
  let (basic, rows) := splitBasic written
  (readNumbers? firstBias basic.length true 36 1 0 rows).bind (insertAll? 0x80 0 basic)

end HybridSearch.DomainName.Punycode
