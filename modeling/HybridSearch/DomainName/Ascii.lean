import HybridSearch.DomainName.Label
import HybridSearch.DomainName.Property.Direction

/-!
# Names in ASCII

Where a part of a name is written from right to left, readers must still see which letters belong to
which label. So every label of such a name has one direction, and begins and ends with a letter of
it, or ends with a digit.

## Main definitions

* `Direction`, `direction` — how a character is placed among its neighbours.
* `runsOneWay` — the rule for a label.
* `directionsFit` — the rule for a name.
* `ascii?` — the form of a name in which it is looked up.
-/

namespace HybridSearch.DomainName

/-! ### Writing directions -/

inductive Direction where
  | leftToRight
  | rightToLeft
  | digit
  | arabicDigit
  | mark
  | neutral
  deriving DecidableEq, Repr

def direction (c : Char) : Direction :=
  let isIn (table : List Text.CodeRange) : Bool := Text.CodeRange.covers table c.toNat
  if isIn rightToLeft then .rightToLeft
  else if isIn europeanNumber then .digit
  else if isIn arabicNumber then .arabicDigit
  else if isIn nonspacing then .mark
  else if isIn neutral then .neutral
  else .leftToRight

/-- What the rule asks of a label that begins with a letter of a direction: which others it may
hold, and with which it may end when the marks at its end are left out. -/
def keepsTo (start : Direction) (within ends : List Direction) (label : List Direction) : Bool :=
  label.head? = some start && label.all within.contains &&
    ((label.reverse.dropWhile (· = .mark)).head?).any ends.contains

/-- A label has one direction. One from right to left holds digits of one kind only. -/
def runsOneWay (label : List Direction) : Bool :=
  keepsTo .leftToRight [.leftToRight, .digit, .mark, .neutral] [.leftToRight, .digit] label ||
  keepsTo .rightToLeft [.rightToLeft, .digit, .arabicDigit, .mark, .neutral]
    [.rightToLeft, .digit, .arabicDigit] label &&
    !(label.contains .digit && label.contains .arabicDigit)

/-- Whether a label brings a name under the rule. -/
def hasRightToLeft (label : List Direction) : Bool :=
  label.any fun d => d = .rightToLeft || d = .arabicDigit

def directionsFit (labels : List (List Char)) : Bool :=
  let labels := labels.map (List.map direction)
  !labels.any hasRightToLeft || labels.all fun label => label.isEmpty || runsOneWay label

/-! ### Names -/

/-- The labels of a text: what stands between the dots when every character has been replaced by its
image and the whole has been composed. -/
def labels? (text : List Char) : Option (List (List Char)) :=
  (mapped? text).map fun mapped => Text.pieces (· = '.') (composed mapped)

def joinLabels : List (List Char) → List Char
  | [] => []
  | [label] => label
  | label :: rest => label ++ '.' :: joinLabels rest

/-- The name in ASCII, if all labels are sound and their directions fit. Labels may be empty. -/
def ascii? (text : List Char) : Option (List Char) := do
  let labels ← labels? text
  let plain ← labels.mapM read?
  guard (plain.all isSound && directionsFit plain)
  return joinLabels (← labels.mapM written?)

end HybridSearch.DomainName
