import HybridSearch.DomainName.Mapping
import HybridSearch.DomainName.Normal
import HybridSearch.DomainName.Property.Direction
import HybridSearch.DomainName.Property.Joining
import HybridSearch.DomainName.Punycode
import HybridSearch.Text.Property.Mark
import HybridSearch.Text.Split

/-!
# Labels

A name is a row of labels. A label with characters beyond ASCII has a written form in ASCII, which
begins with `xn--`.

## Main definitions

* `isSound` — what every label must fulfil.
* `read?` — the label of a written form.
* `written?` — the written form of a label.
-/

namespace HybridSearch.DomainName

def isAscii (text : List Char) : Bool := text.all fun c => c.toNat < 0x80

/-- Blank and control characters, and what marks the parts of an address. -/
def isRefused (c : Char) : Bool :=
  c ≤ ' ' || c = '\x7f' ||
    ['#', '%', '/', ':', '<', '>', '?', '@', '[', '\\', ']', '^', '|'].contains c

/-! ### Joiners -/

def nonJoiner : Char := Char.ofNat 0x200C

def joiner : Char := Char.ofNat 0x200D

/-- Whether joining passes the character on the way to a letter. -/
def isPassed (c : Char) : Bool :=
  Text.CodeRange.covers nonspacing c.toNat || Text.CodeRange.covers passed c.toNat

def isJoinedAfter (c : Char) : Bool :=
  Text.CodeRange.covers joinsNext c.toNat || Text.CodeRange.covers joinsBoth c.toNat

def isJoinedBefore (c : Char) : Bool :=
  Text.CodeRange.covers joinsPrevious c.toNat || Text.CodeRange.covers joinsBoth c.toNat

/-- The class of the marks that take the vowel from a letter. -/
def virama : Nat := 9

/-- Whether a joiner shows where it stands: after a mark that takes the vowel from a letter, or, one
that separates, between two letters that would be joined. -/
def joinerShows (before : List Char) (c : Char) (after : List Char) : Bool :=
  before.head?.any (markClass · = virama) ||
    c = nonJoiner && ((before.dropWhile isPassed).head?.any isJoinedAfter &&
      (after.dropWhile isPassed).head?.any isJoinedBefore)

/-- Whether every joiner of a text shows that stands after the reversed text `before`. -/
def joinersShow (before : List Char) : List Char → Bool
  | [] => true
  | c :: rest =>
    (!(c = nonJoiner || c = joiner) || joinerShows before c rest) && joinersShow (c :: before) rest

/-! ### Labels -/

/-- No label holds a refused character, begins with a mark, or has a joiner that does not show. -/
def isSound (label : List Char) : Bool :=
  !label.any isRefused && !label.head?.any (Text.CodeRange.covers Text.mark ·.toNat) &&
    joinersShow [] label

def asciiSign : List Char := ['x', 'n', '-', '-']

/-- The most characters that a label in ASCII is read with after its sign. -/
def readLimit : Nat := 2000

/-- The most characters beyond which a label is not written in ASCII. -/
def writeLimit : Nat := 1000

/-- Whether a text is the label itself: nothing in it has another image or could be composed, it has
characters beyond ASCII, and it does not look like a written form. -/
def isPlain (label : List Char) : Bool :=
  !isAscii label && label.all isStable && composed label = label &&
    (Text.dropStart? asciiSign label).isNone

/-- The label that a text stands for: itself, or what it is the written form of. -/
def read? (text : List Char) : Option (List Char) :=
  match Text.dropStart? asciiSign text with
  | none => some text
  | some rest =>
    if isAscii rest && rest.length ≤ readLimit then (Punycode.decode? rest).filter isPlain else none

def written? (label : List Char) : Option (List Char) :=
  if isAscii label then some label
  else if label.length ≤ writeLimit then some (asciiSign ++ Punycode.encode label)
  else none

end HybridSearch.DomainName
