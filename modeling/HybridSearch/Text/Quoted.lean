import HybridSearch.Text.Ascii
import HybridSearch.Text.Property.Unprintable

/-!
# Quoted text

A text between double quotes, as messages show a rejected value: the quote, the backslash and the
common control characters have short escapes, and every other character that would not show is
spelled by its code point.

## Main definitions

* `quotedChar`, `quoted`.
-/

namespace HybridSearch.Text

/-- Whether a character shows as itself: it is printable and combines with nothing before it. -/
def isVisible (c : Char) : Bool :=
  !CodeRange.covers unprintable c.toNat && !CodeRange.covers graphemeExtend c.toNat

def quotedChar (c : Char) : List Char :=
  if c = '\x00' then ['\\', '0']
  else if c = '\t' then ['\\', 't']
  else if c = '\r' then ['\\', 'r']
  else if c = '\n' then ['\\', 'n']
  else if c = '\\' then ['\\', '\\']
  else if c = '\"' then ['\\', '\"']
  else if isVisible c then [c]
  else ['\\', 'u', '\x7b'] ++ hexOfNat c.toNat ++ ['\x7d']

def quoted (text : String) : String :=
  String.ofList ('\"' :: (text.toList.flatMap quotedChar ++ ['\"']))

end HybridSearch.Text
