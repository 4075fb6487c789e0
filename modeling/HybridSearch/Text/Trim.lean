import HybridSearch.Text.Class

/-!
# Trimming

A text without the blank characters at its start, or at both ends.

## Main definitions

* `dropBlank`, `trimChars` — the characters that are left.
* `trim`.
-/

namespace HybridSearch.Text

/-- The characters from the first that is not blank. -/
def dropBlank (text : List Char) : List Char := text.dropWhile isBlank

/-- The characters from the first to the last that is not blank. -/
def trimChars (text : List Char) : List Char := (dropBlank (dropBlank text).reverse).reverse

def trim (text : String) : String := String.ofList (trimChars text.toList)

end HybridSearch.Text
