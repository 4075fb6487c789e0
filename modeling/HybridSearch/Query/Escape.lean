import HybridSearch.Text.Trim

/-!
# Escaping in queries

In a query a backslash takes from the character after it whatever meaning it has.

## Main definitions

* `Escape.tag` — a member of a tag clause.
* `Escape.text` — a text of words.
-/

namespace HybridSearch.Escape

/-- A backslash before every character that is not plain. -/
def escapeChars (plain : Char → Bool) (text : List Char) : List Char :=
  text.flatMap fun c => if plain c then [c] else ['\\', c]

/-- Letters and digits of ASCII, and the underscore. -/
def isTagChar (c : Char) : Bool := c.isAlphanum || c = '_'

def isTextChar (c : Char) : Bool := Text.isWord c || Text.isBlank c

def tag (value : String) : String :=
  String.ofList (escapeChars isTagChar (Text.trimChars value.toList))

def text (value : String) : String :=
  String.ofList (escapeChars isTextChar (Text.trimChars value.toList))

end HybridSearch.Escape
