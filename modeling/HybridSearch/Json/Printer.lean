import HybridSearch.Json.Basic
import HybridSearch.Text.Ascii
import HybridSearch.Text.Split

/-!
# Writing JSON

A document on one line without spaces, and an indented document. Strings escape the quote, the
backslash and the control characters below the space, and nothing else. Where a text is wanted, the
text that stands for a value is nothing for `null`, the items of an array between commas, and for an
object its document.

## Main definitions

* `Json.escaped` — a string between its quotes.
* `Json.compact` — the document on one line.
* `Json.pretty` — one member or item a line, indented by two spaces a level.
* `Json.text` — the text that stands for a value.
-/

namespace HybridSearch.Json

def escapedChar (c : Char) : List Char :=
  if c = '\"' then ['\\', '\"']
  else if c = '\\' then ['\\', '\\']
  else if c = '\n' then ['\\', 'n']
  else if c = '\r' then ['\\', 'r']
  else if c = '\t' then ['\\', 't']
  else if c = '\x08' then ['\\', 'b']
  else if c = '\x0c' then ['\\', 'f']
  else if c < ' ' then ['\\', 'u', '0', '0', Text.hexDigit (c.toNat / 16), Text.hexDigit c.toNat]
  else [c]

def escaped (text : String) : List Char := '\"' :: (text.toList.flatMap escapedChar ++ ['\"'])

mutual

/-- The characters of a document on one line. -/
def chars : Json → List Char
  | null => ['n', 'u', 'l', 'l']
  | bool true => ['t', 'r', 'u', 'e']
  | bool false => ['f', 'a', 'l', 's', 'e']
  | num value => value.render.toList
  | str value => escaped value
  | arr items => '[' :: (itemChars items ++ [']'])
  | obj members => '\x7b' :: (memberChars members ++ ['\x7d'])

def itemChars : List Json → List Char
  | [] => []
  | [item] => chars item
  | item :: rest => chars item ++ ',' :: itemChars rest

def memberChars : List (String × Json) → List Char
  | [] => []
  | [(key, value)] => escaped key ++ ':' :: chars value
  | (key, value) :: rest => escaped key ++ ':' :: (chars value ++ ',' :: memberChars rest)

end

def compact (json : Json) : String := String.ofList json.chars

/-- A line break and the indentation of a level. -/
def lineBreak (level : Nat) : List Char := '\n' :: List.replicate (2 * level) ' '

mutual

def prettyChars (level : Nat) : Json → List Char
  | arr (item :: rest) =>
    '[' :: (lineBreak (level + 1) ++ prettyItems (level + 1) (item :: rest) ++ lineBreak level
      ++ [']'])
  | obj (entry :: rest) =>
    '\x7b' :: (lineBreak (level + 1) ++ prettyMembers (level + 1) (entry :: rest) ++ lineBreak level
      ++ ['\x7d'])
  | json => chars json

def prettyItems (level : Nat) : List Json → List Char
  | [] => []
  | [item] => prettyChars level item
  | item :: rest => prettyChars level item ++ ',' :: (lineBreak level ++ prettyItems level rest)

def prettyMembers (level : Nat) : List (String × Json) → List Char
  | [] => []
  | [(key, value)] => escaped key ++ [':', ' '] ++ prettyChars level value
  | (key, value) :: rest =>
    escaped key ++ [':', ' '] ++ prettyChars level value
      ++ ',' :: (lineBreak level ++ prettyMembers level rest)

end

def pretty (json : Json) : String := String.ofList (json.prettyChars 0)

/-! ### Values as text -/

mutual

def text : Json → String
  | null => ""
  | bool true => "true"
  | bool false => "false"
  | num value => value.render
  | str value => value
  | arr items => Text.joined "," (texts items)
  | obj members => compact (obj members)

def texts : List Json → List String
  | [] => []
  | item :: rest => text item :: texts rest

end

end HybridSearch.Json
