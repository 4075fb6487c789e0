/-!
# Glob patterns

A pattern is read into items: a star stands for any text, a question mark for one character, a
backslash takes the meaning from the character after it, and all else stands for itself.

## Main definitions

* `Glob.Item`, `Glob.items` — the items of a pattern.
* `Glob.accepts` — whether a text can be cut into pieces that the items stand for.
* `Glob.isMatch`.
-/

namespace HybridSearch.Glob

inductive Item where
  | anyText
  | anyChar
  | char (c : Char)
  deriving DecidableEq, Repr

/-- A backslash at the end of a pattern stands for itself. -/
def items : List Char → List Item
  | [] => []
  | '*' :: rest => .anyText :: items rest
  | '?' :: rest => .anyChar :: items rest
  | '\\' :: c :: rest => .char c :: items rest
  | c :: rest => .char c :: items rest

/-- Whether a rest of the text, itself and nothing included, passes. -/
def anyRest (passes : List Char → Bool) : List Char → Bool
  | [] => passes []
  | c :: rest => passes (c :: rest) || anyRest passes rest

def accepts : List Item → List Char → Bool
  | [], text => text.isEmpty
  | .anyText :: more, text => anyRest (accepts more) text
  | .anyChar :: more, text =>
    match text with
    | [] => false
    | _ :: rest => accepts more rest
  | .char c :: more, text =>
    match text with
    | [] => false
    | d :: rest => c == d && accepts more rest

def isMatch (pattern text : String) : Bool := accepts (items pattern.toList) text.toList

end HybridSearch.Glob
