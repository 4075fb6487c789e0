/-!
# Splitting and joining

## Main definitions

* `pieces` — the pieces of a text between characters of a kind, one more than these.
* `split` — those between the occurrences of one character.
* `cut` — the two sides of the first occurrence of a character.
* `joined` — texts with a separator between neighbours.
* `startsWith?`, `endsWith?` — what is left of a text without a given start or end.
-/

namespace HybridSearch.Text

/-- The pieces between the separators, the empty ones included. -/
def pieces (separates : Char → Bool) : List Char → List (List Char)
  | [] => [[]]
  | c :: rest =>
    if separates c then [] :: pieces separates rest
    else
      match pieces separates rest with
      | [] => [[c]]
      | piece :: more => (c :: piece) :: more

def split (separator : Char) (text : String) : List String :=
  (pieces (· == separator) text.toList).map String.ofList

/-- The characters before and after the first separator. -/
def cutChars (separator : Char) : List Char → Option (List Char × List Char)
  | [] => none
  | c :: rest =>
    if c = separator then some ([], rest)
    else (cutChars separator rest).map fun (before, after) => (c :: before, after)

def cut (separator : Char) (text : String) : Option (String × String) :=
  (cutChars separator text.toList).map fun (before, after) =>
    (String.ofList before, String.ofList after)

def joined (separator : String) : List String → String
  | [] => ""
  | [text] => text
  | text :: rest => text ++ separator ++ joined separator rest

/-- What follows the characters of `start`, if the text begins with them. -/
def dropStart? : (start text : List Char) → Option (List Char)
  | [], text => some text
  | _ :: _, [] => none
  | s :: start, c :: text => if s = c then dropStart? start text else none

/-- The rest of a text that begins with `start`. -/
def startsWith? (start text : String) : Option String :=
  (dropStart? start.toList text.toList).map String.ofList

/-- What precedes `ending` in a text that ends with it. -/
def endsWith? (ending text : String) : Option String :=
  (dropStart? ending.toList.reverse text.toList.reverse).map fun rest => String.ofList rest.reverse

/-- Whether the characters of `word` stand next to each other somewhere in the text. -/
def occurs (word : List Char) : List Char → Bool
  | [] => word.isEmpty
  | c :: rest => (dropStart? word (c :: rest)).isSome || occurs word rest

def contains (word text : String) : Bool := occurs word.toList text.toList

end HybridSearch.Text
