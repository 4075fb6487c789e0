import HybridSearch.Decimal.Reader
import HybridSearch.Json.Basic
import HybridSearch.Text.Ascii

/-!
# Reading JSON

The strict grammar: no text before or after the document but blanks, no control character inside a
string, no surrogate without its partner, no number beyond the range of doubles and at most 127
levels of arrays and objects.

## Main definitions

* `Json.readNumber?` — a number at the start of a text.
* `Json.readString?` — the rest of a string after its first quote.
* `Json.parse?` — the document that a text holds.
-/

namespace HybridSearch.Json

/-- The four characters that may stand between tokens. -/
def isSpace (c : Char) : Bool := c = ' ' || c = '\n' || c = '\t' || c = '\r'

def skipSpace (text : List Char) : List Char := text.dropWhile isSpace

/-! ### Numbers -/

/-- Digits taken into a 64-bit significand as long as they fit, and how many followed. -/
def significand (start : Nat) : List Char → Nat × Nat
  | [] => (start, 0)
  | c :: rest =>
    let next := start * 10 + (c.toNat - '0'.toNat)
    if next < 0x10000000000000000 then significand next rest else (start, rest.length + 1)

/-- A significand over or times a power of ten, with the significand and the quotient or product
each rounded to a double; `none` beyond the range of doubles. -/
def scaled? (value : Nat) (place : Int) : Option Float :=
  let x := Float.ofNat value
  if place.natAbs ≤ 308 then
    let power := Float.ofScientific 1 false place.natAbs
    if place < 0 then some (x / power)
    else if (x * power).isInf then none else some (x * power)
  else if value = 0 then some 0.0
  else if 0 < place then none
  else
    let small := x / Float.ofScientific 1 false 308
    let left := (-place - 308).toNat
    some (if left ≤ 308 then small / Float.ofScientific 1 false left else 0.0)

/-- An exponent at the start of a text, if there is one. -/
def readExponent? : List Char → Option (Option Int × List Char)
  | c :: rest =>
    if c = 'e' ∨ c = 'E' then
      let (negative, rest) := Decimal.takeSign rest
      let (digits, rest) := Decimal.takeDigits rest
      if digits.isEmpty then none
      else
        let value : Int := Decimal.ofDigits digits
        some (some (if negative then -value else value), rest)
    else some (none, c :: rest)
  | [] => some (none, [])

/-- The double of a number with a fraction, an exponent or more digits than an integer may have.
The digits of the fraction that come after a significand is full are dropped. -/
def double? (whole fraction : List Char) (exponent : Int) : Option Float :=
  let (head, excess) := significand 0 whole
  let (value, unused) := significand head fraction
  scaled? value (exponent + excess - ((fraction.length - unused : Nat) : Int))

/-- The number of given parts. A negative zero is a double. -/
def number? (negative : Bool) (whole : List Char) (fraction : Option (List Char))
    (exponent : Option Int) : Option Number :=
  let magnitude := Decimal.ofDigits whole
  let integer : Option Number :=
    if fraction.isSome ∨ exponent.isSome then none
    else if negative then if magnitude = 0 then none else Number.ofInt? (-(magnitude : Int))
    else Number.ofInt? magnitude
  match integer with
  | some number => some number
  | none =>
    (double? whole (fraction.getD []) (exponent.getD 0)).bind fun x =>
      Number.ofFloat? (if negative then -x else x)

/-- A number at the start of a text, and the rest. -/
def readNumber? (text : List Char) : Option (Number × List Char) :=
  let (negative, text) :=
    match text with
    | '-' :: rest => (true, rest)
    | _ => (false, text)
  let (whole, rest) := Decimal.takeDigits text
  if whole.isEmpty ∨ (whole.head? = some '0' ∧ 1 < whole.length) then none
  else do
    let (fraction, rest) ←
      match rest with
      | '.' :: rest =>
        let (digits, rest) := Decimal.takeDigits rest
        if digits.isEmpty then none else some (some digits, rest)
      | _ => some (none, rest)
    let (exponent, rest) ← readExponent? rest
    let number ← number? negative whole fraction exponent
    some (number, rest)

/-! ### Strings -/

/-- The value of four hexadecimal digits, and the rest. -/
def readUnit? : List Char → Option (Nat × List Char)
  | a :: b :: c :: d :: rest => do
    let a ← Text.hexValue? a
    let b ← Text.hexValue? b
    let c ← Text.hexValue? c
    let d ← Text.hexValue? d
    some (((a * 16 + b) * 16 + c) * 16 + d, rest)
  | _ => none

/-- The character of an escape after `\u`, which two escapes share above the sixteen bits. -/
def readCode? (text : List Char) : Option (Char × List Char) := do
  let (high, rest) ← readUnit? text
  if 0xDC00 ≤ high ∧ high ≤ 0xDFFF then none
  else if 0xD800 ≤ high ∧ high ≤ 0xDBFF then
    match rest with
    | '\\' :: 'u' :: rest => do
      let (low, rest) ← readUnit? rest
      if 0xDC00 ≤ low ∧ low ≤ 0xDFFF then
        some (Char.ofNat (0x10000 + (high - 0xD800) * 0x400 + (low - 0xDC00)), rest)
      else none
    | _ => none
  else some (Char.ofNat high, rest)

/-- The character of an escape after its backslash. -/
def readEscape? : List Char → Option (Char × List Char)
  | 'u' :: rest => readCode? rest
  | '\"' :: rest => some ('\"', rest)
  | '\\' :: rest => some ('\\', rest)
  | '/' :: rest => some ('/', rest)
  | 'b' :: rest => some ('\x08', rest)
  | 'f' :: rest => some ('\x0c', rest)
  | 'n' :: rest => some ('\n', rest)
  | 'r' :: rest => some ('\r', rest)
  | 't' :: rest => some ('\t', rest)
  | _ => none

/-- The characters of a string up to its closing quote, after those in `done`, the last first. -/
def readStringFrom? : (fuel : Nat) → (done text : List Char) → Option (List Char × List Char)
  | 0, _, _ => none
  | _ + 1, _, [] => none
  | fuel + 1, done, c :: rest =>
    if c = '\"' then some (done.reverse, rest)
    else if c = '\\' then
      match readEscape? rest with
      | some (e, rest) => readStringFrom? fuel (e :: done) rest
      | none => none
    else if c < ' ' then none
    else readStringFrom? fuel (c :: done) rest

/-- The text of a string after its opening quote, and the rest. -/
def readString? (text : List Char) : Option (String × List Char) :=
  (readStringFrom? (text.length + 1) [] text).map fun (chars, rest) => (String.ofList chars, rest)

/-! ### Documents -/

mutual

/-- A document at the start of a text. Every step takes a character, so the length of the text is
fuel enough; `depth` counts the levels that may still be opened. -/
def readValue? : (fuel depth : Nat) → List Char → Option (Json × List Char)
  | 0, _, _ => none
  | fuel + 1, depth, text =>
    match skipSpace text with
    | 'n' :: 'u' :: 'l' :: 'l' :: rest => some (null, rest)
    | 't' :: 'r' :: 'u' :: 'e' :: rest => some (bool true, rest)
    | 'f' :: 'a' :: 'l' :: 's' :: 'e' :: rest => some (bool false, rest)
    | '\"' :: rest => (readString? rest).map fun (text, rest) => (str text, rest)
    | '[' :: rest =>
      if depth = 0 then none
      else
        match skipSpace rest with
        | ']' :: rest => some (arr [], rest)
        | rest => (readItems? fuel (depth - 1) [] rest).map fun (items, rest) => (arr items, rest)
    | '\x7b' :: rest =>
      if depth = 0 then none
      else
        match skipSpace rest with
        | '\x7d' :: rest => some (obj [], rest)
        | rest =>
          (readMembers? fuel (depth - 1) [] rest).map fun (members, rest) => (object members, rest)
    | rest => (readNumber? rest).map fun (number, rest) => (num number, rest)

/-- The items of an array up to its closing bracket, after those in `done`, the last first. -/
def readItems? : (fuel depth : Nat) → List Json → List Char → Option (List Json × List Char)
  | 0, _, _, _ => none
  | fuel + 1, depth, done, text =>
    match readValue? fuel depth text with
    | none => none
    | some (item, rest) =>
      match skipSpace rest with
      | ',' :: rest => readItems? fuel depth (item :: done) rest
      | ']' :: rest => some ((item :: done).reverse, rest)
      | _ => none

/-- The members of an object up to its closing brace, after those in `done`, the last first. -/
def readMembers? : (fuel depth : Nat) → List (String × Json) → List Char →
    Option (List (String × Json) × List Char)
  | 0, _, _, _ => none
  | fuel + 1, depth, done, text =>
    match skipSpace text with
    | '\"' :: rest =>
      match readString? rest with
      | none => none
      | some (key, rest) =>
        match skipSpace rest with
        | ':' :: rest =>
          match readValue? fuel depth rest with
          | none => none
          | some (value, rest) =>
            match skipSpace rest with
            | ',' :: rest => readMembers? fuel depth ((key, value) :: done) rest
            | '\x7d' :: rest => some (((key, value) :: done).reverse, rest)
            | _ => none
        | _ => none
    | _ => none

end

/-- The number of levels that arrays and objects may have. -/
def maxDepth : Nat := 127

def parseChars? (text : List Char) : Option Json :=
  match readValue? (2 * text.length + 2) maxDepth text with
  | some (json, rest) => if (skipSpace rest).isEmpty then some json else none
  | none => none

/-- The document that a text holds, with nothing but blanks around it. -/
def parse? (text : String) : Option Json := parseChars? text.toList

end HybridSearch.Json
