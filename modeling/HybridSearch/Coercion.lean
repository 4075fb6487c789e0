import HybridSearch.Config
import HybridSearch.Decimal.Reader
import HybridSearch.Error
import HybridSearch.Json.Printer
import HybridSearch.Record
import HybridSearch.Schema.Field

/-!
# From source values to attribute values

Text and tag attributes take the text of a value; numeric attributes take numbers, truth values and
texts that hold a number among other signs, such as an amount with its currency.

## Main definitions

* `Coercion.amount?` — the number in a text.
* `Coercion.sanitized` — a text without punctuation.
* `Coercion.coerce` — the value of an attribute.
-/

namespace HybridSearch.Coercion

/-- Whether a character can be part of an amount. -/
def isAmountChar (c : Char) : Bool := Text.isDecimal c || c = '.' || c = '-' || c = '+'

/-- The finite number that remains of a text without currency signs, separators and units. -/
def amount? (text : String) : Option Float :=
  (Decimal.parseChars? (text.toList.filter isAmountChar)).filter Float.isFinite

def isPlainChar (c : Char) : Bool :=
  Text.isAlphanumeric c || c = '_' || c = '-' || Text.isBlank c

def sanitized (text : String) : String := String.ofList (text.toList.filter isPlainChar)

mutual

/-- The number of a value; an array counts as its first item. -/
def number? : Json → Option Float
  | .num value => some value.toFloat
  | .str text => amount? text
  | .bool flag => some (if flag then 1.0 else 0.0)
  | .arr items => firstNumber? items
  | .null => none
  | .obj _ => none

def firstNumber? : List Json → Option Float
  | [] => none
  | item :: _ => number? item

end

mutual

/-- The value that decides over a number: the innermost first item of nested arrays. -/
def innermost : Json → Json
  | .arr items => firstInnermost items
  | value => value

def firstInnermost : List Json → Json
  | [] => .arr []
  | item :: _ => innermost item

end

/-- The number of a numeric attribute. -/
def numeric (mode : NumericMode) (field : String) (value : Json) : Except IngestError Float :=
  match number? value, mode with
  | some number, _ => .ok number
  | none, .lenient => .ok 0.0
  | none, .strict => .error (.invalidValue field (innermost value).text)

/-- The value of an attribute that is no vector. -/
def coerce (options : CoercionOptions) (field : String) (type : FieldType) (value : Json) :
    Except IngestError FieldValue :=
  match type with
  | .numeric => (numeric options.numeric field value).map .number
  | .text => .ok (.text (if options.sanitizes then sanitized value.text else value.text))
  | .tag => .ok (.text value.text)
  | .vector => .ok (.text value.text)

end HybridSearch.Coercion
