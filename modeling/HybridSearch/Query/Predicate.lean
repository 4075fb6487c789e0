import HybridSearch.Coercion
import HybridSearch.Query.Escape

/-!
# Predicates

What a filter asks of an attribute: a number in a range, one of several tags, or all tokens of a
text.

## Main definitions

* `Predicate`, `Predicate.field`.
* `Predicate.render` — its clause in the query language.
* `Predicate.ofFilters` — one predicate for each filter on a declared field.
-/

namespace HybridSearch

inductive Predicate where
  /-- A number between two bounds, these included. -/
  | range (field : String) (low high : Float)
  | tags (field : String) (values : List String)
  | tokens (field : String) (text : String)

namespace Predicate

def field : Predicate → String
  | range field _ _ => field
  | tags field _ => field
  | tokens field _ => field

def render : Predicate → String
  | range field low high =>
    "@" ++ field ++ ":[" ++ Layout.plain.render low ++ " " ++ Layout.plain.render high ++ "]"
  | tags field values =>
    "@" ++ field ++ ":\x7b" ++ Text.joined " | " (values.map Escape.tag) ++ "\x7d"
  | tokens field text => "@" ++ field ++ ":(" ++ Escape.text text ++ ")"

/-- The number of a filter on a numeric field. -/
def filterNumber? : Json → Option Float
  | .num value => some value.toFloat
  | .str text => Coercion.amount? text
  | _ => none

/-- The tags of a filter: the items of an array, or the pieces of a text between commas. -/
def filterTags (value : Json) : List String :=
  let raw :=
    match value with
    | .arr items => items.map Json.text
    | other => Text.split ',' other.text
  (raw.map Text.trim).filter fun tag => !tag.isEmpty

def filterFault (key reason : String) : SearchError :=
  .queryCompile ("filter \x60" ++ key ++ "\x60 " ++ reason)

/-- The predicate of a filter on a field of a given type. -/
def ofFilter (key : String) (type : FieldType) (value : Json) : Except SearchError Predicate :=
  match type with
  | .numeric =>
    match filterNumber? value with
    | some number => .ok (range key number number)
    | none => .error (filterFault key ("expects a number, got " ++ value.text))
  | .tag =>
    let values := filterTags value
    if values.isEmpty then .error (filterFault key "has no tag values") else .ok (tags key values)
  | .text | .vector =>
    if (Escape.text value.text).isEmpty then .error (filterFault key "has no searchable text")
    else .ok (tokens key value.text)

/-- Filters on fields that are not declared are left out. -/
def ofFilters (fields : FieldSet) (filters : Json.Members) : Except SearchError (List Predicate) :=
  filters.filterMapM fun (key, value) =>
    match fields.get? key with
    | some field => (ofFilter key field.type value).map some
    | none => .ok none

end Predicate

end HybridSearch
