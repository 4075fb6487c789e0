import HybridSearch.Json.Basic
import HybridSearch.Schema.Field
import HybridSearch.Text.Split

/-!
# Fields and filters on a command line

A field is written `name`, `name:TYPE` or `name:TYPE:sortable`, a filter `name=value`.

## Main definitions

* `Field.ofSpec?`, `Filter.ofSpecs?`.
-/

namespace HybridSearch

/-- The flag of a field specification, if it is the right one. -/
def Field.sortableOfFlag? (spec : String) : Option String → Except String Bool
  | none => .ok false
  | some flag =>
    if Text.sameWord flag "sortable" then .ok true
    else .error ("unknown field flag \x60" ++ flag ++ "\x60 in " ++ spec)

/-- A field without a type is a text. -/
def Field.ofSpec? (spec : String) : Except String Field := do
  let parts := Text.split ':' spec
  let name := Text.trim (parts.head?.getD "")
  if name.isEmpty then throw ("field needs a name: " ++ spec)
  let sortable ← sortableOfFlag? spec parts[2]?
  return ⟨name, .ofDeclared (parts[1]?.getD "TEXT"), sortable⟩

namespace Filter

def ofSpec? (spec : String) : Except String (String × Json) :=
  match Text.cut '=' spec with
  | some (name, value) => .ok (Text.trim name, .str value)
  | none => .error ("filter must be name=value: " ++ spec)

/-- Of several filters on one name the last stays. -/
def ofSpecs? (specs : List String) : Except String Json.Members :=
  (specs.mapM ofSpec?).map Entries.ofList

end Filter

end HybridSearch
