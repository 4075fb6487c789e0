import HybridSearch.Json.Basic
import HybridSearch.Query.Basic

/-!
# Search requests

## Main definitions

* `SearchRequest`, `SearchRequest.ofIndex`.
* `SearchRequest.freeText?` — the text to search for, if it is not blank.
* `SearchRequest.ofJson?`, `SearchRequest.toJson`.
-/

namespace HybridSearch

structure SearchRequest where
  index : String
  query : Option String
  filters : Json.Members
  combinator : Combinator
  limit : Nat
  /-- Whether the parents of the hits are wanted. -/
  parents : Bool

/-- A text without the blanks around it, if anything is left. -/
def freeText? (text : Option String) : Option String :=
  (text.map Text.trim).filter fun trimmed => !trimmed.isEmpty

def Combinator.ofJson? (json : Json) : Option Combinator :=
  match json.choice? with
  | some "AND" => some .and
  | some "OR" => some .or
  | _ => none

namespace SearchRequest

def standardLimit : Nat := 10

def ofIndex (index : String) : SearchRequest := ⟨index, none, [], .and, standardLimit, false⟩

def freeText? (request : SearchRequest) : Option String := HybridSearch.freeText? request.query

/-- A text, or `null` for none. -/
def readQuery? : Json → Option (Option String)
  | .null => some none
  | .str text => some (some text)
  | _ => none

def ofJson? (json : Json) : Option SearchRequest := do
  let shape ← json.shape? ["index", "query", "filters", "combinator", "limit", "parents"]
  let index ← shape.required? "index" Json.str?
  let query ← shape.optional? "query" none readQuery?
  let filters ← shape.optional? "filters" [] Json.obj?
  let combinator ← shape.optional? "combinator" .and Combinator.ofJson?
  let limit ← shape.optional? "limit" standardLimit Json.nat?
  let parents ← shape.optional? "parents" false Json.bool?
  some ⟨index, query, filters, combinator, limit, parents⟩

def toJson (request : SearchRequest) : Json :=
  .object
    [("index", .str request.index),
      ("query", match request.query with | some text => .str text | none => .null),
      ("filters", .obj request.filters), ("combinator", .str request.combinator.name),
      ("limit", .nat request.limit), ("parents", .bool request.parents)]

end SearchRequest

end HybridSearch
