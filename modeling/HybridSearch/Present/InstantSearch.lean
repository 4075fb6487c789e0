import HybridSearch.Error
import HybridSearch.Search.Hit

/-!
# InstantSearch responses

Hits as an InstantSearch client reads them: one page with all of them. Attributes may be given
other names for the client.

## Main definitions

* `HitMapping`, `HitMapping.ofPairs?` — output names with the attributes they show.
* `HitMapping.apply` — a hit under the names of a mapping.
* `InstantSearch.response`.
-/

namespace HybridSearch

/-- Output names with attributes; an empty mapping keeps the attributes as they are. -/
abbrev HitMapping := List (String × String)

namespace HitMapping

/-- An `output=attribute` pair. -/
def ofPair? (pair : String) : Except IngestError (String × String) :=
  match Text.cut '=' pair with
  | some (output, source) =>
    if (Text.trim output).isEmpty || (Text.trim source).isEmpty then refuse
    else .ok (Text.trim output, Text.trim source)
  | none => refuse
where
  refuse := .error (.invalidArgument ("expected output=attribute, got " ++ pair))

def ofPairs? (pairs : List String) : Except IngestError HitMapping := pairs.mapM ofPair?

def apply (mapping : HitMapping) (hit : Hit) : Json.Members :=
  let renamed : Json.Members :=
    if mapping.isEmpty then hit.value
    else Entries.ofList (mapping.map fun (output, source) =>
      (output, (hit.get? source).getD .null))
  Entries.insert renamed "objectID" (.str hit.id)

end HitMapping

namespace InstantSearch

def response (query : String) (hits : List Hit) (mapping : HitMapping) (elapsed : Nat) : Json :=
  .object
    [("exhaustive", .object [("nbHits", .bool true), ("typo", .bool true)]),
      ("exhaustiveNbHits", .bool true), ("exhaustiveType", .bool true),
      ("hits", .arr (hits.map fun hit => .obj (mapping.apply hit))),
      ("hitsPerPage", .nat hits.length), ("nbHits", .nat hits.length), ("nbPages", .nat 1),
      ("page", .nat 0), ("params", .str ""), ("processingTimeMS", .nat elapsed),
      ("query", .str query), ("renderingContent", .object [])]

end InstantSearch

end HybridSearch
