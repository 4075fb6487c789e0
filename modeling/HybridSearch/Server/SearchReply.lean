import HybridSearch.Error
import HybridSearch.Search.Hit
import HybridSearch.Server.Reply

/-!
# Replies to a search

The number of matches, then for each document its key and the block of its fields, which may be
missing.

## Main definitions

* `Reply.documents` — documents from what follows the number of matches.
* `Reply.searchResult`.
-/

namespace HybridSearch.Reply

/-- Whether a reply is the block of fields of the document before it. -/
def isBlock : Reply → Bool
  | array _ => true
  | map _ => true
  | _ => false

/-- Elements where a key should be and that are no single value are passed over. -/
def documents : List Reply → List StoredDocument
  | [] => []
  | [key] => (key.text?.map fun key => ⟨key, []⟩).toList
  | key :: block :: rest =>
    match key.text? with
    | none => documents (block :: rest)
    | some key =>
      if block.isBlock then ⟨key, block.fields⟩ :: documents rest
      else ⟨key, []⟩ :: documents (block :: rest)

def searchResult : Reply → Except SearchError (List StoredDocument)
  | array items => .ok (documents (items.drop 1))
  | _ => .error (.badResponse "redis" "unexpected FT.SEARCH reply")

end HybridSearch.Reply
