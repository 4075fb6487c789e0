import HybridSearch.Server.InfoReply
import HybridSearch.Server.Link
import HybridSearch.Server.SearchReply
import HybridSearch.Store.Basic

/-!
# The store behind a server

Every operation is one command and the reading of its reply.

## Main definitions

* `ServerStore` — a store behind a link.
* `ServerStore.ask` — a command with the reading of its reply.
-/

namespace HybridSearch

structure ServerStore (κ : Type) where
  link : κ

namespace ServerStore

variable {κ α : Type} [Link κ]

def ask (command : Command) (read : Reply → Except SearchError α) :
    Attempt SearchError (ServerStore κ) α := do
  let reply ← (Link.send command).within link fun _ link => ⟨link⟩
  Attempt.ofExcept (read reply)

/-- Indexes of other programs have keys of another form. -/
def indexNames (keys : List String) : List String :=
  keys.filterMap (Text.startsWith? (Key.ofIndex ""))

/-- Without fields there is nothing to send. -/
def hashSet (key : String) (fields : List (String × FieldValue)) :
    Attempt SearchError (ServerStore κ) Unit :=
  if fields.isEmpty then pure ()
  else ask (.hashSet key fields) fun reply => reply.value.map fun _ => ()

instance : Store (ServerStore κ) where
  createIndex definition := ask (.createIndex definition) fun reply => reply.value.map fun _ => ()
  alterIndex index attributes :=
    ask (.alterIndex index attributes) fun reply => reply.value.map fun _ => ()
  dropIndex index := ask (.dropIndex index) fun reply => reply.value.map fun _ => ()
  listIndexes := ask .listIndexes fun reply => reply.texts.map indexNames
  indexInfo index := ask (.indexInfo index) fun reply => reply.value.map Reply.attributes
  search index query := ask (.search index query) fun reply => reply.value.bind Reply.searchResult
  hashSet := hashSet
  hashGet key field := ask (.hashGet key field) Reply.bytesOrNil
  hashGetAll key := ask (.hashGetAll key) fun reply => reply.value.map Reply.fields
  delete key := ask (.delete key) fun reply => reply.integer.map fun removed => 0 < removed
  scan pattern cursor := ask (.scan pattern cursor) fun reply =>
    reply.cursorAndKeys.map fun (cursor, keys) => ⟨cursor, keys⟩
  pageBound store := Link.replyBound store.link

end ServerStore

end HybridSearch
