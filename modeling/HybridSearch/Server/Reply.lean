import HybridSearch.Decimal.Layout
import HybridSearch.Server.ErrorLine
import HybridSearch.Text.Utf8

/-!
# Replies of a server

The values that a server answers with. The older protocol sends pairs as an array of alternating
keys and values, the newer one as a map; both are read alike.

## Main definitions

* `Reply`.
* `Reply.bytes?`, `Reply.text?` — the content of a reply that is a single value.
* `Reply.pairs`, `Reply.fields` — the pairs of an array or a map.
-/

namespace HybridSearch

inductive Reply where
  | nil
  | int (value : Int)
  | bulk (value : Bytes)
  | simple (value : String)
  /-- The simple text `OK`. -/
  | okay
  | double (value : Float)
  | bool (value : Bool)
  | verbatim (value : String)
  | array (items : List Reply)
  | map (entries : List (Reply × Reply))
  | set (items : List Reply)
  | error (line : ErrorLine)
  deriving Inhabited

namespace Reply

def bytes? : Reply → Option Bytes
  | bulk value => some value
  | simple value => some (Text.encode value)
  | int value => some (Text.encode (toString value))
  | double value => some (Text.encode (Layout.plain.render value))
  | okay => some (Text.encode "OK")
  | verbatim value => some (Text.encode value)
  | _ => none

def text? (reply : Reply) : Option String := reply.bytes?.map Text.decodeLossy

/-- Neighbours two by two; a last one without a partner is left out. -/
def paired : List Reply → List (Reply × Reply)
  | key :: value :: rest => (key, value) :: paired rest
  | _ => []

def pairs : Reply → List (Reply × Reply)
  | array items => paired items
  | map entries => entries
  | _ => []

/-- The pairs whose two sides are single values. -/
def fields (reply : Reply) : List (String × Bytes) :=
  reply.pairs.filterMap fun (name, value) => do
    let name ← name.text?
    let value ← value.bytes?
    some (name, value)

end Reply

end HybridSearch
