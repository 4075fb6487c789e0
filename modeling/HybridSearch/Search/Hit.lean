import HybridSearch.Decimal.Reader
import HybridSearch.Json.Printer
import HybridSearch.Json.Reader
import HybridSearch.Query.Basic
import HybridSearch.Ranking
import HybridSearch.Schema.Field
import HybridSearch.Schema.Key

/-!
# Hits

A hit is a stored record made readable: numbers as numbers, embedded documents as documents, and
vectors left out. A record names its parents in one attribute, as texts in an array or between
commas; a parent lists its records in the same way.

## Main definitions

* `StoredHash`, `StoredDocument` — what a store holds and returns.
* `Hit`, `Hit.distance?`.
* `Hit.readFields` — the readable values of a stored hash.
* `Hit.ofDocument`, `Hit.nearestFirst`.
* `splitList` — the entries of a text between commas.
* `Hit.parents` — the parents that a hit names.
-/

namespace HybridSearch

/-- The fields of a stored hash, in the order in which they were first written. -/
abbrev StoredHash := List (String × Bytes)

structure StoredDocument where
  key : String
  fields : StoredHash
  deriving DecidableEq

/-- The key without what all keys of its index begin with. -/
def StoredDocument.id (document : StoredDocument) (space : String) : String :=
  (Text.startsWith? space document.key).getD document.key

structure Hit where
  id : String
  value : Json.Members

namespace Hit

def get? (hit : Hit) (field : String) : Option Json := Entries.get? hit.value field

/-- The distance of a hit; one that is no number counts as zero. -/
def distance? (hit : Hit) : Option Float :=
  (hit.get? Query.distanceField).map fun raw =>
    match raw with
    | .num value => value.toFloat
    | .str text => (Decimal.parse? (Text.trim text)).getD 0.0
    | _ => 0.0

/-- The finite number that a text denotes. -/
def readNumber? (text : String) : Option Json :=
  ((Decimal.parse? (Text.trim text)).bind Number.ofFloat?).map .num

/-- The object or array that a text holds. -/
def readDocument? (text : String) : Option Json :=
  match Text.dropBlank text.toList with
  | '\x7b' :: _ => Json.parse? text
  | '[' :: _ => Json.parse? text
  | _ => none

def readValue (text : String) (numeric : Bool) : Json :=
  ((if numeric then readNumber? text else none).or (readDocument? text)).getD (.str text)

/-- Whether a stored field is a vector: by its declaration, or by its name if there are no
declarations. -/
def isVector (fields : Option FieldSet) (name : String) : Bool :=
  match fields with
  | some fields => (fields.get? name).any fun field => field.type == .vector
  | none => Key.isVectorAttribute name

def isNumeric (fields : Option FieldSet) (name : String) : Bool :=
  name == Query.distanceField ||
    ((fields.bind fun fields => fields.get? name).any fun field => field.type == .numeric)

def readFields (fields : Option FieldSet) (raw : StoredHash) : Json.Members :=
  let kept := raw.filter fun (name, _) => !isVector fields name
  Entries.ofList <| kept.map fun (name, bytes) =>
    (name, readValue (Text.decodeLossy bytes) (isNumeric fields name))

def ofDocument (space : String) (fields : FieldSet) (document : StoredDocument) : Hit :=
  ⟨document.id space, readFields (some fields) document.fields⟩

/-- The distance by which a hit is ranked; one without a distance counts as near. -/
def effectiveDistance (hit : Hit) : Float := hit.distance?.getD 0.0

def isNearer (left right : Hit) : Bool := left.effectiveDistance < right.effectiveDistance

def nearestFirst (hits : List Hit) : List Hit := ranked isNearer hits

end Hit

/-! ### Parents -/

def trimmedEntries (raw : List String) : List String :=
  (raw.map Text.trim).filter fun entry => !entry.isEmpty

/-- The entries between commas, without the blanks around them. -/
def splitList (joined : String) : List String := trimmedEntries (Text.split ',' joined)

/-- A text in an array stands for itself, any other item for its document. -/
def referenceText : Json → String
  | .str text => text
  | item => item.compact

def Hit.parents (hit : Hit) : List String :=
  match hit.get? Query.parentField with
  | some (.str joined) => splitList joined
  | some (.arr items) => trimmedEntries (items.map referenceText)
  | some (.num number) => trimmedEntries [number.render]
  | _ => []

end HybridSearch
