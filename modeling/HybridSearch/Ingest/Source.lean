import HybridSearch.Coercion
import HybridSearch.Embedding.Gateway
import HybridSearch.Schema.Key

/-!
# From source rows to records

A source row is an object. Every attribute takes its value from the first key of the row that has
its name, a vector from the key that has its name without the ending. The row may carry the id of
its record; otherwise the record gets a new one.

## Main definitions

* `Source.explicitId?` — the id that a row carries.
* `Source.find?` — the value under a name.
* `Source.values` — the values of all attributes.
* `Source.needsModel` — whether any of them is a vector.
* `IdSupply`, `Intake` — what else a record is made from.
* `Record.ofSource` — the record of a row.
-/

namespace HybridSearch

/-- A supply of ids, each of which is given out once. -/
structure IdSupply where
  name : Nat → String
  used : Nat

/-- The embeddings and the ids of new records. -/
structure Intake where
  gateway : Gateway
  ids : IdSupply

namespace Source

/-- Whether a key holds an id: `id` itself, or any key that ends with it after a point. -/
def isIdKey (key : String) : Bool := key == "id" || (Text.endsWith? ".id" key).isSome

/-- The id under the first key that holds one, unless it is blank. -/
def explicitId? (source : Json.Members) : Option String :=
  match source.find? fun entry => isIdKey entry.1 with
  | some (_, value) =>
    let id := Text.trim value.text
    if id.isEmpty then none else some id
  | none => none

/-- The key that an attribute takes its value from. -/
def wanted (field : Field) : String :=
  match field.type with
  | .vector => (Text.endsWith? Key.vectorEnding field.name).getD field.name
  | _ => field.name

/-- The value under the first key that is looked up by the given name. -/
def find? (source : Json.Members) (name : String) : Option Json :=
  (source.find? fun entry => Key.ofSource entry.1 == name).map Prod.snd

/-- The value of an attribute. -/
def value (options : CoercionOptions) (field : Field) (raw : Json) :
    Attempt IngestError Gateway FieldValue :=
  match field.type with
  | .vector =>
    FieldValue.vector <$> (Gateway.embed (.ofJson raw)).recast IngestError.search
  | type => .ofExcept (Coercion.coerce options field.name type raw)

/-- The values of the attributes that the row has, in the order of the attributes. -/
def values (options : CoercionOptions) (source : Json.Members) :
    FieldSet → Attempt IngestError Gateway (List (String × FieldValue))
  | [] => return []
  | field :: rest => do
    if field.name = Key.idAttribute then values options source rest
    else
      match find? source (wanted field) with
      | none => values options source rest
      | some raw => do
        let value ← value options field raw
        return (field.name, value) :: (← values options source rest)

end Source

namespace Source

/-- Whether a vector has to be computed for the row before its record is done or refused. -/
def needsModel (options : CoercionOptions) (source : Json.Members) : FieldSet → Bool
  | [] => false
  | field :: rest =>
    if field.name = Key.idAttribute then needsModel options source rest
    else
      match find? source (wanted field), field.type with
      | none, _ => needsModel options source rest
      | some _, .vector => true
      | some raw, type =>
        (Coercion.coerce options field.name type raw).isOk && needsModel options source rest

end Source

namespace Intake

/-- A new id. -/
def newId {ε : Type} : Attempt ε Intake String :=
  ExceptT.mk fun intake =>
    let ids := intake.ids
    (.ok (ids.name ids.used), { intake with ids := { ids with used := ids.used + 1 } })

end Intake

/-- The record with a given id; the id is its last field. -/
def Record.ofValues (index id : String) (values : List (String × FieldValue)) : Record :=
  ⟨id, Key.record index id, values ++ [(Key.idAttribute, .text id)]⟩

def Record.ofSource (options : CoercionOptions) (index : String) (fields : FieldSet)
    (source : Json.Members) : Attempt IngestError Intake Record := do
  let values ← (Source.values options source fields).within Intake.gateway
    fun intake gateway => { intake with gateway := gateway }
  let id ←
    match Source.explicitId? source with
    | some id => pure id
    | none => Intake.newId
  return .ofValues index id values

end HybridSearch
