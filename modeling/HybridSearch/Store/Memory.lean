import HybridSearch.Store.Basic
import HybridSearch.Store.Dict
import HybridSearch.Store.Glob
import HybridSearch.Store.Matching

/-!
# The store in memory

Definitions and records are kept in dictionaries, and queries are evaluated by their structure.

## Main definitions

* `MemoryStore` — the state.
* `MemoryStore.createIndex`, `MemoryStore.alterIndex`, `MemoryStore.dropIndex` — the catalogue.
* `MemoryStore.hashSet`, `MemoryStore.delete`, `MemoryStore.keysMatching` — the records.
* `MemoryStore.search` — the documents that a query finds.
-/

namespace HybridSearch

/-- Writes a field: in its place if there is one of that name, and at the end otherwise. -/
def StoredHash.set (name : String) (bytes : Bytes) : StoredHash → StoredHash
  | [] => [(name, bytes)]
  | (other, old) :: rest =>
    if other = name then (other, bytes) :: rest else (other, old) :: set name bytes rest

/-- Writes several fields one after the other. -/
def StoredHash.merge (hash : StoredHash) (fields : List (String × FieldValue)) : StoredHash :=
  fields.foldl (fun hash field => hash.set field.1 field.2.toBytes) hash

structure MemoryStore where
  indexes : Dict IndexDefinition
  records : Dict StoredHash

namespace MemoryStore

def empty : MemoryStore := ⟨.empty, .empty⟩

/-! ### The catalogue -/

def createIndex (store : MemoryStore) (definition : IndexDefinition) :
    Except SearchError MemoryStore :=
  match store.indexes.get? definition.name with
  | some _ => .error (.schemaConflict definition.name)
  | none => .ok { store with indexes := store.indexes.insert definition.name definition }

def definition (store : MemoryStore) (index : String) : Except SearchError IndexDefinition :=
  match store.indexes.get? index with
  | some definition => .ok definition
  | none => .error (.indexMissing index)

/-- Adds attributes, none of which may have the name of one that is there. -/
def alterIndex (store : MemoryStore) (index : String) (attributes : List Attribute) :
    Except SearchError MemoryStore := do
  let definition ← store.definition index
  match attributes.find? fun new => definition.attributes.any fun old => old.name == new.name with
  | some duplicate => .error (.schemaConflict ("Duplicate field in schema: " ++ duplicate.name))
  | none =>
    let changed := { definition with attributes := definition.attributes ++ attributes }
    .ok { store with indexes := store.indexes.insert index changed }

def dropIndex (store : MemoryStore) (index : String) : Except SearchError MemoryStore := do
  let _ ← store.definition index
  .ok { store with indexes := store.indexes.erase index }

/-! ### Records -/

/-- The fields under a key; none, if there is no record. -/
def hash (store : MemoryStore) (key : String) : StoredHash := (store.records.get? key).getD []

def hashSet (store : MemoryStore) (key : String) (fields : List (String × FieldValue)) :
    MemoryStore :=
  { store with records := store.records.insert key ((store.hash key).merge fields) }

def delete (store : MemoryStore) (key : String) : MemoryStore :=
  { store with records := store.records.erase key }

def keysMatching (store : MemoryStore) (pattern : String) : List String :=
  store.records.keys.filter (Glob.isMatch pattern)

/-! ### Queries -/

/-- A record that satisfies a query, with its distance if the query asks for the nearest. -/
structure Match where
  key : String
  hash : StoredHash
  distance : Option Float

def Match.isNearer (left right : Match) : Bool := left.distance.getD 0.0 < right.distance.getD 0.0

/-- Whether the predicates let a record be a candidate for the nearest. -/
def isCandidate (query : Query) (hash : StoredHash) : Bool :=
  query.predicates.isEmpty || query.combinator.combine (query.predicates.map (·.holds hash))

/-- The distance of a record from the vector of a clause, if it has a vector of that length. -/
def distance? (definition : IndexDefinition) (clause : VectorClause) (hash : StoredHash) :
    Option Float :=
  let metric := (definition.vectorSpace?.map VectorSpace.metric).getD .cosine
  match (StoredHash.get? hash clause.field).bind Embedding.decode? with
  | some stored =>
    if stored.length = clause.vector.length then some (metric.distance stored clause.vector)
    else none
  | none => none

/-- Whether the text and the predicates of a query hold for a record; an empty query finds nothing.
-/
def satisfies (definition : IndexDefinition) (query : Query) (hash : StoredHash) : Bool :=
  let literal := (query.literal.map (definition.mentions hash)).toList
  let answers := literal ++ query.predicates.map (·.holds hash)
  !answers.isEmpty && query.combinator.combine answers

def match? (definition : IndexDefinition) (query : Query) (key : String) (hash : StoredHash) :
    Option Match :=
  match query.nearest with
  | some clause =>
    if isCandidate query hash then
      (distance? definition clause hash).map fun distance => ⟨key, hash, some distance⟩
    else none
  | none => if satisfies definition query hash then some ⟨key, hash, none⟩ else none

/-- The records whose keys begin as those of the index do. -/
def members (store : MemoryStore) (definition : IndexDefinition) : Entries StoredHash :=
  store.records.entries.filter fun entry => (Text.startsWith? definition.keySpace entry.1).isSome

/-- The matches in the order of their keys, or the nearest in the order of their distances. -/
def ordered (query : Query) (found : List Match) : List Match :=
  match query.nearest with
  | some clause => (ranked Match.isNearer found).take clause.k
  | none => found

/-- The wanted fields of a match, and its distance. -/
def project (returnFields : List String) (m : Match) : StoredHash :=
  let fields :=
    if returnFields.isEmpty then m.hash
    else returnFields.filterMap fun name =>
      (StoredHash.get? m.hash name).map fun bytes => (name, bytes)
  match m.distance with
  | some distance =>
    if returnFields.isEmpty || returnFields.contains Query.distanceField then
      fields ++ [(Query.distanceField, Text.encode (Layout.plain.render distance))]
    else fields
  | none => fields

def search (store : MemoryStore) (index : String) (query : Query) :
    Except SearchError (List StoredDocument) := do
  let definition ← store.definition index
  let found := (store.members definition).filterMap fun (key, hash) =>
    match? definition query key hash
  return ((ordered query found).take query.limit).map fun m =>
    ⟨m.key, project query.returnFields m⟩

end MemoryStore

/-- A step that changes the state unless it fails. -/
private def changing (change : MemoryStore → Except SearchError MemoryStore) :
    Attempt SearchError MemoryStore Unit :=
  ExceptT.mk fun store =>
    match change store with
    | .ok changed => (.ok (), changed)
    | .error cause => (.error cause, store)

private def reading {α : Type} (read : MemoryStore → Except SearchError α) :
    Attempt SearchError MemoryStore α :=
  ExceptT.mk fun store => (read store, store)

/-- All keys come on one page. -/
instance : Store MemoryStore where
  createIndex definition := changing (·.createIndex definition)
  alterIndex index attributes := changing (·.alterIndex index attributes)
  dropIndex index := changing (·.dropIndex index)
  listIndexes := reading fun store => .ok store.indexes.keys
  indexInfo index := reading fun store => (store.definition index).map IndexDefinition.fieldSet
  search index query := reading (·.search index query)
  hashSet key fields := changing fun store => .ok (store.hashSet key fields)
  hashGet key field := reading fun store => .ok (StoredHash.get? (store.hash key) field)
  hashGetAll key := reading fun store => .ok (store.hash key)
  delete key := ExceptT.mk fun store =>
    (.ok (store.records.get? key).isSome, store.delete key)
  scan pattern _ := reading fun store => .ok ⟨0, store.keysMatching pattern⟩
  pageBound _ := 1

end HybridSearch
