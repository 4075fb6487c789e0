import HybridSearch.Query.Basic
import HybridSearch.Record
import HybridSearch.Schema.Index

/-!
# Commands to a server

A command is a list of arguments, the first of which is its name.

## Main definitions

* `Command`.
* `Command.createIndex`, `Command.alterIndex`, `Command.dropIndex`, `Command.listIndexes`,
  `Command.indexInfo`, `Command.search` — commands on indexes.
* `Command.hashSet`, `Command.hashGet`, `Command.hashGetAll`, `Command.delete`, `Command.scan` —
  commands on records.
-/

namespace HybridSearch

abbrev Command := List Bytes

namespace Command

def ofTexts (arguments : List String) : Command := arguments.map Text.encode

/-- The arguments that say what an attribute holds. -/
def kindArguments : AttributeKind → List String
  | .text => ["TEXT"]
  | .tag => ["TAG"]
  | .numeric => ["NUMERIC"]
  | .vector space =>
    ["VECTOR", "HNSW", "6", "TYPE", "FLOAT32", "DIM", toString space.dimension,
     "DISTANCE_METRIC", space.metric.name]

def isVectorKind : AttributeKind → Bool
  | .vector _ => true
  | _ => false

def attributeArguments (a : Attribute) : List String :=
  a.name :: kindArguments a.kind
    ++ if a.sortable && !isVectorKind a.kind then ["SORTABLE"] else []

def createIndex (definition : IndexDefinition) : Command :=
  ofTexts (["FT.CREATE", Key.ofIndex definition.name, "ON", "HASH", "PREFIX", "1",
    definition.keySpace, "SCHEMA"] ++ definition.attributes.flatMap attributeArguments)

def alterIndex (index : String) (attributes : List Attribute) : Command :=
  ofTexts (["FT.ALTER", Key.ofIndex index, "SCHEMA", "ADD"]
    ++ attributes.flatMap attributeArguments)

def dropIndex (index : String) : Command := ofTexts ["FT.DROPINDEX", Key.ofIndex index]

def listIndexes : Command := ofTexts ["FT._LIST"]

def indexInfo (index : String) : Command := ofTexts ["FT.INFO", Key.ofIndex index]

def returnArguments (fields : List String) : List String :=
  if fields.isEmpty then [] else "RETURN" :: toString fields.length :: fields

def sortArguments : Option SortBy → List String
  | some sort => ["SORTBY", sort.field, if sort.ascending then "ASC" else "DESC"]
  | none => []

def paramArguments (params : List (String × Bytes)) : Command :=
  if params.isEmpty then []
  else
    ofTexts ["PARAMS", toString (params.length * 2)]
      ++ params.flatMap fun (name, value) => [Text.encode name, value]

def search (index : String) (query : Query) : Command :=
  ofTexts (["FT.SEARCH", Key.ofIndex index, query.text]
      ++ returnArguments query.returnFields ++ sortArguments query.sortBy)
    ++ paramArguments query.params
    ++ ofTexts ["LIMIT", "0", toString query.limit, "DIALECT", toString Query.dialect]

def hashSet (key : String) (fields : List (String × FieldValue)) : Command :=
  ofTexts ["HSET", key]
    ++ fields.flatMap fun (name, value) => [Text.encode name, value.toBytes]

def hashGet (key field : String) : Command := ofTexts ["HGET", key, field]

def hashGetAll (key : String) : Command := ofTexts ["HGETALL", key]

def delete (key : String) : Command := ofTexts ["DEL", key]

/-- How many keys a server may look at for one page. -/
def scanCount : Nat := 500

def scan (pattern : String) (cursor : Nat) : Command :=
  ofTexts ["SCAN", toString cursor, "MATCH", pattern, "COUNT", toString scanCount]

end Command

end HybridSearch
