import HybridSearch.Text.Split

/-!
# Keys

Where the index definitions, the records and the parent documents of an index are stored.

## Main definitions

* `Key.ofIndex` — the key of a definition.
* `Key.space`, `Key.record`, `Key.parent` — what the keys of an index begin with, and the keys of
  its records and parents.
* `Key.pattern` — the glob pattern of all keys of an index.
* `Key.vectorAttribute` — the name under which the vector of a field is stored.
-/

namespace HybridSearch.Key

def ofIndex (index : String) : String := "idx:" ++ index

/-- What all keys of an index begin with. -/
def space (index : String) : String := "vs:" ++ index ++ ":"

def record (index id : String) : String := space index ++ id

def parent (index uid : String) : String := space index ++ "parent:" ++ uid

def pattern (index : String) : String := space index ++ "*"

/-- What the name of a vector attribute ends with. -/
def vectorEnding : String := "_vec"

def vectorAttribute (field : String) : String := field ++ vectorEnding

def isVectorAttribute (name : String) : Bool := (Text.endsWith? vectorEnding name).isSome

/-- The attribute that holds the id of a record. -/
def idAttribute : String := "__uid"

/-- The name under which a key of a source row is looked up: points become two underscores. -/
def ofSource (key : String) : String :=
  String.ofList (key.toList.flatMap fun c => if c = '.' then ['_', '_'] else [c])

end HybridSearch.Key
