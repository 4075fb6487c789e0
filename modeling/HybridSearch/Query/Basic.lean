import HybridSearch.Query.Predicate
import HybridSearch.Vector.Single

/-!
# Queries

A query is kept by its structure: literal text, predicates and the nearest neighbours of a vector.
Its text is written in the query language of the server, dialect 2. The vector is no part of that
text; it is bound as a parameter.

## Main definitions

* `Combinator`, `VectorClause`, `SortBy`, `Query`.
* `Query.text` — the query in the query language.
* `Query.params` — the bound parameters.
-/

namespace HybridSearch

inductive Combinator where
  | and
  | or
  deriving DecidableEq, Repr

namespace Combinator

def name : Combinator → String
  | and => "AND"
  | or => "OR"

/-- Several clauses as one. -/
def join (combinator : Combinator) (clauses : List String) : String :=
  match combinator with
  | and => Text.joined " " clauses
  | or => "(" ++ Text.joined " | " clauses ++ ")"

end Combinator

/-- The `k` records whose vectors are nearest. -/
structure VectorClause where
  field : String
  vector : Embedding
  k : Nat

structure SortBy where
  field : String
  ascending : Bool
  deriving DecidableEq, Repr

structure Query where
  literal : Option String
  predicates : List Predicate
  nearest : Option VectorClause
  combinator : Combinator
  sortBy : Option SortBy
  /-- The attributes that are wanted of a record; all, if none is named. -/
  returnFields : List String
  limit : Nat

namespace Query

/-- The attribute under which the distance of a record is given. -/
def distanceField : String := "dist"

/-- The parameter that the vector is bound to. -/
def vectorParam : String := "BLOB"

/-- The attribute that names the parents of a record. -/
def parentField : String := "content_parent_uids"

def dialect : Nat := 2

/-- What a record must satisfy to be a candidate for the nearest. -/
def candidates (query : Query) : String :=
  match query.predicates.map Predicate.render, query.combinator with
  | [], _ => "*"
  | clauses, .and => "(" ++ Text.joined " " clauses ++ ")"
  | clauses, .or => Combinator.or.join clauses

def text (query : Query) : String :=
  let clauses := query.predicates.map Predicate.render
  match query.nearest, query.literal with
  | some clause, _ =>
    query.candidates ++ "=>[KNN " ++ toString clause.k ++ " @" ++ clause.field ++ " $"
      ++ vectorParam ++ " AS " ++ distanceField ++ "]"
  | none, some literal =>
    if clauses.isEmpty then literal else query.combinator.join (literal :: clauses)
  | none, none => query.combinator.join clauses

def params (query : Query) : List (String × Bytes) :=
  match query.nearest with
  | some clause => [(vectorParam, clause.vector.encode)]
  | none => []

end Query

end HybridSearch
