import HybridSearch.Attempt
import HybridSearch.Error
import HybridSearch.Query.Basic
import HybridSearch.Record
import HybridSearch.Schema.Index
import HybridSearch.Search.Hit

/-!
# Stores

A store keeps index definitions and records and executes queries. Indexes are named by themselves,
records by their keys.

## Main definitions

* `ScanPage` — a page of a scan over the keys; the cursor zero ends the scan.
* `Store` — the operations of a store on its state.
-/

namespace HybridSearch

structure ScanPage where
  cursor : Nat
  keys : List String
  deriving DecidableEq, Repr

class Store (σ : Type) where
  createIndex : IndexDefinition → Attempt SearchError σ Unit
  alterIndex : (index : String) → List Attribute → Attempt SearchError σ Unit
  /-- Removes the definition; the records stay. -/
  dropIndex : (index : String) → Attempt SearchError σ Unit
  listIndexes : Attempt SearchError σ (List String)
  indexInfo : (index : String) → Attempt SearchError σ FieldSet
  search : (index : String) → Query → Attempt SearchError σ (List StoredDocument)
  hashSet : (key : String) → List (String × FieldValue) → Attempt SearchError σ Unit
  hashGet : (key field : String) → Attempt SearchError σ (Option Bytes)
  /-- All fields of a record; none, if there is no record. -/
  hashGetAll : (key : String) → Attempt SearchError σ StoredHash
  /-- Tells whether there was a record. -/
  delete : (key : String) → Attempt SearchError σ Bool
  scan : (pattern : String) → (cursor : Nat) → Attempt SearchError σ ScanPage
  /-- A number of pages that no scan from this state on exceeds. -/
  pageBound : σ → Nat

end HybridSearch
