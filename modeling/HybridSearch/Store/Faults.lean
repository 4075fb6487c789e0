import HybridSearch.Store.Basic

/-!
# Stores that fail

A layer over a store that refuses chosen operations, so that what stands on a store can be watched
when the store fails. It also cuts a scan into pages, all from the keys at its start.

## Main definitions

* `Operation` — the operations by name.
* `FaultPlan` — which operations are refused, and how long pages are.
* `Faulty` — a store under a plan.
-/

namespace HybridSearch

inductive Operation where
  | createIndex
  | alterIndex
  | dropIndex
  | listIndexes
  | indexInfo
  | search
  | hashSet
  | hashGet
  | hashGetAll
  | delete
  | scan
  deriving DecidableEq, Repr

structure FaultPlan where
  /-- The error of an operation on an index, a key or a pattern. -/
  refuse : Operation → String → Option SearchError
  /-- The length of a page; without one, the pages are those of the store. -/
  page : Option Nat
  /-- Whether a page begins with the last key of the page before it. -/
  overlap : Bool

structure Faulty (σ : Type) where
  inner : σ
  plan : FaultPlan
  /-- The keys of the scan that began last. -/
  snapshot : List String
  /-- The deletions that were not refused. -/
  deletions : Nat

namespace Faulty

variable {σ α : Type}

def ofStore (store : σ) (plan : FaultPlan) : Faulty σ := ⟨store, plan, [], 0⟩

def onInner (step : Attempt SearchError σ α) : Attempt SearchError (Faulty σ) α :=
  step.within Faulty.inner fun faulty inner => { faulty with inner := inner }

/-- The step, unless the plan refuses it. -/
def guarded (operation : Operation) (key : String) (step : Attempt SearchError (Faulty σ) α) :
    Attempt SearchError (Faulty σ) α := do
  match (← get).plan.refuse operation key with
  | some cause => throw cause
  | none => step

/-- A page of the snapshot from a cursor on. -/
def pageOf (length : Nat) (overlap : Bool) (keys : List String) (cursor : Nat) : ScanPage :=
  let first := if overlap && 0 < cursor then cursor - 1 else cursor
  let next := cursor + length
  ⟨if next < keys.length then next else 0, (keys.take next).drop first⟩

variable [Store σ]

def scanPages (length : Nat) (pattern : String) (cursor : Nat) :
    Attempt SearchError (Faulty σ) ScanPage := do
  if cursor = 0 then
    let all ← onInner (Store.scan pattern 0)
    modify fun faulty => { faulty with snapshot := all.keys }
  let faulty ← get
  return pageOf length faulty.plan.overlap faulty.snapshot cursor

def scan (pattern : String) (cursor : Nat) : Attempt SearchError (Faulty σ) ScanPage := do
  match (← get).plan.page with
  | some length => scanPages length pattern cursor
  | none => onInner (Store.scan pattern cursor)

def delete (key : String) : Attempt SearchError (Faulty σ) Bool := do
  let removed ← onInner (Store.delete key)
  modify fun faulty => { faulty with deletions := faulty.deletions + 1 }
  return removed

/-- The keys that a scan of everything gives now, on one page. -/
def keyCount (faulty : Faulty σ) : Nat :=
  match (Store.scan "*" 0 : Attempt SearchError σ ScanPage).runFrom faulty.inner with
  | (.ok page, _) => page.keys.length
  | (.error _, _) => 0

instance : Store (Faulty σ) where
  createIndex definition :=
    guarded .createIndex definition.name (onInner (Store.createIndex definition))
  alterIndex index attributes :=
    guarded .alterIndex index (onInner (Store.alterIndex index attributes))
  dropIndex index := guarded .dropIndex index (onInner (Store.dropIndex index))
  listIndexes := guarded .listIndexes "" (onInner Store.listIndexes)
  indexInfo index := guarded .indexInfo index (onInner (Store.indexInfo index))
  search index query := guarded .search index (onInner (Store.search index query))
  hashSet key fields := guarded .hashSet key (onInner (Store.hashSet key fields))
  hashGet key field := guarded .hashGet key (onInner (Store.hashGet key field))
  hashGetAll key := guarded .hashGetAll key (onInner (Store.hashGetAll key))
  delete key := guarded .delete key (delete key)
  scan pattern cursor := guarded .scan pattern (scan pattern cursor)
  pageBound faulty := max (Store.pageBound faulty.inner) (faulty.keyCount + 1)

end Faulty

end HybridSearch
