import HybridSearch.Files.Path
import HybridSearch.Ranking

/-!
# Directory trees

## Main definitions

* `Tree` — a file, a folder with entries, or an entry of another kind.
* `Tree.files` — the paths of all files.
* `Tree.dataFiles` — those that can be ingested, in the order of their paths.
-/

namespace HybridSearch

inductive Tree where
  | file
  | folder (entries : List (String × Tree))
  | other

namespace Tree

mutual

/-- The paths of the files, each below a given path. -/
def files (path : List String) : Tree → List (List String)
  | file => [path]
  | folder entries => filesIn path entries
  | other => []

def filesIn (path : List String) : List (String × Tree) → List (List String)
  | [] => []
  | (name, tree) :: rest => files (path ++ [name]) tree ++ filesIn path rest

end

/-- The entry at a path below a tree. -/
def at? : Tree → List String → Option Tree
  | tree, [] => some tree
  | folder entries, name :: rest => (entries.lookup name).bind fun tree => tree.at? rest
  | _, _ :: _ => none

/-- The entries with a file at a path of names, and the folders on the way. -/
def addFile : (path : List String) → List (String × Tree) → List (String × Tree)
  | [], entries => entries
  | [name], entries => if (entries.lookup name).isSome then entries else entries ++ [(name, file)]
  | name :: rest, entries =>
    match entries.lookup name with
    | none => entries ++ [(name, folder (addFile rest []))]
    | some (folder inner) =>
      entries.map fun entry =>
        if entry.1 = name then (name, folder (addFile rest inner)) else entry
    | some _ => entries

/-- The entries with a folder at a path of names. -/
def addFolder : (path : List String) → List (String × Tree) → List (String × Tree)
  | [], entries => entries
  | name :: rest, entries =>
    match entries.lookup name with
    | none => entries ++ [(name, folder (addFolder rest []))]
    | some (folder inner) =>
      entries.map fun entry =>
        if entry.1 = name then (name, folder (addFolder rest inner)) else entry
    | some _ => entries

/-- Paths are compared name by name. -/
def inOrder (paths : List (List String)) : List (List String) :=
  ranked (fun left right => left < right) paths

/-- The files below a path that can be ingested. A path that leads nowhere has none. -/
def dataFiles (tree : Tree) (path : List String) : List (List String) :=
  let found := ((tree.at? path).map (files path)).getD []
  inOrder (found.filter fun path => (path.getLast?.map Path.isDataFile).getD false)

end Tree

end HybridSearch
