import HybridSearch.Text.Ascii
import HybridSearch.Text.Split

/-!
# Paths

A path is a text of names between slashes. Empty names and single points say nothing.

## Main definitions

* `Path.names` — the names that a path consists of.
* `Path.extension?` — what follows the last point of a name, unless nothing precedes it.
* `Path.isDataFile` — the names of files that can be ingested.
-/

namespace HybridSearch.Path

def isAbsolute (path : String) : Bool := path.startsWith "/"

/-- Two points, which lead upwards, are kept as a name. -/
def names (path : String) : List String :=
  (Text.split '/' path).filter fun name => name != "" && name != "."

/-- The last name of a path, if it is that of a file. -/
def fileName? (path : String) : Option String :=
  match (names path).getLast? with
  | some ".." => none
  | name => name

def extension? (name : String) : Option String :=
  if name = ".." then none
  else
    match Text.cutChars '.' name.toList.reverse with
    | some (ending, before) =>
      if before.isEmpty then none else some (String.ofList ending.reverse)
    | none => none

/-- The kinds of files that can be ingested. -/
inductive Format where
  | csv
  | json
  deriving DecidableEq, Repr

/-- The format of a file by its extension, in any case of ASCII letters. -/
def format? (name : String) : Option Format :=
  match (extension? name).map Text.lowerAscii with
  | some "csv" => some .csv
  | some "json" => some .json
  | _ => none

/-- The extensions of files that can be ingested. -/
def dataExtensions : List String := ["csv", "json"]

def isDataFile (name : String) : Bool :=
  (extension? name).any fun ending => dataExtensions.any (Text.sameWord ending)

end HybridSearch.Path
