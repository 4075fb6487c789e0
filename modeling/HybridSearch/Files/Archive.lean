import HybridSearch.Attempt
import HybridSearch.Digest
import HybridSearch.Error
import HybridSearch.Files.Path
import HybridSearch.Json.Basic

/-!
# Archives

An archive keeps uploaded files as objects in buckets, each beside a sidecar that says what it is.
An object is a file at the path of its bucket and its name below the root; no name leads out of the
root.

## Main definitions

* `BlobStore` — putting an object.
* `Archive` — a directory of objects and sidecars.
* `Archive.objectPath?` — the path of an object.
* `Archive.put` — writes an object and then its sidecar.
-/

namespace HybridSearch

class BlobStore (α : Type) where
  /-- Stores an uploaded file, which may be missing, and gives its etag. -/
  put : (bucket object : String) → (upload : Option Bytes) → Json.Members →
    Attempt IngestError α String

inductive ArchiveNode where
  | folder
  | object (bytes : Bytes)
  | sidecar (etag : String) (metadata : Json.Members)

/-- Names below the root, the outermost first. -/
abbrev ArchivePath := List String

structure Archive where
  /-- The path of the directory. -/
  root : String
  nodes : List (ArchivePath × ArchiveNode)

namespace Archive

def empty (root : String) : Archive := ⟨root, []⟩

def get? (archive : Archive) (path : ArchivePath) : Option ArchiveNode :=
  archive.nodes.lookup path

def isFolder (archive : Archive) (path : ArchivePath) : Bool :=
  match archive.get? path with
  | some .folder => true
  | _ => false

/-- Puts a node at a path, over an older one. -/
def set (archive : Archive) (path : ArchivePath) (node : ArchiveNode) : Archive :=
  { archive with nodes := (path, node) :: archive.nodes.filter fun entry => entry.1 ≠ path }

/-! ### Names -/

/-- The text of the path of an object below the root. -/
def joinedPath (bucket object : String) : String :=
  if Path.isAbsolute object || bucket.isEmpty then object
  else if bucket.endsWith "/" then bucket ++ object
  else bucket ++ "/" ++ object

/-- Whether a path leads out of the folder it is joined to, or begins with that folder itself. -/
def escapes (path : String) : Bool :=
  Path.isAbsolute path || (Text.split '/' path).head? = some "."
    || (Path.names path).contains ".."

def objectPath? (bucket object : String) : Except IngestError ArchivePath :=
  let path := joinedPath bucket object
  if escapes path || bucket.isEmpty || object.isEmpty then
    .error (.invalidArgument ("invalid object name: " ++ bucket ++ "/" ++ object))
  else .ok (Path.names path)

/-- Whether a path is spelled as that of a folder. -/
def namesFolder (path : String) : Bool :=
  match (Text.split '/' path).getLast? with
  | some "" => true
  | some "." => true
  | _ => false

/-- A sidecar has the name of its object with an ending. -/
def sidecarPath : ArchivePath → ArchivePath
  | [] => []
  | [name] => [name ++ ".meta.json"]
  | name :: rest => name :: sidecarPath rest

/-- The number of bytes that a name may have. -/
def maxName : Nat := 255

def isName (name : String) : Bool := name.utf8ByteSize ≤ maxName

/-- The number of bytes that a path may have, that of the root included. -/
def maxPath : Nat := 4095

/-- What is wrong with a path before anything is looked up. -/
def pathFault (archive : Archive) (path : ArchivePath) : Option String :=
  let text := Text.joined "/" (archive.root :: path)
  if text.toList.contains '\x00' then some "file name contained an unexpected NUL byte"
  else if maxPath < text.utf8ByteSize then some "File name too long"
  else none

def checkPath (path : ArchivePath) : Attempt IngestError Archive Unit := do
  match (← get).pathFault path with
  | some fault => throw (.io fault)
  | none => pure ()

/-! ### Writing -/

/-- Makes the folders of a path, each below those in `above`, as far as no file is in the way. -/
def makeFolders (above : ArchivePath) : ArchivePath → Attempt IngestError Archive Unit
  | [] => pure ()
  | name :: rest => do
    let path := above ++ [name]
    if !isName name then throw (.io "File name too long")
    match (← get).get? path with
    | some .folder => pure ()
    | some _ => throw (.io "Not a directory")
    | none => modify fun archive => archive.set path .folder
    makeFolders path rest

def write (path : ArchivePath) (node : ArchiveNode) : Attempt IngestError Archive Unit := do
  checkPath path
  if !(path.all isName) then throw (.io "File name too long")
  if (← get).isFolder path then throw (.io "Is a directory")
  modify fun archive => archive.set path node

/-- The folders of an object are made before its upload is read, and the object is written before
its sidecar. -/
def put (bucket object : String) (upload : Option Bytes) (metadata : Json.Members) :
    Attempt IngestError Archive String := do
  let path ← Attempt.ofExcept (objectPath? bucket object)
  checkPath path.dropLast
  makeFolders [] path.dropLast
  match upload with
  | none => throw (.io "No such file or directory")
  | some bytes =>
    if namesFolder (joinedPath bucket object) then throw (.io "Is a directory")
    write path (.object bytes)
    let etag := Sha256.hex bytes
    write (sidecarPath path) (.sidecar etag metadata)
    return etag

instance : BlobStore Archive := ⟨put⟩

end Archive

end HybridSearch
