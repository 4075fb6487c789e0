import HybridSearch.Text.Split
import HybridSearch.Url.Percent

/-!
# Paths of URLs

A path is a row of segments. A segment that is a dot is left out, and one of two dots leads back to
the segment before it.

## Main definitions

* `UrlPath`, `UrlPath.toChars`.
* `UrlPath.isDrive` — whether a segment names a drive, which no dots leave.
* `UrlPath.resolve` — the segments of a path without dots.
* `UrlPath.ofWeb`, `UrlPath.ofOther`, `UrlPath.ofFile` — the paths of the kinds of URLs.
-/

namespace HybridSearch

inductive UrlPath where
  | segments (segments : List (List Char))
  /-- A path without structure. -/
  | plain (text : List Char)
  deriving DecidableEq, Repr

namespace UrlPath

def toChars : UrlPath → List Char
  | .segments rows => rows.flatMap fun segment => '/' :: segment
  | .plain text => text

/-- Whether a segment is a number of dots, each of which may be written by its byte. -/
def isDots : Nat → List Char → Bool
  | 0, segment => segment.isEmpty
  | count + 1, '.' :: rest => isDots count rest
  | count + 1, '%' :: '2' :: e :: rest => (e = 'e' || e = 'E') && isDots count rest
  | _ + 1, _ => false

/-- A letter with a colon, or with the bar that stands for one. -/
def isDrive : List Char → Bool
  | [letter, mark] => letter.isAlpha && (mark = ':' || mark = '|')
  | _ => false

/-- Leaves the last segment, which is on top. -/
def leave : List (List Char) → List (List Char)
  | [] => []
  | last :: rest => if isDrive last then last :: rest else rest

/-- The segments of a path behind those that are resolved, the last of which is on top. Dots at the
end leave an empty segment. A segment is kept as `write` puts it, given whether it is the first. -/
def resolve (write : Bool → List Char → List Char) (done : List (List Char)) :
    List (List Char) → List (List Char)
  | [] => done.reverse
  | segment :: rest =>
    if isDots 2 segment then
      if rest.isEmpty then ([] :: leave done).reverse else resolve write (leave done) rest
    else if isDots 1 segment then
      if rest.isEmpty then ([] :: done).reverse else resolve write done rest
    else resolve write (write done.isEmpty segment :: done) rest

def written (segment : List Char) : List Char := Percent.encode Percent.inPath segment

def isSlash (c : Char) : Bool := c = '/' || c = '\\'

/-- The path after a host. It has a segment, which may be empty, even if nothing is written. -/
def ofWeb (text : List Char) : UrlPath :=
  let text := match text with
    | c :: rest => if isSlash c then rest else c :: rest
    | [] => []
  segments (resolve (fun _ => written) [] (Text.pieces isSlash text))

/-- The path of a URL whose scheme is not known, where only one kind of slash divides. -/
def ofOther : List Char → UrlPath
  | [] => segments []
  | c :: rest =>
    let text := if c = '/' then rest else c :: rest
    segments (resolve (fun _ => written) [] (Text.pieces (· = '/') text))

/-- The name of a drive has a colon. -/
def withColon (isFirst : Bool) (segment : List Char) : List Char :=
  match segment with
  | [letter, _] => if isFirst && isDrive segment then [letter, ':'] else written segment
  | _ => written segment

/-- The segments of the path of a file, from its first on. -/
def fileSegments (text : List Char) : List (List Char) :=
  resolve withColon [] (Text.pieces isSlash text)

/-- Whether a path begins with a drive. -/
def hasDrive (segments : List (List Char)) : Bool := segments.head?.any isDrive

/-- The path of a file is written without empty segments at its start. -/
def ofFile (fileSegments : List (List Char)) : UrlPath :=
  match fileSegments.dropWhile List.isEmpty with
  | [] => segments [[]]
  | more => segments more

end UrlPath

end HybridSearch
