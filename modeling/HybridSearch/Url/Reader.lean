import HybridSearch.Decimal.Reader
import HybridSearch.Url.Basic

/-!
# Reading URLs

A text is read from its scheme on. Blanks and control characters around it and line breaks in it do
not count. There are three kinds of schemes: some whose URLs have a host, among them those of the
web; that of files; and all others.

## Main definitions

* `Url.parse?`.
-/

namespace HybridSearch.Url

/-- A control character or a space, which may stand around a URL. -/
def isMargin (c : Char) : Bool := c ≤ ' '

def isLineMark (c : Char) : Bool := c = '\t' || c = '\n' || c = '\r'

/-- The characters of a URL without the margin and without line breaks and tabs. -/
def cleaned (text : String) : List Char :=
  let inner := ((text.toList.dropWhile isMargin).reverse.dropWhile isMargin).reverse
  inner.filter fun c => !isLineMark c

def isSchemeChar (c : Char) : Bool := c.isAlphanum || c = '+' || c = '-' || c = '.'

/-- The scheme in lowercase, and what follows its colon. -/
def scheme? (text : List Char) : Option (String × List Char) :=
  match Text.cutChars ':' text with
  | some (first :: name, rest) =>
    if first.isAlpha && name.all isSchemeChar then
      some (String.ofList ((first :: name).map Char.toLower), rest)
    else none
  | _ => none

/-- The schemes whose URLs have a host, with their usual sockets. -/
def hostSchemes : List (String × Nat) :=
  [("http", 80), ("https", 443), ("ws", 80), ("wss", 443), ("ftp", 21)]

/-! ### Authorities -/

/-- User and password, and what follows the last at sign. -/
def splitUser (text : List Char) : Option (List Char) × List Char :=
  match Text.cutChars '@' text.reverse with
  | some (host, user) => (some user.reverse, host.reverse)
  | none => (none, text)

/-- The host, and what follows the colon behind it. A colon in brackets belongs to the host. -/
def splitHost (inBrackets : Bool) : List Char → List Char × Option (List Char)
  | [] => ([], none)
  | c :: rest =>
    if c = ':' && !inBrackets then ([], some rest)
    else
      let (host, socket) := splitHost (c = '[' || (inBrackets && c ≠ ']')) rest
      (c :: host, socket)

def inUser (text : List Char) : List Char := Percent.encode Percent.inUser text

/-- The name before the first colon, and the password after it. -/
def credentials (text : List Char) : List Char × Option (List Char) :=
  match Text.cutChars ':' text with
  | none => (inUser text, none)
  | some (user, []) => (inUser user, none)
  | some (user, password) => (inUser user, some (inUser password))

/-- The number of a socket, and the text behind it, which begins a path. -/
def socket? (text : List Char) : Except UrlError (Option Nat × List Char) :=
  let (digits, rest) := Decimal.takeDigits text
  if 65535 < Decimal.ofDigits digits then .error .badSocketNumber
  else
    match rest with
    | [] | '\\' :: _ => .ok (if digits.isEmpty then none else some (Decimal.ofDigits digits), rest)
    | _ => .error .badSocketNumber

/-- Reads an authority with a reader of hosts. What is left of it begins the path. -/
def authority? (host? : List Char → Except UrlError (Option Host)) (usual : Option Nat)
    (text : List Char) : Except UrlError (Authority × List Char) := do
  let (user, location) := splitUser text
  let (user, password) := credentials (user.getD [])
  let (hostText, socket) := splitHost false location
  let host ← host? hostText
  if host.isNone && (socket.isSome || !user.isEmpty || password.isSome) then throw .emptyHost
  let (socket, rest) ← socket? (socket.getD [])
  return (⟨user, password, host, if socket = usual then none else socket⟩, rest)

def webHost? (text : List Char) : Except UrlError (Option Host) :=
  if text.isEmpty then .error .emptyHost else (Host.ofWeb text).map some

/-! ### Kinds of schemes -/

/-- What a URL names between its scheme and its query. -/
abbrev Location := Option Authority × UrlPath

/-- Any number of slashes introduces the authority of a URL that has a host. -/
def webLocation (usual : Nat) (text : List Char) : Except UrlError Location := do
  let text := text.dropWhile UrlPath.isSlash
  let authority := text.takeWhile fun c => !UrlPath.isSlash c
  let (parsed, _) ← authority? webHost? (some usual) authority
  return (some parsed, .ofWeb (text.drop authority.length))

/-- Two slashes introduce an authority, and one a path. An at sign alone is no authority when
something follows it; `isWhole` tells that nothing follows the text. -/
def otherLocation (isWhole : Bool) : List Char → Except UrlError Location
  | '/' :: '/' :: text => do
    let authority := text.takeWhile (· ≠ '/')
    let path := text.drop authority.length
    if authority = ['@'] && !(isWhole && path.isEmpty) then throw .emptyHost
    let (parsed, rest) ← authority? Host.ofOther none authority
    return (some parsed, .ofOther (rest ++ path))
  | '/' :: text => .ok (none, .ofOther ('/' :: text))
  | text => .ok (none, .plain (Percent.encode [] text))

def noHost : Authority := ⟨[], none, none, none⟩

def isLocal (name : List Char) : Bool := name = "localhost".toList

/-- The host of a file. This machine is none. -/
def fileHost? (text : List Char) : Except UrlError (Option Host) :=
  if text.isEmpty then .ok none
  else
    (Host.ofWeb text).map fun host =>
      match host with
      | .named name => if isLocal name then none else some (.named name)
      | host => some host

/-- The path of a file that names no host. -/
def unhosted (text : List Char) : Location := (some noHost, .ofFile (UrlPath.fileSegments text))

/-- What follows two slashes in the URL of a file is a host, unless it is a drive. A file on a drive
has no host. -/
def hostedFile (text : List Char) : Except UrlError Location := do
  let name := text.takeWhile fun c => !UrlPath.isSlash c
  if UrlPath.isDrive name then return unhosted text
  let rest := text.drop name.length
  match ← fileHost? name with
  | none => return unhosted rest
  | some host =>
    let segments := UrlPath.fileSegments (rest.drop 1)
    let host := if UrlPath.hasDrive segments then none else some host
    return (some { noHost with host := host }, .ofFile segments)

/-- One slash before the path of a file is the same as none. -/
def fileLocation : List Char → Except UrlError Location
  | [] => .ok (unhosted [])
  | [c] => .ok (unhosted (if UrlPath.isSlash c then [] else [c]))
  | c :: d :: rest =>
    if UrlPath.isSlash c then
      if UrlPath.isSlash d then hostedFile rest else .ok (unhosted (d :: rest))
    else .ok (unhosted (c :: d :: rest))

def location (scheme : String) (isWhole : Bool) (text : List Char) : Except UrlError Location :=
  if scheme = "file" then fileLocation text
  else
    match hostSchemes.lookup scheme with
    | some usual => webLocation usual text
    | none => otherLocation isWhole text

/-- The two sides of the first mark, of which the second may be missing. -/
def cutOptional (mark : Char) (text : List Char) : List Char × Option (List Char) :=
  match Text.cutChars mark text with
  | some (before, after) => (before, some after)
  | none => (text, none)

/-- The URL that a text spells, or what the text lacks. -/
def parse? (text : String) : Except UrlError Url :=
  match scheme? (cleaned text) with
  | none => .error .noScheme
  | some (scheme, rest) => do
    let (rest, fragment) := cutOptional '#' rest
    let (rest, query) := cutOptional '?' rest
    let isPlainQuery := scheme ≠ "file" && (hostSchemes.lookup scheme).isNone
    let inQuery := if isPlainQuery then Percent.inQuery else '\'' :: Percent.inQuery
    let (authority, path) ← location scheme (query.isNone && fragment.isNone) rest
    return ⟨scheme, authority, path, query.map (Percent.encode inQuery),
      fragment.map (Percent.encode Percent.inFragment)⟩

end HybridSearch.Url
