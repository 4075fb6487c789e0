import HybridSearch.Url.Host
import HybridSearch.Url.Path

/-!
# URLs

## Main definitions

* `Url`, `Url.text`.
* `Url.hasHost`, `Url.isWeb`.
* `Url.withoutUser` — the URL as it is shown and asked for, without names and passwords.
-/

namespace HybridSearch

structure Authority where
  user : List Char
  /-- A password is not empty. -/
  password : Option (List Char)
  host : Option Host
  /-- The number of the socket, if it is not the usual one of the scheme. -/
  socket : Option Nat
  deriving DecidableEq, Repr

structure Url where
  scheme : String
  authority : Option Authority
  path : UrlPath
  query : Option (List Char)
  fragment : Option (List Char)
  deriving DecidableEq, Repr

namespace Authority

def hasUser (authority : Authority) : Bool :=
  !authority.user.isEmpty || authority.password.isSome

def hostText (authority : Authority) : List Char := authority.host.elim [] Host.toChars

def toChars (authority : Authority) : List Char :=
  authority.user ++ authority.password.elim [] (':' :: ·) ++
    (if authority.hasUser then ['@'] else []) ++ authority.hostText ++
    authority.socket.elim [] fun number => ':' :: (toString number).toList

/-- Whether a part of an authority stands for text. -/
def isReadable (part : List Char) : Bool := (Text.decode? (Percent.decode part)).isSome

/-- The authority without a user whose name can be read. A password that cannot be read counts as
none. -/
def withoutUser (authority : Authority) : Authority :=
  if isReadable authority.user &&
      (!authority.user.isEmpty || authority.password.any isReadable) then
    { authority with user := [], password := none }
  else authority

end Authority

namespace Url

/-- A path that looks like an authority is told from one by a dot in front of it. -/
def pathText (url : Url) : List Char :=
  match url.authority, url.path with
  | none, .segments ([] :: _ :: _) => '/' :: '.' :: url.path.toChars
  | _, path => path.toChars

def text (url : Url) : String :=
  url.scheme ++ String.ofList (':' :: (url.authority.elim [] ('/' :: '/' :: ·.toChars) ++
    url.pathText ++ url.query.elim [] ('?' :: ·) ++ url.fragment.elim [] ('#' :: ·)))

def hasHost (url : Url) : Bool := url.authority.any (·.host.isSome)

/-- Whether the scheme is one of the web. -/
def isWeb (url : Url) : Bool := url.scheme = "http" || url.scheme = "https"

def withoutUser (url : Url) : Url :=
  { url with authority := url.authority.map Authority.withoutUser }

end Url

end HybridSearch
