import HybridSearch.DomainName.Ascii
import HybridSearch.Url.Address
import HybridSearch.Url.Percent

/-!
# Hosts

## Main definitions

* `Host`, `Host.toChars`.
* `Host.ofWeb` — the host of a URL whose scheme is known.
* `Host.ofOther` — the host of any other URL, which may be empty.
-/

namespace HybridSearch

inductive Host where
  | named (name : List Char)
  | ipv4 (address : Ipv4)
  | ipv6 (address : Ipv6)
  deriving DecidableEq, Repr

namespace Host

def toChars : Host → List Char
  | named name => name
  | ipv4 address => address.toChars
  | ipv6 address => '[' :: address.toChars ++ [']']

/-- The address between brackets. -/
def bracketed (inner : List Char) : Except UrlError Host :=
  match inner.reverse with
  | ']' :: reversed =>
    match Ipv6.parse? reversed.reverse with
    | some address => .ok (ipv6 address)
    | none => .error .badIpv6
  | _ => .error .badIpv6

/-- The host that a name in ASCII stands for. -/
def ofName (name : List Char) : Except UrlError Host :=
  if name.isEmpty then .error .emptyHost
  else if Ipv4.isNumeric name then
    match Ipv4.parse? name with
    | some address => .ok (ipv4 address)
    | none => .error .badIpv4
  else .ok (named name)

/-- A host is a domain name, or an address in numbers. -/
def ofWeb : List Char → Except UrlError Host
  | '[' :: inner => bracketed inner
  | text =>
    match (Text.readable? (Text.scan (Percent.decode text))).bind DomainName.ascii? with
    | some name => ofName name
    | none => .error .badName

/-- What a host cannot hold where it need not be a domain name. -/
def isForeign (c : Char) : Bool :=
  ['\x00', '\t', '\n', '\r', ' ', '#', '/', ':', '<', '>', '?', '@', '[', '\\', ']', '^',
    '|'].contains c

def ofOther : List Char → Except UrlError (Option Host)
  | [] => .ok none
  | '[' :: inner => (bracketed inner).map some
  | text =>
    if text.any isForeign then .error .badHostChar
    else .ok (some (named (Percent.encode [] text)))

end Host

end HybridSearch
