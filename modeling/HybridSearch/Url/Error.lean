/-!
# What a text lacks to be a URL

## Main definitions

* `UrlError`, `UrlError.message`.
-/

namespace HybridSearch

inductive UrlError where
  | noScheme
  | emptyHost
  | badName
  | badHostChar
  | badSocketNumber
  | badIpv4
  | badIpv6
  deriving DecidableEq, Repr

def UrlError.message : UrlError → String
  | noScheme => "relative URL without a base"
  | emptyHost => "empty host"
  | badName => "invalid international domain name"
  | badHostChar => "invalid domain character"
  | badSocketNumber => "invalid port number"
  | badIpv4 => "invalid IPv4 address"
  | badIpv6 => "invalid IPv6 address"

end HybridSearch
